import SubstBot.Proofs.PatternText.Scan
import SubstBot.Proofs.PatternText.Syntax

/-!
# `SubstBot/Proofs/PatternText/Toggle.lean` — the swap toggles exactly the quantifiers

`swap` goes over the text of a pattern once and keeps no stack, and `toggled` follows the tree of a
pattern. **On well-formed patterns they agree** (`swap_text`), for trees of any depth.

The induction is over the tree, with what follows a part of it as an arbitrary text. Nothing has to
be known of that text behind an atom. Behind items, where the last quantifier may have no mark, it
has to be known that what follows is no mark: `NoMark`, which the end of a pattern and the
parenthesis that closes a group fulfil, and which the items in between hand on (`Items.noMark`).
-/

set_option autoImplicit false

namespace SubstBot.PatternText

open Greed

variable {v : Bool}

/-! ## Ignored text -/

theorem Ignored.skips (i : Ignored v) : Skips v i.text := by
  cases i with
  | comment body closed => exact skips_comment closed
  | blank c free blank => exact skips_blank free blank
  | line body free oneLine => exact skips_line free oneLine

theorem skips_gapText (gap : List (Ignored v)) : Skips v (gapText gap) := by
  induction gap with
  | nil => exact Skips.nil v
  | cons i gap ih => exact i.skips.append ih

/-! ## Classes -/

theorem classMembers_append (ms : List ClassMember) (r : List Char) :
    classMembers (ms.flatMap ClassMember.text ++ ']' :: r) =
      (ms.flatMap ClassMember.text ++ [']'], r) := by
  induction ms with
  | nil => simp [classMembers]
  | cons m ms ih =>
    cases m with
    | pair c =>
      rw [List.flatMap_cons, ClassMember.text, List.append_assoc, List.cons_append,
        List.cons_append, List.nil_append, classMembers, ih]
      rfl
    | char c plain =>
      rw [List.flatMap_cons, ClassMember.text, List.append_assoc, List.singleton_append,
        classMembers_cons plain.2, if_neg plain.1, ih]
      rfl

/-- No member begins with a bracket that would be the leading one. -/
theorem leading_bracket_members {ms : List ClassMember} (h : ms ≠ []) (r : List Char) :
    leading ']' (ms.flatMap ClassMember.text ++ r) = ([], ms.flatMap ClassMember.text ++ r) := by
  cases ms with
  | nil => exact absurd rfl h
  | cons m ms =>
    cases m with
    | pair c => exact leading_of_ne (by simp) _
    | char c plain => exact leading_of_ne plain.1 _

theorem leading_caret_members {ms : List ClassMember} (h : ms ≠ [])
    (hc : ∀ hp, ms.head? ≠ some (.char '^' hp)) (r : List Char) :
    leading '^' (ms.flatMap ClassMember.text ++ r) = ([], ms.flatMap ClassMember.text ++ r) := by
  cases ms with
  | nil => exact absurd rfl h
  | cons m ms =>
    cases m with
    | pair c => exact leading_of_ne (by simp) _
    | char c plain =>
      refine leading_of_ne ?_ _
      rintro rfl
      exact hc plain rfl

/-- **A class is read to its closing bracket**, whatever follows it. -/
theorem classBody_append (k : CharClass) (r : List Char) :
    classBody (k.body ++ r) = (k.body, r) := by
  obtain ⟨caret, bracket, ms, nonempty, noCaret⟩ := k
  have hms := classMembers_append ms r
  cases caret with
  | true =>
    cases bracket with
    | true => simp [classBody, CharClass.body, leading_self, hms]
    | false =>
      have hne : ms ≠ [] := nonempty.resolve_left (by simp)
      simp [classBody, CharClass.body, leading_self, leading_bracket_members hne, hms]
  | false =>
    cases bracket with
    | true =>
      have hb := leading_of_ne (by simp : ']' ≠ '^') (ms.flatMap ClassMember.text ++ ']' :: r)
      simp [classBody, CharClass.body, leading_self, hb, hms]
    | false =>
      have hne : ms ≠ [] := nonempty.resolve_left (by simp)
      simp [classBody, CharClass.body, leading_caret_members hne (noCaret rfl rfl),
        leading_bracket_members hne, hms]

/-! ## Quantifiers -/

theorem digits_append {ds : List Char} (hds : ∀ c ∈ ds, c.isDigit = true) {c : Char}
    (hc : Text.isDecimalDigit c = false) (r : List Char) :
    digits (ds ++ c :: r) = (ds, c :: r) :=
  digits_append_of_stop (fun d hd => Text.isDecimalDigit_of_isDigit (hds d hd)) hc r

/-- Every quantifier is read in whole, whatever follows it. -/
theorem quantifier?_append (q : Quantifier) (r : List Char) :
    quantifier? (q.text ++ r) = some (q.text, r) := by
  have hclose : Text.isDecimalDigit '\x7d' = false := rfl
  have hcomma : Text.isDecimalDigit ',' = false := rfl
  have hnil : ∀ c ∈ ([] : List Char), c.isDigit = true := by simp
  cases q with
  | star => rfl
  | plus => rfl
  | optional => rfl
  | exactly m =>
    have hm := digits_append m.2.2 hclose r
    simp [quantifier?, Quantifier.text, braces?, hm, m.2.1]
  | atLeast m =>
    have hm := digits_append m.2.2 hcomma ('\x7d' :: r)
    have h0 : digits ('\x7d' :: r) = ([], '\x7d' :: r) := digits_append hnil hclose r
    simp [quantifier?, Quantifier.text, braces?, hm, h0, m.2.1]
  | between m n =>
    have hm := digits_append m.2.2 hcomma (n.val ++ '\x7d' :: r)
    have hn := digits_append n.2.2 hclose r
    simp [quantifier?, Quantifier.text, braces?, hm, hn, m.2.1]
  | atMost n =>
    -- The run of digits in front of the comma is empty here.
    have h0 : digits (',' :: (n.val ++ '\x7d' :: r)) = ([], ',' :: (n.val ++ '\x7d' :: r)) :=
      digits_append hnil hcomma _
    have hn := digits_append n.2.2 hclose r
    simp [quantifier?, Quantifier.text, braces?, h0, hn, n.2.1]

/-- The ignored text that a toggled quantifier leaves behind stands where it stood. -/
theorem swap_repetition (q : Repetition v) {rest : List Char} (h : NoMark v rest) :
    swap v (q.text ++ rest) =
      q.toggled.text ++ (gapText q.marking.released ++ swap v rest) := by
  obtain ⟨before, quantifier, marking⟩ := q
  have hq := quantifier?_append quantifier
  simp only [Repetition.text, Repetition.toggled, List.append_assoc]
  rw [swap_skips (skips_gapText before)]
  cases marking with
  | greedy =>
    simp only [Marking.text, Marking.toggled, Marking.released, gapText, List.nil_append]
    rw [swap_greedy (hq _) h]
    simp
  | lazy gap =>
    simp only [Marking.text, Marking.toggled, Marking.released, List.append_assoc, List.nil_append,
      List.singleton_append]
    rw [swap_lazy (skips_gapText gap) (hq _)]
  | possessive gap =>
    simp only [Marking.text, Marking.toggled, Marking.released, List.append_assoc,
      List.singleton_append]
    rw [swap_possessive (skips_gapText gap) (hq _)]
    simp [gapText]

/-! ## Literals -/

theorem isLiteral_iff {c : Char} :
    isLiteral v c = true ↔
      (c ≠ '\\' ∧ c ≠ '[' ∧ c ≠ '(' ∧ c ≠ ')' ∧ c ≠ '\x7b' ∧ c ≠ '*' ∧ c ≠ '+' ∧ c ≠ '?') ∧
        (v = true → Text.isBlank c = false ∧ c ≠ '#') := by
  cases v <;> simp [isLiteral]

theorem ignoredLength_literal (c : Literal v) (r : List Char) :
    ignoredLength v .nothing (c.val :: r) = 0 := by
  obtain ⟨⟨_, _, hp, _⟩, hv⟩ := isLiteral_iff.mp c.2
  exact ignoredLength_eq_zero hp hv

theorem swap_literal (c : Literal v) (r : List Char) : swap v (c.val :: r) = c.val :: swap v r := by
  obtain ⟨⟨h1, h2, h3, _, h5, h6, h7, h8⟩, _⟩ := isLiteral_iff.mp c.2
  exact swap_plain h1 h2 (ignoredLength_literal c r) (fun h => absurd h h3)
    (quantifier?_eq_none h6 h7 h8 h5 r)

theorem swap_literals (cs : List (Literal v)) (r : List Char) :
    swap v (cs.map Subtype.val ++ r) = cs.map Subtype.val ++ swap v r := by
  induction cs with
  | nil => rfl
  | cons c cs ih => rw [List.map_cons, List.cons_append, swap_literal, ih, List.cons_append]

theorem swap_header (h : Header v) (r : List Char) :
    swap v ('(' :: '?' :: (h.text ++ r)) = '(' :: '?' :: (h.text ++ swap v r) := by
  rw [Header.text, List.cons_append, swap_opener h.noComment, swap_literal, swap_literals]
  rfl

/-! ## No mark at the start of a pattern -/

theorem noMark_closing (r : List Char) : NoMark v (')' :: r) := by
  exact NoMark.of_not_ignored (ignoredLength_solid rfl r) (by simp) (by simp)

theorem noMark_literal (c : Literal v) (r : List Char) : NoMark v (c.val :: r) := by
  obtain ⟨⟨_, _, _, _, _, _, hplus, hmark⟩, _⟩ := isLiteral_iff.mp c.2
  exact NoMark.of_not_ignored (ignoredLength_literal c r) hmark hplus

theorem noMark_parenthesis {r : List Char} (h : ∀ r', r ≠ '?' :: '#' :: r') :
    NoMark v ('(' :: r) :=
  NoMark.of_not_ignored (ignoredLength_parenthesis h) (by simp) (by simp)

mutual

theorem Atom.noMark (a : Atom v) (r : List Char) : NoMark v (a.text ++ r) := by
  cases a with
  | literal c => exact noMark_literal c r
  | pair c => exact NoMark.of_not_ignored (ignoredLength_solid rfl _) (by simp) (by simp)
  | charClass k => exact NoMark.of_not_ignored (ignoredLength_solid rfl _) (by simp) (by simp)
  | group body =>
    rw [Atom.text, List.cons_append, List.append_assoc]
    -- A body that began with a question mark would make this another kind of group.
    have hbody := body.noMark (noMark_closing r)
    exact noMark_parenthesis fun r' => hbody.ne_cons _
  | special header body =>
    simp only [Atom.text, Header.text, List.cons_append]
    refine noMark_parenthesis fun r' h => ?_
    rw [List.cons.injEq, List.cons.injEq] at h
    exact header.noComment h.2.1

theorem Items.noMark (items : Items v) {r : List Char} (hr : NoMark v r) :
    NoMark v (items.text ++ r) := by
  cases items with
  | nil => exact hr
  | ignored i rest =>
    rw [Items.text, List.append_assoc, noMark_skips i.skips]
    exact rest.noMark hr
  | once a rest =>
    rw [Items.text, List.append_assoc]
    exact a.noMark _
  | repeated a q rest =>
    rw [Items.text, List.append_assoc]
    exact a.noMark _

end

/-! ## The swap, part by part -/

theorem Items.text_behind (gap : List (Ignored v)) (items : Items v) :
    (Items.behind gap items).text = gapText gap ++ items.text := by
  induction gap with
  | nil => rfl
  | cons i gap ih =>
    rw [Items.behind, List.foldr_cons, Items.text]
    rw [Items.behind] at ih
    rw [ih, gapText, gapText, List.flatMap_cons, List.append_assoc]

mutual

theorem Atom.swap_append (a : Atom v) (r : List Char) :
    swap v (a.text ++ r) = a.toggled.text ++ swap v r := by
  cases a with
  | literal c => exact swap_literal c r
  | pair c => exact swap_pair c r
  | charClass k => exact swap_class (classBody_append k r)
  | group body =>
    have hclose : NoMark v (')' :: r) := noMark_closing r
    simp only [Atom.text, Atom.toggled, List.cons_append, List.append_assoc, List.nil_append]
    rw [swap_parenthesis (body.noMark hclose).ne_cons, body.swap_append hclose, swap_closing]
  | special header body =>
    have hclose : NoMark v (')' :: r) := noMark_closing r
    simp only [Atom.text, Atom.toggled, List.cons_append, List.append_assoc, List.nil_append]
    rw [swap_header, body.swap_append hclose, swap_closing]

theorem Items.swap_append (items : Items v) {r : List Char} (hr : NoMark v r) :
    swap v (items.text ++ r) = items.toggled.text ++ swap v r := by
  cases items with
  | nil => rfl
  | ignored i rest =>
    rw [Items.text, Items.toggled, Items.text, List.append_assoc, List.append_assoc,
      swap_skips i.skips, rest.swap_append hr]
  | once a rest =>
    rw [Items.text, Items.toggled, Items.text, List.append_assoc, List.append_assoc,
      a.swap_append, rest.swap_append hr]
  | repeated a q rest =>
    rw [Items.text, Items.toggled, Items.text, Items.text_behind]
    simp only [List.append_assoc]
    -- The mark is looked for in all that follows, so what follows must be known to hold none.
    rw [a.swap_append, swap_repetition q (rest.noMark hr), rest.swap_append hr]

end

/-! ## Whole patterns -/

theorem ignored_lastLine {body : List Char} (hv : v = true) (h : '\n' ∉ body) :
    ignored v ('#' :: body) = ('#' :: body, []) := by
  subst hv
  have hlen : ignoredLength true .nothing ('#' :: body) = ('#' :: body).length := by
    rw [ignoredLength_nothing (by simp), ignoredLength_lastLine h]
    rfl
  rw [ignored, hlen, List.take_length, List.drop_length]

theorem Pattern.noMark_endText (p : Pattern v) : NoMark v p.endText := by
  rw [Pattern.endText]
  cases p.lastLine with
  | none => exact NoMark.nil v
  | some body =>
    -- All of it is ignored, so nothing is left that could be a mark.
    intro c r h
    rw [ignored_lastLine body.2.1 body.2.2] at h
    exact absurd h (by simp)

theorem Pattern.swap_endText (p : Pattern v) : swap v p.endText = p.endText := by
  rw [Pattern.endText]
  cases p.lastLine with
  | none => exact swap_nil v
  | some body => rw [swap_eq_ignored, ignored_lastLine body.2.1 body.2.2, swap_nil, List.append_nil]

theorem Pattern.swap_text (p : Pattern v) : swap v p.text = p.toggled.text := by
  rw [Pattern.text, p.items.swap_append p.noMark_endText, p.swap_endText]
  rfl

/-! ## Swapping twice -/

theorem Items.toggled_behind (gap : List (Ignored v)) (items : Items v) :
    (Items.behind gap items).toggled = Items.behind gap items.toggled := by
  induction gap with
  | nil => rfl
  | cons i gap ih =>
    rw [Items.behind, List.foldr_cons, Items.toggled]
    rw [Items.behind] at ih
    rw [ih]
    rfl

mutual

theorem Atom.toggled_toggled (a : Atom v) : a.toggled.toggled = a.settled := by
  cases a with
  | literal c => rfl
  | pair c => rfl
  | charClass k => rfl
  | group body => rw [Atom.toggled, Atom.toggled, Atom.settled, body.toggled_toggled]
  | special header body => rw [Atom.toggled, Atom.toggled, Atom.settled, body.toggled_toggled]

theorem Items.toggled_toggled (items : Items v) : items.toggled.toggled = items.settled := by
  cases items with
  | nil => rfl
  | ignored i rest =>
    rw [Items.toggled, Items.toggled, Items.settled, rest.toggled_toggled]
  | once a rest =>
    rw [Items.toggled, Items.toggled, Items.settled, a.toggled_toggled, rest.toggled_toggled]
  | repeated a q rest =>
    obtain ⟨before, quantifier, marking⟩ := q
    rw [Items.toggled, Items.toggled, Items.settled, a.toggled_toggled, Items.toggled_behind,
      rest.toggled_toggled]
    cases marking with
    | greedy => rfl
    | lazy gap => rfl
    | possessive gap => rfl

end

/-- **The swap toggles exactly the quantifiers of a well-formed pattern.** Greedy ones become lazy
and lazy ones greedy; possessive ones, ignored text and everything else stay where they are. A
second swap gives the pattern back, with each lazy mark right behind its quantifier. -/
theorem Pattern.swap_text_eq_toggled (v : Bool) (p : Pattern v) :
    swap v p.text = p.toggled.text ∧ swap v (swap v p.text) = p.settled.text := by
  refine ⟨p.swap_text, ?_⟩
  rw [p.swap_text, p.toggled.swap_text, Pattern.toggled, Pattern.toggled, Pattern.settled,
    p.items.toggled_toggled]

end SubstBot.PatternText
