import SubstBot.PatternText.Greed

/-!
# `SubstBot/Proofs/PatternText/Scan.lean` — the swap, one form at a time

`swap` cuts a pattern into pieces, and how a piece is cut depends on what follows it. Here the swap
is put into equations that hold for one form of pattern text in front of an arbitrary rest, so that
nobody after this has to open `next`.

Ignored text needs a notion of its own. The scan takes as much of it as it can in one piece, so the
seam between two comments is no seam between pieces. `Skips` says that a text is ignored in whole
and leaves the scan where it was, and `swap_skips` that the swap copies such a text whatever piece
it ends up in.
-/

set_option autoImplicit false

namespace SubstBot.PatternText.Greed

variable {v : Bool}

@[simp] theorem swap_nil (v : Bool) : swap v [] = [] := by
  rw [swap, pieces]
  rfl

theorem swap_cons (v : Bool) (c : Char) (r : List Char) :
    swap v (c :: r) = (next v c r).1.swapped.text ++ swap v (next v c r).2 := by
  rw [swap, pieces, List.flatMap_cons]
  rfl

theorem pieces_cons {c : Char} {r rest : List Char} {p : Piece} (h : next v c r = (p, rest)) :
    pieces v (c :: r) = p :: pieces v rest := by
  rw [pieces, h]

/-! ## Ignored text -/

/-- A text that is ignored in whole, and behind which ignoring starts afresh. -/
def Skips (v : Bool) (i : List Char) : Prop :=
  ∀ r, ignoredLength v .nothing (i ++ r) = i.length + ignoredLength v .nothing r

theorem Skips.nil (v : Bool) : Skips v [] := by
  intro r
  rw [List.nil_append, List.length_nil, Nat.zero_add]

theorem Skips.append {i j : List Char} (hi : Skips v i) (hj : Skips v j) : Skips v (i ++ j) := by
  intro r
  rw [List.append_assoc, hi, hj, List.length_append, Nat.add_assoc]

/-- The character that ends a comment. -/
def closer : Inside → Char
  | .line => '\n'
  | _ => ')'

theorem ignoredLength_inside {st : Inside} (hst : st ≠ .nothing) (c : Char) (r : List Char) :
    ignoredLength v st (c :: r) =
      ignoredLength v (if c = closer st then .nothing else st) r + 1 := by
  cases st with
  | nothing => exact absurd rfl hst
  | parentheses => rw [ignoredLength]; rfl
  | line => rw [ignoredLength]; rfl

/-- Inside a comment, all is ignored up to the character that ends it. -/
theorem ignoredLength_inside_append {st : Inside} (hst : st ≠ .nothing) {t : List Char}
    (ht : closer st ∉ t) (r : List Char) :
    ignoredLength v st (t ++ r) = ignoredLength v st r + t.length := by
  induction t with
  | nil => rfl
  | cons c t ih =>
    rw [List.mem_cons, not_or] at ht
    rw [List.cons_append, ignoredLength_inside hst, if_neg (fun h => ht.1 h.symm), ih ht.2,
      List.length_cons]
    rfl

theorem ignoredLength_closed {st : Inside} (hst : st ≠ .nothing) {body : List Char}
    (h : closer st ∉ body) (r : List Char) :
    ignoredLength v st (body ++ closer st :: r) = ignoredLength v .nothing r + 1 + body.length := by
  rw [ignoredLength_inside_append hst h, ignoredLength_inside hst, if_pos rfl]

theorem ignoredLength_lastLine {body : List Char} (h : '\n' ∉ body) :
    ignoredLength v .line body = body.length := by
  have hline : ignoredLength v .line (body ++ []) = ignoredLength v .line [] + body.length :=
    ignoredLength_inside_append (by simp) h []
  rw [List.append_nil, ignoredLength, Nat.zero_add] at hline
  exact hline

/-- Outside comments, a character that does not begin one in parentheses is looked at alone. -/
theorem ignoredLength_nothing {c : Char} {r : List Char}
    (h : c = '(' → ∀ r', r ≠ '?' :: '#' :: r') :
    ignoredLength v .nothing (c :: r) =
      if v && Text.isBlank c then ignoredLength v .nothing r + 1
      else if v && c = '#' then ignoredLength v .line r + 1
      else 0 := by
  rw [ignoredLength]
  rintro r' hc rfl
  exact h hc r' rfl

theorem skips_comment {body : List Char} (h : ')' ∉ body) :
    Skips v ('(' :: '?' :: '#' :: (body ++ [')'])) := by
  intro r
  have he : '(' :: '?' :: '#' :: (body ++ [')']) ++ r =
      '(' :: '?' :: '#' :: (body ++ ')' :: r) := by simp
  have hbody : ignoredLength v .parentheses (body ++ ')' :: r) =
      ignoredLength v .nothing r + 1 + body.length := ignoredLength_closed (by simp) h r
  rw [he, ignoredLength, hbody]
  simp only [List.length_cons, List.length_append, List.length_nil]
  omega

theorem isBlank_ne {c d : Char} (hc : Text.isBlank c = true) (hd : Text.isBlank d = false) :
    c ≠ d := by
  rintro rfl
  rw [hc] at hd
  exact absurd hd (by simp)

theorem skips_blank (hv : v = true) {c : Char} (hc : Text.isBlank c = true) : Skips v [c] := by
  subst hv
  intro r
  have hp : c ≠ '(' := isBlank_ne hc rfl
  rw [List.singleton_append, ignoredLength_nothing fun h => absurd h hp, hc]
  simp only [Bool.and_self, if_true, List.length_singleton]
  exact Nat.add_comm _ _

theorem skips_line (hv : v = true) {body : List Char} (h : '\n' ∉ body) :
    Skips v ('#' :: (body ++ ['\n'])) := by
  subst hv
  intro r
  have he : '#' :: (body ++ ['\n']) ++ r = '#' :: (body ++ '\n' :: r) := by simp
  have hbody : ignoredLength true .line (body ++ '\n' :: r) =
      ignoredLength true .nothing r + 1 + body.length := ignoredLength_closed (by simp) h r
  rw [he, ignoredLength_nothing (by simp), hbody]
  have hb : Text.isBlank '#' = false := rfl
  simp only [hb, Bool.and_false, Bool.false_eq_true, if_false, Bool.true_and, decide_true, if_true,
    List.length_cons, List.length_append, List.length_nil]
  omega

theorem ignored_skips {i : List Char} (hi : Skips v i) (r : List Char) :
    ignored v (i ++ r) = (i ++ (ignored v r).1, (ignored v r).2) := by
  simp only [ignored]
  rw [hi, List.take_length_add_append, List.drop_length_add_append]

theorem ignored_of_length_zero {s : List Char} (h : ignoredLength v .nothing s = 0) :
    ignored v s = ([], s) := by
  rw [ignored, h]
  rfl

/-- A character that begins no ignored text. -/
theorem ignoredLength_eq_zero {c : Char} {r : List Char} (h1 : c ≠ '(')
    (h2 : v = true → Text.isBlank c = false ∧ c ≠ '#') :
    ignoredLength v .nothing (c :: r) = 0 := by
  rw [ignoredLength_nothing fun hc => absurd hc h1]
  cases v with
  | false => rfl
  | true =>
    obtain ⟨hb, hh⟩ := h2 rfl
    simp [hb, hh]

theorem not_blank_of_not_ignored {c : Char} {r : List Char}
    (h : ignoredLength v .nothing (c :: r) = 0) (hv : v = true) :
    Text.isBlank c = false ∧ c ≠ '#' := by
  subst hv
  by_cases hp : c = '('
  · subst hp
    exact ⟨rfl, by simp⟩
  rw [ignoredLength_nothing fun hc => absurd hc hp] at h
  cases hb : Text.isBlank c with
  | true => exact absurd h (by simp [hb])
  | false =>
    refine ⟨rfl, ?_⟩
    rintro rfl
    exact absurd h (by simp [hb])

/-- Whether a character is never the first of ignored text. -/
def isSolid (c : Char) : Bool :=
  c != '(' && c != '#' && !Text.isBlank c

theorem ignoredLength_solid {c : Char} (h : isSolid c = true) (r : List Char) :
    ignoredLength v .nothing (c :: r) = 0 := by
  simp only [isSolid, Bool.and_eq_true, bne_iff_ne, Bool.not_eq_true'] at h
  obtain ⟨⟨hp, hh⟩, hb⟩ := h
  exact ignoredLength_eq_zero hp fun _ => ⟨hb, hh⟩

/-- A parenthesis that begins no comment. -/
theorem ignoredLength_parenthesis {r : List Char} (h : ∀ r', r ≠ '?' :: '#' :: r') :
    ignoredLength v .nothing ('(' :: r) = 0 := by
  have hb : Text.isBlank '(' = false := rfl
  rw [ignoredLength_nothing fun _ => h, hb]
  simp

/-- An escape is cut before ignored text is looked for, but no ignored text begins so. -/
theorem next_ignored {c b : Char} {r i rest : List Char}
    (h : ignored v (c :: r) = (b :: i, rest)) : next v c r = (.ignored (b :: i), rest) := by
  have hc : c ≠ '\\' := by
    rintro rfl
    rw [ignored_of_length_zero (ignoredLength_solid rfl r)] at h
    exact absurd (Prod.mk.inj h).1 (by simp)
  unfold next
  rw [if_neg hc, h]

/-- **The ignored text at the start of a text is copied.** -/
theorem swap_eq_ignored (v : Bool) (s : List Char) :
    swap v s = (ignored v s).1 ++ swap v (ignored v s).2 := by
  cases s with
  | nil => rfl
  | cons c r =>
    cases h : ignored v (c :: r) with
    | mk i rest =>
      have htext := ignored_text v (c :: r)
      rw [h] at htext
      cases i with
      | nil =>
        have hrest : rest = c :: r := htext
        rw [hrest, List.nil_append]
      | cons b i =>
        rw [swap_cons, next_ignored h]
        rfl

theorem swap_skips {i : List Char} (hi : Skips v i) (r : List Char) :
    swap v (i ++ r) = i ++ swap v r := by
  rw [swap_eq_ignored v (i ++ r), ignored_skips hi, swap_eq_ignored v r, List.append_assoc]

/-! ## Members of classes -/

theorem classMembers_cons {c : Char} (h : c ≠ '\\') (r : List Char) :
    classMembers (c :: r) =
      if c = ']' then ([c], r) else (c :: (classMembers r).1, (classMembers r).2) := by
  rw [classMembers]
  rintro b r' hc
  exact absurd hc h

theorem leading_self (d : Char) (r : List Char) : leading d (d :: r) = ([d], r) := by
  rw [leading, if_pos rfl]

theorem leading_of_ne {c d : Char} (h : c ≠ d) (r : List Char) :
    leading d (c :: r) = ([], c :: r) := by
  rw [leading, if_neg h]

/-! ## Forms that are copied -/

theorem next_pair (v : Bool) (c : Char) (r : List Char) :
    next v '\\' (c :: r) = (.pair c, r) := by
  unfold next
  rw [if_pos rfl]

theorem swap_pair (c : Char) (r : List Char) :
    swap v ('\\' :: c :: r) = '\\' :: c :: swap v r := by
  rw [swap_cons, next_pair]
  rfl

theorem next_hanging (v : Bool) : next v '\\' [] = (.hanging, []) := by
  unfold next
  rw [if_pos rfl]

theorem swap_hanging (v : Bool) : swap v ['\\'] = ['\\'] := by
  rw [swap_cons, next_hanging, swap_nil]
  rfl

/-- A character that is not ignored and begins no piece of its own. -/
theorem next_of_not_ignored {c : Char} {r : List Char} (h1 : c ≠ '\\') (h2 : c ≠ '[')
    (h3 : ignoredLength v .nothing (c :: r) = 0) (h4 : c = '(' → ∀ r', r ≠ '?' :: r') :
    next v c r =
      match quantifier? (c :: r) with
      | some (q, rest) => marked v q rest
      | none => (.plain c, r) := by
  unfold next
  rw [if_neg h1, ignored_of_length_zero h3]
  simp only [if_neg h2]
  split
  · exact absurd rfl (h4 rfl _)
  · rfl

theorem quantifier?_eq_none {c : Char} (h1 : c ≠ '*') (h2 : c ≠ '+') (h3 : c ≠ '?')
    (h4 : c ≠ '\x7b') (r : List Char) : quantifier? (c :: r) = none := by
  simp [quantifier?, h1, h2, h3, h4]

theorem next_plain {c : Char} {r : List Char} (h1 : c ≠ '\\') (h2 : c ≠ '[')
    (h3 : ignoredLength v .nothing (c :: r) = 0) (h4 : c = '(' → ∀ r', r ≠ '?' :: r')
    (h5 : quantifier? (c :: r) = none) : next v c r = (.plain c, r) := by
  rw [next_of_not_ignored h1 h2 h3 h4, h5]

theorem swap_plain {c : Char} {r : List Char} (h1 : c ≠ '\\') (h2 : c ≠ '[')
    (h3 : ignoredLength v .nothing (c :: r) = 0) (h4 : c = '(' → ∀ r', r ≠ '?' :: r')
    (h5 : quantifier? (c :: r) = none) : swap v (c :: r) = c :: swap v r := by
  rw [swap_cons, next_plain h1 h2 h3 h4 h5]
  rfl

theorem swap_parenthesis {r : List Char} (h : ∀ r', r ≠ '?' :: r') :
    swap v ('(' :: r) = '(' :: swap v r :=
  swap_plain (by simp) (by simp) (ignoredLength_parenthesis fun r' => h _) (fun _ => h)
    (quantifier?_eq_none (by simp) (by simp) (by simp) (by simp) r)

theorem swap_closing (r : List Char) : swap v (')' :: r) = ')' :: swap v r :=
  swap_plain (by simp) (by simp) (ignoredLength_solid rfl r) (fun h => absurd h (by simp))
    (quantifier?_eq_none (by simp) (by simp) (by simp) (by simp) r)

/-- The opening of a special group, which is none of a comment. -/
theorem next_opener {r : List Char} (h : ∀ r', r ≠ '#' :: r') :
    next v '(' ('?' :: r) = (.opener, r) := by
  have h0 : ignoredLength v .nothing ('(' :: '?' :: r) = 0 := by
    apply ignoredLength_parenthesis
    intro r' he
    exact h r' (List.cons.inj he).2
  unfold next
  rw [if_neg (by simp), ignored_of_length_zero h0]
  rfl

theorem swap_opener_append {r : List Char} (h : ∀ r', r ≠ '#' :: r') :
    swap v ('(' :: '?' :: r) = '(' :: '?' :: swap v r := by
  rw [swap_cons, next_opener h]
  rfl

theorem swap_opener {c : Char} (h : c ≠ '#') (r : List Char) :
    swap v ('(' :: '?' :: c :: r) = '(' :: '?' :: swap v (c :: r) :=
  swap_opener_append fun _ he => h (List.cons.inj he).1

theorem next_class {s m r : List Char} (h : classBody s = (m, r)) :
    next v '[' s = (.charClass m, r) := by
  have h0 : ignoredLength v .nothing ('[' :: s) = 0 := ignoredLength_solid rfl s
  unfold next
  rw [if_neg (by simp), ignored_of_length_zero h0]
  simp only [if_true, h]

theorem swap_class {s m r : List Char} (h : classBody s = (m, r)) :
    swap v ('[' :: s) = '[' :: (m ++ swap v r) := by
  rw [swap_cons, next_class h]
  rfl

/-! ## Counts in braces -/

theorem digits_cons (c : Char) (r : List Char) :
    digits (c :: r) =
      if Text.isDecimalDigit c then (c :: (digits r).1, (digits r).2) else ([], c :: r) := by
  rw [digits, List.takeWhile_cons, List.dropWhile_cons]
  split <;> rfl

/-- Digits are read to the first character that is none. -/
theorem digits_append_of_stop {ds : List Char} (hds : ∀ c ∈ ds, Text.isDecimalDigit c = true)
    {c : Char} (hc : Text.isDecimalDigit c = false) (r : List Char) :
    digits (ds ++ c :: r) = (ds, c :: r) := by
  rw [digits, List.takeWhile_append_of_pos hds, List.dropWhile_append_of_pos hds,
    List.takeWhile_cons, List.dropWhile_cons, hc]
  simp

theorem isDecimalDigit_of_digits {s ds r : List Char} (h : digits s = (ds, r)) :
    ∀ c ∈ ds, Text.isDecimalDigit c = true := by
  rw [digits, Prod.mk.injEq] at h
  rw [← h.1]
  exact fun c hc => List.all_eq_true.mp List.all_takeWhile c hc

/-! The forms of counts, by what stands behind the digits. -/

theorem braces?_close {s least r : List Char} (h : digits s = (least, '\x7d' :: r)) :
    braces? s = if least = [] then none else some (least ++ ['\x7d'], r) := by
  rw [braces?, h]
  rfl

theorem braces?_comma {s least r most r' : List Char} (h : digits s = (least, ',' :: r))
    (h' : digits r = (most, '\x7d' :: r')) :
    braces? s =
      if least = [] ∧ most = [] then none
      else some (least ++ ',' :: most ++ ['\x7d'], r') := by
  rw [braces?, h]
  simp only [h']

theorem braces?_comma_open {s least r most t : List Char} (h : digits s = (least, ',' :: r))
    (h' : digits r = (most, t)) (ht : ∀ r', t ≠ '\x7d' :: r') : braces? s = none := by
  rw [braces?, h]
  simp only [h']
  split
  · rename_i heq
    exact absurd (Prod.mk.inj heq).2 (ht _)
  · rfl

theorem braces?_open {s least t : List Char} (h : digits s = (least, t))
    (ht : ∀ r, t ≠ '\x7d' :: r) (ht' : ∀ r, t ≠ ',' :: r) : braces? s = none := by
  rw [braces?, h]
  split
  · rename_i heq
    exact absurd (Prod.mk.inj heq).2 (ht _)
  · rename_i heq
    exact absurd (Prod.mk.inj heq).2 (ht' _)
  · rfl

/-- An opening brace begins a quantifier if braces follow. -/
theorem quantifier?_brace (r : List Char) :
    quantifier? ('\x7b' :: r) = (braces? r).map fun p => ('\x7b' :: p.1, p.2) := rfl

/-! ## Quantifiers -/

/-- A rest that does not mark the quantifier in front of it: behind what is ignored, there is no
`?` and no `+`. -/
def NoMark (v : Bool) (s : List Char) : Prop :=
  ∀ c r, (ignored v s).2 = c :: r → c ≠ '?' ∧ c ≠ '+'

theorem NoMark.nil (v : Bool) : NoMark v [] := by
  intro c r h
  exact absurd h (by simp [ignored])

theorem noMark_skips {i : List Char} (hi : Skips v i) {r : List Char} :
    NoMark v (i ++ r) ↔ NoMark v r := by
  rw [NoMark, NoMark, ignored_skips hi]

theorem NoMark.of_not_ignored {c : Char} {r : List Char}
    (h0 : ignoredLength v .nothing (c :: r) = 0) (h1 : c ≠ '?') (h2 : c ≠ '+') :
    NoMark v (c :: r) := by
  intro b s h
  rw [ignored_of_length_zero h0, List.cons.injEq] at h
  rw [← h.1]
  exact ⟨h1, h2⟩

/-- A question mark is not ignored, so it would be a mark. -/
theorem NoMark.ne_cons {s : List Char} (h : NoMark v s) (r : List Char) : s ≠ '?' :: r := by
  rintro rfl
  have h0 : ignoredLength v .nothing ('?' :: r) = 0 := ignoredLength_solid rfl r
  exact (h '?' r (by rw [ignored_of_length_zero h0])).1 rfl

theorem marked_greedy {rest : List Char} (h : NoMark v rest) (q : List Char) :
    marked v q rest = (.quantifier q [] .greedy, rest) := by
  unfold marked
  split
  · rename_i hr
    exact absurd rfl (h _ _ (congrArg Prod.snd hr)).1
  · rename_i hr
    exact absurd rfl (h _ _ (congrArg Prod.snd hr)).2
  · rfl

theorem ignored_skips_mark {gap : List Char} (hg : Skips v gap) {c : Char}
    (h : c = '?' ∨ c = '+') (r : List Char) : ignored v (gap ++ c :: r) = (gap, c :: r) := by
  have h0 : ignoredLength v .nothing (c :: r) = 0 := by
    rcases h with rfl | rfl
    · exact ignoredLength_solid rfl r
    · exact ignoredLength_solid rfl r
  rw [ignored_skips hg, ignored_of_length_zero h0, List.append_nil]

theorem marked_lazy {gap : List Char} (hg : Skips v gap) (q r : List Char) :
    marked v q (gap ++ '?' :: r) = (.quantifier q gap .lazy, r) := by
  rw [marked, ignored_skips_mark hg (Or.inl rfl)]
  rfl

theorem marked_possessive {gap : List Char} (hg : Skips v gap) (q r : List Char) :
    marked v q (gap ++ '+' :: r) = (.quantifier q gap .possessive, r) := by
  rw [marked, ignored_skips_mark hg (Or.inr rfl)]
  rfl

theorem quantifier?_head {c : Char} {s : List Char} (h : quantifier? (c :: s) ≠ none) :
    c = '*' ∨ c = '+' ∨ c = '?' ∨ c = '\x7b' := by
  refine Classical.byContradiction fun hc => ?_
  simp only [not_or] at hc
  exact h (quantifier?_eq_none hc.1 hc.2.1 hc.2.2.1 hc.2.2.2 s)

/-- A quantifier is cut together with its mark. -/
theorem next_quantifier {c : Char} {r q rest : List Char}
    (h : quantifier? (c :: r) = some (q, rest)) : next v c r = marked v q rest := by
  have hc := quantifier?_head (s := r) (c := c) (by rw [h]; simp)
  have hforms : c ≠ '\\' ∧ c ≠ '[' ∧ c ≠ '(' ∧ isSolid c = true := by
    rcases hc with rfl | rfl | rfl | rfl <;> exact ⟨by simp, by simp, by simp, rfl⟩
  obtain ⟨h1, h2, h3, h4⟩ := hforms
  rw [next_of_not_ignored h1 h2 (ignoredLength_solid h4 r) fun hp => absurd hp h3, h]

theorem swap_quantifier {s q rest : List Char} (h : quantifier? s = some (q, rest)) :
    swap v s = (marked v q rest).1.swapped.text ++ swap v (marked v q rest).2 := by
  cases s with
  | nil => exact absurd h (by simp [quantifier?])
  | cons c r => rw [swap_cons, next_quantifier h]

theorem swap_greedy {q rest : List Char} (hq : quantifier? (q ++ rest) = some (q, rest))
    (h : NoMark v rest) : swap v (q ++ rest) = q ++ '?' :: swap v rest := by
  rw [swap_quantifier hq, marked_greedy h]
  simp [Piece.swapped, Piece.text, Mark.swapped, Mark.text]

theorem swap_lazy {q gap r : List Char} (hg : Skips v gap)
    (hq : quantifier? (q ++ (gap ++ '?' :: r)) = some (q, gap ++ '?' :: r)) :
    swap v (q ++ (gap ++ '?' :: r)) = q ++ (gap ++ swap v r) := by
  rw [swap_quantifier hq, marked_lazy hg]
  simp [Piece.swapped, Piece.text, Mark.swapped, Mark.text]

theorem swap_possessive {q gap r : List Char} (hg : Skips v gap)
    (hq : quantifier? (q ++ (gap ++ '+' :: r)) = some (q, gap ++ '+' :: r)) :
    swap v (q ++ (gap ++ '+' :: r)) = q ++ (gap ++ '+' :: swap v r) := by
  rw [swap_quantifier hq, marked_possessive hg]
  simp [Piece.swapped, Piece.text, Mark.swapped, Mark.text]

/-! ## The first character -/

theorem marked_swapped_head (v : Bool) (c : Char) (q rest : List Char) :
    ∃ x, (marked v (c :: q) rest).1.swapped.text = c :: x := by
  unfold marked
  split <;> exact ⟨_, rfl⟩

/-- The first piece keeps its first character. -/
theorem next_swapped_head (v : Bool) (c : Char) (r : List Char) :
    ∃ x, (next v c r).1.swapped.text = c :: x := by
  have hignored := ignored_text v (c :: r)
  unfold next
  split
  case isTrue hc =>
    rw [hc]
    split <;> exact ⟨_, rfl⟩
  case isFalse =>
    split
    case h_1 i is rest hi =>
      rw [hi] at hignored
      exact ⟨is, by rw [← (List.cons.inj hignored).1]; rfl⟩
    case h_2 =>
      split
      case isTrue hc =>
        rw [hc]
        exact ⟨_, rfl⟩
      case isFalse =>
        split
        · exact ⟨_, rfl⟩
        · split
          case h_1 q rest hq =>
            obtain ⟨htext, hne⟩ := quantifier?_text hq
            obtain ⟨b, q, rfl⟩ := List.exists_cons_of_ne_nil hne
            rw [← (List.cons.inj htext).1]
            exact marked_swapped_head v b q rest
          case h_2 => exact ⟨[], rfl⟩

end SubstBot.PatternText.Greed
