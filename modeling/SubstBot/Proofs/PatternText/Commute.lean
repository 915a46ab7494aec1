import SubstBot.Proofs.PatternText.Expand
import SubstBot.Proofs.PatternText.Scan

/-!
# `SubstBot/Proofs/PatternText/Commute.lean` — octal escapes and the swap of greed

Both changes of a pattern text are made when both flags are set, the escapes first. An escape is to
stand for one character that means nothing, so the order should make no difference, and for most
characters it makes none. A backslash in front of a special character keeps it from meaning anything
wherever it stands. **Some characters mean something in one place only, and get no backslash**: a
digit or a comma between braces, a `)` in a comment, where the backslash does not count, and with
free spacing the end of a line in a comment and the blanks beyond the usual ones.

`Neutral` is the class of the other characters, and the two changes commute on every pattern whose
escapes stand for neutral characters (`swap_expand`). The pattern is gone over piece by piece. What
each piece of the swap reads, be it ignored text, a class or a quantifier, it reads alike in the
expansion, and it ends where no escape is cut in two, so that the rest is expanded by itself.
-/

set_option autoImplicit false

namespace SubstBot.PatternText

open Greed Octal

/-- A character that means nothing wherever an escape puts it. The last two count with free spacing
only. -/
structure Neutral (v : Bool) (c : Char) : Prop where
  not_digit : Text.isDecimalDigit c = false
  not_comma : c ≠ ','
  not_parenthesis : c ≠ ')'
  not_newline : v = true → c ≠ '\n'
  not_blank : v = true → isSpecial c = false → Text.isBlank c = false

/-- Every escape in the pattern stands for a neutral character. -/
def Clean (v : Bool) (s : List Char) : Prop :=
  ∀ c ∈ escapes s, Neutral v c

section

variable {v : Bool} {c : Char} {ds r : List Char}

theorem Clean.of_plain (hc : c ≠ '\\') (h : Clean v (c :: r)) : Clean v r := by
  rw [Clean, escapes_plain hc] at h
  exact h

theorem Clean.of_pair (hc : isOctal c = false) (h : Clean v ('\\' :: c :: r)) : Clean v r := by
  rw [Clean, escapes_pair hc] at h
  exact h

theorem Clean.of_escape (hds : Escape ds r) (h : Clean v ('\\' :: (ds ++ r))) :
    Neutral v (charOf ds) ∧ Clean v r := by
  rw [Clean, escapes_escape hds] at h
  exact ⟨h _ List.mem_cons_self, fun c hc => h c (List.mem_cons_of_mem _ hc)⟩

theorem Clean.of_sealed {a : List Char} (ha : Sealed a) (h : Clean v (a ++ r)) : Clean v r := by
  intro c hc
  refine h c ?_
  rw [ha.escapes_append]
  exact List.mem_append_right _ hc

end

/-! ## Ignored text -/

theorem closer_ne_backslash (st : Inside) : '\\' ≠ closer st := by
  cases st <;> simp [closer]

/-- The pattern `a ++ b` is ignored up to `b`, and so is its expansion. Behind `a` it can be cut,
unless there is nothing behind it. -/
structure Cut (v : Bool) (st : Inside) (a b : List Char) : Prop where
  length : ignoredLength v st (a ++ b) = a.length
  expandedLength : ignoredLength v st (expand (a ++ b)) = (expand a).length
  ends : b = [] ∨ (st = .nothing ∧ a = []) ∨ Closed a

/-- A piece `t` in front that is ignored and leaves the scan in the state `st'`. -/
theorem Cut.over {v : Bool} {st st' : Inside} {t t' a b : List Char} (h : Cut v st' a b)
    (ha : expand (t ++ a) = t' ++ expand a) (hab : expand (t ++ (a ++ b)) = t' ++ expand (a ++ b))
    (hl : ∀ r, ignoredLength v st (t ++ r) = ignoredLength v st' r + t.length)
    (hl' : ∀ r, ignoredLength v st (t' ++ r) = ignoredLength v st' r + t'.length)
    (ht : st' = .nothing → Closed t) : Cut v st (t ++ a) b where
  length := by
    rw [List.append_assoc, hl, h.length, List.length_append]
    omega
  expandedLength := by
    rw [List.append_assoc, hab, hl', h.expandedLength, ha, List.length_append]
    omega
  ends := by
    rcases h.ends with hb | ⟨hst, rfl⟩ | ha
    · exact Or.inl hb
    · rw [List.append_nil]
      exact Or.inr (Or.inr (ht hst))
    · exact Or.inr (Or.inr (ha.append t))

/-- Where nothing is ignored. -/
theorem Cut.stop {v : Bool} {s : List Char} (h : ignoredLength v .nothing s = 0)
    (h' : ignoredLength v .nothing (expand s) = 0) : Cut v .nothing [] s where
  length := h
  expandedLength := h'
  ends := Or.inr (Or.inl ⟨rfl, rfl⟩)

theorem Cut.nil (v : Bool) (st : Inside) : Cut v st [] [] where
  length := by rw [List.nil_append, ignoredLength]; rfl
  expandedLength := by rw [List.nil_append, expand_nil, ignoredLength]; rfl
  ends := Or.inl rfl

/-- A character in front that is ignored. -/
theorem Cut.over_plain {v : Bool} {st st' : Inside} {a b : List Char} {c : Char} (h : Cut v st' a b)
    (hc : c ≠ '\\') (hl : ∀ r, ignoredLength v st (c :: r) = ignoredLength v st' r + 1)
    (ht : st' = .nothing → Seals c) : Cut v st (c :: a) b :=
  have hexpand : ∀ r, expand ([c] ++ r) = [c] ++ expand r := expand_plain hc
  h.over (hexpand a) (hexpand (a ++ b)) hl hl fun hst => .singleton (ht hst)

theorem seals_of_isBlank {c : Char} (h : Text.isBlank c = true) : Seals c := by
  refine ⟨isBlank_ne h rfl, Bool.eq_false_iff.mpr fun ho => ?_⟩
  have hdigit := isOctal_iff.mp ho
  simp only [Text.isBlank, Bool.or_eq_true, Bool.and_eq_true, decide_eq_true_eq, beq_iff_eq] at h
  omega

/-- Inside a comment, an escape that stands for a neutral character does not end it. -/
theorem Neutral.not_closer {v : Bool} {c : Char} (h : Neutral v c) {st : Inside}
    (hv : st = .line → v = true) : c ≠ closer st := by
  cases st with
  | line => exact h.not_newline (hv rfl)
  | nothing | parentheses => exact h.not_parenthesis

theorem closer_not_octal (st : Inside) : isOctal (closer st) = false := by
  cases st <;> rfl

theorem closer_seals (st : Inside) : Seals (closer st) :=
  ⟨(closer_ne_backslash st).symm, closer_not_octal st⟩

/-- How ignored text begins: with the opening of a comment, or with a character that is looked at
alone. -/
theorem ignored_front {v : Bool} {s : List Char} {k : Nat}
    (h : ignoredLength v .nothing s = k + 1) :
    ∃ c r, s = c :: r ∧ c ≠ '\\' ∧
      ((c = '(' ∧ ∃ r', r = '?' :: '#' :: r') ∨
        ∃ st', (st' = .line → v = true) ∧
          (∀ x, ignoredLength v .nothing (c :: x) = ignoredLength v st' x + 1) ∧
          (st' = .nothing → Seals c)) := by
  rcases s with _ | ⟨c, r⟩
  · exact absurd h (by simp [ignoredLength])
  have hc : c ≠ '\\' := by
    rintro rfl
    exact absurd ((ignoredLength_solid rfl r).symm.trans h) (by simp)
  refine ⟨c, r, rfl, hc, ?_⟩
  by_cases hcomment : c = '(' ∧ ∃ r', r = '?' :: '#' :: r'
  · exact Or.inl hcomment
  right
  have hopen : c = '(' → ∀ r', r ≠ '?' :: '#' :: r' := by
    rintro hp r' rfl
    exact hcomment ⟨hp, r', rfl⟩
  rw [ignoredLength_nothing hopen] at h
  cases v with
  | false => exact absurd h (by simp)
  | true =>
    simp only [Bool.true_and] at h
    cases hb : Text.isBlank c with
    | true =>
      refine ⟨.nothing, fun _ => rfl, fun x => ?_, fun _ => seals_of_isBlank hb⟩
      rw [ignoredLength_nothing fun hp => absurd hp (isBlank_ne hb rfl), hb]
      rfl
    | false =>
      by_cases hline : c = '#'
      · subst hline
        refine ⟨.line, fun _ => rfl, fun x => ?_, fun hst => absurd hst (by simp)⟩
        rw [ignoredLength_nothing fun hp => absurd hp (by simp)]
        rfl
      · exact absurd h (by simp [hb, hline])

/-- Where nothing is ignored in a pattern, nothing is in its expansion. -/
theorem Clean.not_ignored {v : Bool} {s : List Char} (h : Clean v s)
    (hs : ignoredLength v .nothing s = 0) : ignoredLength v .nothing (expand s) = 0 := by
  cases front s with
  | nil => exact hs
  | pair hc r =>
    rw [expand_pair hc]
    exact ignoredLength_solid rfl _
  | hanging => exact hs
  | @escape ds r hds =>
    obtain ⟨hneutral, -⟩ := h.of_escape hds
    rw [expand_escape hds]
    rcases literal_eq_or (charOf ds) with ⟨-, hl⟩ | ⟨hplain, hl⟩
    · rw [hl]
      exact ignoredLength_solid rfl _
    · rw [hl]
      refine ignoredLength_eq_zero (ne_of_not_special hplain rfl) fun hv => ?_
      exact ⟨hneutral.not_blank hv hplain, ne_of_not_special hplain rfl⟩
  | @plain c hc r =>
    rw [expand_plain hc]
    have hopen : c = '(' → ∀ x, expand r ≠ '?' :: '#' :: x := by
      rintro rfl x hx
      obtain ⟨r₁, rfl, hr₁⟩ := expand_eq_cons (by simp) (fun _ => rfl) hx
      obtain ⟨r₂, rfl, -⟩ := expand_eq_cons (by simp) (fun _ => rfl) hr₁
      rw [ignoredLength] at hs
      exact absurd hs (by simp)
    have hopen' : c = '(' → ∀ x, r ≠ '?' :: '#' :: x := by
      rintro rfl x rfl
      rw [ignoredLength] at hs
      exact absurd hs (by simp)
    rw [ignoredLength_nothing hopen'] at hs
    rw [ignoredLength_nothing hopen]
    -- What stands behind the character is not looked at where nothing is ignored.
    split at hs
    · exact absurd hs (by simp)
    · split at hs
      · exact absurd hs (by simp)
      · rename_i hb hl
        rw [if_neg hb, if_neg hl]

/-- Inside a comment, when everything shorter can be cut. -/
theorem exists_cut_inside {v : Bool} {st : Inside} (hst : st ≠ .nothing)
    (hv : st = .line → v = true) {s : List Char} (h : Clean v s)
    (ih : ∀ t st', t.length < s.length → (st' = .line → v = true) → Clean v t →
      ∃ a b, t = a ++ b ∧ Cut v st' a b) :
    ∃ a b, s = a ++ b ∧ Cut v st a b := by
  have hstep := fun c r => ignoredLength_inside (v := v) hst c r
  have hinside := fun t ht r => ignoredLength_inside_append (v := v) hst (t := t) ht r
  have hopen : ∀ c, (if c = closer st then Inside.nothing else st) = .line → v = true := by
    intro c hc
    split at hc
    · exact absurd hc (by simp)
    · exact hv hc
  have hseals : ∀ c, (if c = closer st then Inside.nothing else st) = .nothing → Seals c := by
    intro c hc
    split at hc
    · rename_i hcloser
      rw [hcloser]
      exact closer_seals st
    · exact absurd hc hst
  cases front s with
  | nil => exact ⟨[], [], rfl, .nil v st⟩
  | @plain c hc r =>
    obtain ⟨a, b, rfl, hcut⟩ := ih _ _ (by simp) (hopen c) (h.of_plain hc)
    exact ⟨c :: a, b, rfl, hcut.over_plain hc (hstep c) (hseals c)⟩
  | @pair c hc r =>
    obtain ⟨a, b, rfl, hcut⟩ := ih _ _ (lt_pair c r) (hopen c) (h.of_pair hc)
    have hexpand : ∀ r, expand (['\\', c] ++ r) = ['\\', c] ++ expand r := expand_pair hc
    have hlength : ∀ r, ignoredLength v st (['\\', c] ++ r) =
        ignoredLength v (if c = closer st then .nothing else st) r + 2 := by
      intro r
      rw [List.cons_append, hstep, if_neg (closer_ne_backslash st), List.singleton_append, hstep]
    exact ⟨['\\', c] ++ a, b, rfl, hcut.over (hexpand _) (hexpand _) hlength hlength
      fun hs => (Closed.singleton (hseals c hs)).append ['\\']⟩
  | hanging =>
    have hlength : ignoredLength v st ['\\'] = 1 := by
      rw [hstep, ignoredLength]
    exact ⟨['\\'], [], rfl, hlength, hlength, Or.inl rfl⟩
  | @escape ds r hds =>
    obtain ⟨hneutral, hr⟩ := h.of_escape hds
    obtain ⟨a, b, rfl, hcut⟩ := ih _ st (lt_escape ds r) hv hr
    have hdigits : closer st ∉ '\\' :: ds := by
      rw [List.mem_cons, not_or]
      refine ⟨(closer_ne_backslash st).symm, fun hmem => ?_⟩
      exact absurd ((hds.octal _ hmem).symm.trans (closer_not_octal st)) (by simp)
    have hliteral : closer st ∉ literal (charOf ds) := by
      have hne := hneutral.not_closer hv
      rcases literal_eq_or (charOf ds) with ⟨-, hl⟩ | ⟨-, hl⟩
      · rw [hl]
        simp [hne.symm, (closer_ne_backslash st).symm]
      · rw [hl]
        simp [hne.symm]
    refine ⟨('\\' :: ds) ++ a, b, by simp, hcut.over ?_ ?_ (hinside _ hdigits)
      (hinside _ hliteral) fun hs => absurd hs hst⟩
    · exact expand_escape hds.of_append
    · exact expand_escape hds

theorem exists_cut (v : Bool) (st : Inside) (hv : st = .line → v = true) {s : List Char}
    (h : Clean v s) : ∃ a b, s = a ++ b ∧ Cut v st a b := by
  induction hn : s.length using Nat.strongRecOn generalizing s st with
  | ind n ih =>
    subst hn
    by_cases hst : st = .nothing
    · subst hst
      cases hs : ignoredLength v .nothing s with
      | zero => exact ⟨[], s, rfl, .stop hs (h.not_ignored hs)⟩
      | succ k =>
        obtain ⟨c, r, rfl, hc, ⟨rfl, r', rfl⟩ | ⟨st', hv', hstep, hseals⟩⟩ := ignored_front hs
        · have hr : Clean v r' :=
            ((h.of_plain hc).of_plain (by simp)).of_plain (by simp)
          have hlt : r'.length < ('(' :: '?' :: '#' :: r').length := by
            simp only [List.length_cons]
            omega
          obtain ⟨a, b, rfl, hcut⟩ := ih _ hlt .parentheses (by simp) hr rfl
          have hexpand : ∀ r, expand (['(', '?', '#'] ++ r) = ['(', '?', '#'] ++ expand r := by
            intro r
            simp only [List.cons_append, List.nil_append]
            rw [expand_plain (by simp), expand_plain (by simp), expand_plain (by simp)]
          have hlength : ∀ r, ignoredLength v .nothing (['(', '?', '#'] ++ r) =
              ignoredLength v .parentheses r + 3 := by
            intro r
            rw [← ignoredLength]
            rfl
          exact ⟨['(', '?', '#'] ++ a, b, rfl, hcut.over (hexpand _) (hexpand _) hlength hlength
            (by simp)⟩
        · obtain ⟨a, b, rfl, hcut⟩ := ih _ (by simp) st' hv' (h.of_plain hc) rfl
          exact ⟨c :: a, b, rfl, hcut.over_plain hc hstep hseals⟩
    · exact exists_cut_inside hst hv h fun t st' hlt hv' ht => ih _ hlt st' hv' ht rfl

/-- A cut of a pattern in two whose parts are expanded by themselves. -/
structure Splits (s a b : List Char) : Prop where
  text : s = a ++ b
  ends : b = [] ∨ Sealed a

theorem Splits.expand {s a b : List Char} (h : Splits s a b) :
    Octal.expand s = Octal.expand a ++ Octal.expand b := by
  rw [h.text]
  rcases h.ends with rfl | ha
  · rw [List.append_nil, expand_nil, List.append_nil]
  · exact ha.expand_append b

/-- The rest may be changed, if there is one. -/
theorem Splits.expand_swap {v : Bool} {s a b : List Char} (h : Splits s a b) :
    Octal.expand (a ++ swap v b) = Octal.expand a ++ Octal.expand (swap v b) := by
  rcases h.ends with rfl | ha
  · rw [swap_nil, List.append_nil, expand_nil, List.append_nil]
  · exact ha.expand_append _

theorem Splits.clean {v : Bool} {s a b : List Char} (h : Splits s a b) (hs : Clean v s) :
    Clean v b := by
  rcases h.ends with rfl | ha
  · intro c hc
    exact absurd hc (by simp)
  · rw [h.text] at hs
    exact hs.of_sealed ha

/-- **Ignored text stays ignored**, and nothing else is drawn into it. -/
theorem ignored_expand {v : Bool} {s : List Char} (h : Clean v s) :
    ∃ a b, Splits s a b ∧ ignored v s = (a, b) ∧
      ignored v (expand s) = (expand a, expand b) := by
  obtain ⟨a, b, rfl, hcut⟩ := exists_cut v .nothing (by simp) h
  have hsplit : Splits (a ++ b) a b := by
    refine ⟨rfl, ?_⟩
    rcases hcut.ends with hb | ⟨-, ha⟩ | ha
    · exact Or.inl hb
    · exact Or.inr (Or.inl ha)
    · exact Or.inr (Or.inr ha)
  refine ⟨a, b, hsplit, ?_, ?_⟩
  · rw [ignored, hcut.length, List.take_left, List.drop_left]
  · rw [ignored, hcut.expandedLength, hsplit.expand, List.take_left, List.drop_left]

/-! ## Classes -/

/-- Members that neither end a class nor escape anything. -/
theorem classMembers_append_plain {t : List Char} (ht : ∀ c ∈ t, c ≠ '\\' ∧ c ≠ ']')
    (r : List Char) : classMembers (t ++ r) = (t ++ (classMembers r).1, (classMembers r).2) := by
  induction t with
  | nil => rfl
  | cons c t ih =>
    obtain ⟨hc, hb⟩ := ht c List.mem_cons_self
    rw [List.cons_append, classMembers_cons hc, if_neg hb,
      ih fun d hd => ht d (List.mem_cons_of_mem c hd)]
    rfl

/-- The digits of an escape are members of a class like any others. -/
theorem classMembers_escape {ds r : List Char} (h : Escape ds r) :
    classMembers ('\\' :: (ds ++ r)) = ('\\' :: (ds ++ (classMembers r).1), (classMembers r).2) := by
  rcases ds with _ | ⟨d, ds⟩
  · exact absurd rfl h.ne_nil
  have hds : ∀ c ∈ ds, c ≠ '\\' ∧ c ≠ ']' := by
    intro c hc
    have ho := h.octal c (List.mem_cons_of_mem d hc)
    constructor
    · rintro rfl
      exact absurd ho (by decide)
    · rintro rfl
      exact absurd ho (by decide)
  rw [List.cons_append, classMembers, classMembers_append_plain hds]
  rfl

theorem classMembers_literal (c : Char) (r : List Char) :
    classMembers (literal c ++ r) = (literal c ++ (classMembers r).1, (classMembers r).2) := by
  rcases literal_eq_or c with ⟨-, hl⟩ | ⟨hplain, hl⟩
  · rw [hl]
    rfl
  · rw [hl]
    refine classMembers_append_plain (fun d hd => ?_) r
    rw [List.mem_singleton.mp hd]
    exact ⟨ne_of_not_special hplain rfl, ne_of_not_special hplain rfl⟩

theorem classMembers_expand (s : List Char) :
    ∃ a b, s = a ++ b ∧ (b = [] ∨ Closed a) ∧ classMembers s = (a, b) ∧
      classMembers (expand s) = (expand a, expand b) := by
  induction s using pieces_induction with
  | nil => exact ⟨[], [], rfl, Or.inl rfl, rfl, rfl⟩
  | plain c r hc ih =>
    by_cases hb : c = ']'
    · subst hb
      refine ⟨[']'], r, rfl, Or.inr (.singleton ⟨hc, rfl⟩), ?_, ?_⟩
      · rw [classMembers_cons hc, if_pos rfl]
      · rw [expand_plain hc, expand_plain hc, classMembers_cons hc, if_pos rfl]
        rfl
    · obtain ⟨a, b, rfl, hends, hm, hm'⟩ := ih
      refine ⟨c :: a, b, rfl, hends.imp_right fun ha => ha.append [c], ?_, ?_⟩
      · rw [classMembers_cons hc, if_neg hb, hm]
      · rw [expand_plain hc, expand_plain hc, classMembers_cons hc, if_neg hb, hm']
  | pair c r hc ih =>
    obtain ⟨a, b, rfl, hends, hm, hm'⟩ := ih
    refine ⟨'\\' :: c :: a, b, rfl, hends.imp_right fun ha => ha.append ['\\', c], ?_, ?_⟩
    · rw [classMembers, hm]
    · rw [expand_pair hc, expand_pair hc, classMembers, hm']
  | hanging => exact ⟨['\\'], [], rfl, Or.inl rfl, rfl, rfl⟩
  | escape ds r hds ih =>
    obtain ⟨a, b, rfl, hends, hm, hm'⟩ := ih
    refine ⟨'\\' :: (ds ++ a), b, by simp, hends.imp_right fun ha => ha.append ('\\' :: ds), ?_, ?_⟩
    · rw [classMembers_escape hds, hm]
    · rw [expand_escape hds, expand_escape hds.of_append, classMembers_literal, hm']

/-- A character in front is found in the expansion if and only if it is found in the pattern. -/
theorem leading_expand {d : Char} (hd : d ≠ '\\') (hspecial : isSpecial d = true)
    (s : List Char) :
    ∃ a b, s = a ++ b ∧ leading d s = (a, b) ∧ leading d (expand s) = (a, expand b) ∧
      ∀ r, expand (a ++ r) = a ++ expand r := by
  by_cases h : ∃ r, s = d :: r
  · obtain ⟨r, rfl⟩ := h
    refine ⟨[d], r, rfl, ?_, ?_, expand_plain hd⟩
    · exact leading_self d r
    · rw [expand_plain hd, leading_self]
  · have hnone : ∀ s : List Char, (∀ r, s ≠ d :: r) → leading d s = ([], s) := by
      intro s hs
      rcases s with _ | ⟨c, r⟩
      · rfl
      · exact leading_of_ne (fun hc => hs r (by rw [hc])) r
    refine ⟨[], s, rfl, hnone s fun r hr => h ⟨r, hr⟩, hnone _ fun x hx => ?_, fun r => rfl⟩
    obtain ⟨r, hr, -⟩ := expand_eq_cons hd (fun _ => hspecial) hx
    exact h ⟨r, hr⟩

/-- **A class stays what it is**, whatever its escapes stand for. -/
theorem classBody_expand (s : List Char) :
    ∃ a b, Splits s a b ∧ classBody s = (a, b) ∧ classBody (expand s) = (expand a, expand b) := by
  obtain ⟨caret, s₁, rfl, hc, hc', hcaret⟩ := leading_expand (d := '^') (by simp) rfl s
  obtain ⟨bracket, s₂, rfl, hb, hb', hbracket⟩ := leading_expand (d := ']') (by simp) rfl s₁
  obtain ⟨a, b, rfl, hends, hm, hm'⟩ := classMembers_expand s₂
  refine ⟨caret ++ (bracket ++ a), b, ⟨by simp, ?_⟩, ?_, ?_⟩
  · exact hends.imp_right fun ha => Or.inr ((ha.append bracket).append caret)
  · simp only [classBody, hc, hb, hm, List.append_assoc]
  · simp only [classBody, hc', hb', hm']
    rw [hcaret, hbracket, List.append_assoc]

/-! ## Quantifiers -/

/-- Digits are read alike, since no escape yields one. -/
theorem digits_expand {v : Bool} {s : List Char} (h : Clean v s) :
    ∃ a b, s = a ++ b ∧ digits s = (a, b) ∧ digits (expand s) = (a, expand b) ∧
      (∀ r, expand (a ++ r) = a ++ expand r) ∧ Clean v b := by
  have hbackslash : Text.isDecimalDigit '\\' = false := rfl
  have hstop : ∀ {c : Char} {r : List Char}, Text.isDecimalDigit c = false →
      digits (c :: r) = ([], c :: r) := by
    intro c r hc
    rw [digits_cons, hc, if_neg Bool.false_ne_true]
  induction s using pieces_induction with
  | nil => exact ⟨[], [], rfl, rfl, rfl, fun r => rfl, h⟩
  | plain c r hc ih =>
    cases hd : Text.isDecimalDigit c with
    | true =>
      obtain ⟨a, b, rfl, hds, hds', hexpand, hclean⟩ := ih (h.of_plain hc)
      refine ⟨c :: a, b, rfl, ?_, ?_, fun r => ?_, hclean⟩
      · rw [digits_cons, hd, if_pos rfl, hds]
      · rw [expand_plain hc, digits_cons, hd, if_pos rfl, hds']
      · rw [List.cons_append, expand_plain hc, hexpand]
        rfl
    | false =>
      refine ⟨[], c :: r, rfl, hstop hd, ?_, fun r => rfl, h⟩
      rw [expand_plain hc]
      exact hstop hd
  | pair c r hc ih =>
    refine ⟨[], _, rfl, hstop hbackslash, ?_, fun r => rfl, h⟩
    rw [expand_pair hc]
    exact hstop hbackslash
  | hanging => exact ⟨[], _, rfl, hstop hbackslash, hstop hbackslash, fun r => rfl, h⟩
  | escape ds r hds ih =>
    refine ⟨[], _, rfl, hstop hbackslash, ?_, fun r => rfl, h⟩
    rw [expand_escape hds]
    rcases literal_eq_or (charOf ds) with ⟨-, hl⟩ | ⟨-, hl⟩
    · rw [hl]
      exact hstop hbackslash
    · rw [hl]
      exact hstop (h.of_escape hds).1.not_digit

/-- What stands in front of a pattern in place of a brace, a comma or a mark: the same as in front of
its expansion. -/
theorem Clean.expand_eq_cons_iff {v : Bool} {s : List Char} (h : Clean v s) {d : Char}
    (hd : d ≠ '\\') (hcomma : isSpecial d = true ∨ d = ',') {x : List Char} :
    expand s = d :: x ↔ ∃ r, s = d :: r ∧ expand r = x := by
  constructor
  · refine expand_eq_cons hd fun hmem => ?_
    rcases hcomma with hspecial | rfl
    · exact hspecial
    · exact absurd rfl (h _ hmem).not_comma
  · rintro ⟨r, rfl, rfl⟩
    exact expand_plain hd r

/-- **Braces hold the same count or none**, since no escape yields a digit or a comma. -/
theorem braces?_expand {v : Bool} {s : List Char} (h : Clean v s) :
    (braces? s = none ∧ braces? (expand s) = none) ∨
      ∃ m r, s = m ++ r ∧ Closed m ∧ braces? s = some (m, r) ∧
        braces? (expand s) = some (m, expand r) ∧ ∀ x, expand (m ++ x) = m ++ expand x := by
  have hbrace : ('\x7d' : Char) ≠ '\\' := by simp
  have hcomma : (',' : Char) ≠ '\\' := by simp
  have hseals : Closed ['\x7d'] := .singleton ⟨hbrace, rfl⟩
  obtain ⟨least, t, rfl, hds, hds', hleast, ht⟩ := digits_expand h
  by_cases hclose : ∃ r, t = '\x7d' :: r
  · obtain ⟨r, rfl⟩ := hclose
    rw [expand_plain hbrace] at hds'
    rw [braces?_close hds, braces?_close hds']
    by_cases hempty : least = []
    · exact Or.inl ⟨if_pos hempty, if_pos hempty⟩
    · refine Or.inr ⟨least ++ ['\x7d'], r, by simp, hseals.append least, if_neg hempty,
        if_neg hempty, fun x => ?_⟩
      rw [List.append_assoc, hleast, List.singleton_append, expand_plain hbrace, List.append_assoc]
      rfl
  by_cases hlist : ∃ r, t = ',' :: r
  · obtain ⟨r, rfl⟩ := hlist
    rw [expand_plain hcomma] at hds'
    obtain ⟨most, t', rfl, hmost, hmost', hexpand, ht'⟩ := digits_expand (ht.of_plain hcomma)
    by_cases hclose' : ∃ r, t' = '\x7d' :: r
    · obtain ⟨r, rfl⟩ := hclose'
      rw [expand_plain hbrace] at hmost'
      rw [braces?_comma hds hmost, braces?_comma hds' hmost']
      by_cases hempty : least = [] ∧ most = []
      · exact Or.inl ⟨if_pos hempty, if_pos hempty⟩
      · refine Or.inr ⟨least ++ ',' :: most ++ ['\x7d'], r, by simp, hseals.append _,
          if_neg hempty, if_neg hempty, fun x => ?_⟩
        simp only [List.append_assoc, List.cons_append, List.nil_append]
        rw [hleast, expand_plain hcomma, hexpand, expand_plain hbrace]
    · refine Or.inl ⟨braces?_comma_open hds hmost fun r hr => hclose' ⟨r, hr⟩,
        braces?_comma_open hds' hmost' fun x hx => ?_⟩
      obtain ⟨r, hr, -⟩ := (ht'.expand_eq_cons_iff hbrace (Or.inl rfl)).mp hx
      exact hclose' ⟨r, hr⟩
  · refine Or.inl ⟨braces?_open hds (fun r hr => hclose ⟨r, hr⟩) fun r hr => hlist ⟨r, hr⟩,
      braces?_open hds' (fun x hx => ?_) fun x hx => ?_⟩
    · obtain ⟨r, hr, -⟩ := (ht.expand_eq_cons_iff hbrace (Or.inl rfl)).mp hx
      exact hclose ⟨r, hr⟩
    · obtain ⟨r, hr, -⟩ := (ht.expand_eq_cons_iff hcomma (Or.inr rfl)).mp hx
      exact hlist ⟨r, hr⟩

/-- **A quantifier is one in the expansion and the other way round.** -/
theorem quantifier?_expand {v : Bool} {c : Char} {r : List Char} (hc : c ≠ '\\')
    (h : Clean v (c :: r)) :
    (quantifier? (c :: r) = none ∧ quantifier? (expand (c :: r)) = none) ∨
      ∃ q rest, c :: r = q ++ rest ∧ Closed q ∧ quantifier? (c :: r) = some (q, rest) ∧
        quantifier? (expand (c :: r)) = some (q, expand rest) ∧
        ∀ x, expand (q ++ x) = q ++ expand x := by
  rw [expand_plain hc]
  by_cases hsingle : c = '*' ∨ c = '+' ∨ c = '?'
  · have hq : ∀ x, quantifier? (c :: x) = some ([c], x) := by
      intro x
      rcases hsingle with rfl | rfl | rfl <;> rfl
    have hseals : Seals c := by
      rcases hsingle with rfl | rfl | rfl <;> exact ⟨hc, rfl⟩
    exact Or.inr ⟨[c], r, rfl, .singleton hseals, hq r, hq _, expand_plain hc⟩
  simp only [not_or] at hsingle
  by_cases hbrace : c = '\x7b'
  · subst hbrace
    rw [quantifier?_brace, quantifier?_brace]
    rcases braces?_expand (h.of_plain hc) with ⟨hnone, hnone'⟩ | ⟨m, rest, rfl, hm, hb, hb', hx⟩
    · rw [hnone, hnone']
      exact Or.inl ⟨rfl, rfl⟩
    · rw [hb, hb']
      refine Or.inr ⟨'\x7b' :: m, rest, rfl, hm.append ['\x7b'], rfl, rfl, fun x => ?_⟩
      rw [List.cons_append, expand_plain hc, hx]
      rfl
  · have hnone := quantifier?_eq_none hsingle.1 hsingle.2.1 hsingle.2.2 hbrace
    exact Or.inl ⟨hnone r, hnone _⟩

/-! ## Forms that are copied -/

section

variable {v : Bool}

theorem swap_octal {d : Char} (hd : isOctal d = true) (r : List Char) :
    swap v (d :: r) = d :: swap v r := by
  have hne : ∀ c, isOctal c = false → d ≠ c := by
    rintro c hc rfl
    exact absurd (hc.symm.trans hd) (by simp)
  have hblank : Text.isBlank d = false := by
    cases hb : Text.isBlank d with
    | false => rfl
    | true => exact absurd ((seals_of_isBlank hb).not_octal.symm.trans hd) (by simp)
  have hsolid : ignoredLength v .nothing (d :: r) = 0 :=
    ignoredLength_eq_zero (hne _ rfl) fun _ => ⟨hblank, hne _ rfl⟩
  exact swap_plain (hne _ rfl) (hne _ rfl) hsolid (fun h => absurd h (hne _ rfl))
    (quantifier?_eq_none (hne _ rfl) (hne _ rfl) (hne _ rfl) (hne _ rfl) r)

theorem swap_octals {ds : List Char} (hds : ∀ d ∈ ds, isOctal d = true) (r : List Char) :
    swap v (ds ++ r) = ds ++ swap v r := by
  induction ds with
  | nil => rfl
  | cons d ds ih =>
    rw [List.cons_append, swap_octal (hds d List.mem_cons_self),
      ih fun e he => hds e (List.mem_cons_of_mem d he)]
    rfl

/-- An escape is copied: its first digit is what the backslash escapes, and the others mean
nothing. -/
theorem swap_escape {ds r : List Char} (h : Escape ds r) :
    swap v ('\\' :: (ds ++ r)) = '\\' :: (ds ++ swap v r) := by
  rcases ds with _ | ⟨d, ds⟩
  · exact absurd rfl h.ne_nil
  rw [List.cons_append, swap_pair, swap_octals fun e he => h.octal e (List.mem_cons_of_mem d he)]
  rfl

/-- What an escape yields is copied, if it is neutral. -/
theorem swap_literal_neutral {c : Char} (h : Neutral v c) (r : List Char) :
    swap v (literal c ++ r) = literal c ++ swap v r := by
  rcases literal_eq_or c with ⟨-, hl⟩ | ⟨hplain, hl⟩
  · rw [hl]
    exact swap_pair c r
  · have hne : ∀ d, isSpecial d = true → c ≠ d := fun d hd => ne_of_not_special hplain hd
    have hsolid : ignoredLength v .nothing (c :: r) = 0 :=
      ignoredLength_eq_zero (hne _ rfl) fun hv => ⟨h.not_blank hv hplain, hne _ rfl⟩
    rw [hl]
    exact swap_plain (hne _ rfl) (hne _ rfl) hsolid (fun hp => absurd hp (hne _ rfl))
      (quantifier?_eq_none (hne _ rfl) (hne _ rfl) (hne _ rfl) (hne _ rfl) r)

theorem noOctal_swap {r : List Char} (h : NoOctal r) : NoOctal (swap v r) := by
  rcases r with _ | ⟨c, r⟩
  · rw [swap_nil]
    exact .nil
  · obtain ⟨x, hx⟩ := next_swapped_head v c r
    rw [swap_cons, hx]
    exact .cons (h c r rfl) _

theorem Octal.Escape.swap {ds r : List Char} (h : Escape ds r) : Escape ds (Greed.swap v r) where
  octal := h.octal
  ne_nil := h.ne_nil
  length_le := h.length_le
  maximal hlt := noOctal_swap (h.maximal hlt)

end

/-! ## Both changes -/

/-- A quantifier with its mark, when the two changes are known to commute behind it. -/
theorem swap_expand_quantifier {v : Bool} {q rest : List Char}
    (hexpand : ∀ x, expand (q ++ x) = q ++ expand x) (h : Clean v rest)
    (ih : ∀ s, s.length ≤ rest.length → Clean v s → swap v (expand s) = expand (swap v s)) :
    (marked v q (expand rest)).1.swapped.text ++ swap v (marked v q (expand rest)).2 =
      expand ((marked v q rest).1.swapped.text ++ swap v (marked v q rest).2) := by
  obtain ⟨gap, b, hsplit, hi, hi'⟩ := ignored_expand h
  have hb := hsplit.clean h
  have hsealed : ∀ {c r}, b = c :: r → Sealed gap := by
    rintro c r rfl
    exact hsplit.ends.resolve_left (by simp)
  have hle : b.length ≤ rest.length := by
    rw [hsplit.text, List.length_append]
    exact Nat.le_add_left _ _
  by_cases hlazy : ∃ r, b = '?' :: r
  · obtain ⟨r, rfl⟩ := hlazy
    rw [expand_plain (by simp)] at hi'
    rw [marked, hi', marked, hi]
    simp only [Greed.Piece.swapped, Mark.swapped, Greed.Piece.text, Mark.text, List.append_nil,
      List.append_assoc]
    rw [hexpand, (hsealed rfl).expand_append,
      ih r (by rw [List.length_cons] at hle; omega) (hb.of_plain (by simp))]
  by_cases hpossessive : ∃ r, b = '+' :: r
  · obtain ⟨r, rfl⟩ := hpossessive
    rw [expand_plain (by simp)] at hi'
    rw [marked, hi', marked, hi]
    simp only [Greed.Piece.swapped, Mark.swapped, Greed.Piece.text, Mark.text, List.singleton_append,
      List.append_assoc]
    rw [hexpand, (hsealed rfl).expand_append, expand_plain (by simp),
      ih r (by rw [List.length_cons] at hle; omega) (hb.of_plain (by simp))]
  · have hgreedy : NoMark v rest := by
      intro c r hr
      rw [hi] at hr
      constructor
      · rintro rfl
        exact hlazy ⟨r, hr⟩
      · rintro rfl
        exact hpossessive ⟨r, hr⟩
    have hgreedy' : NoMark v (expand rest) := by
      intro c x hx
      rw [hi'] at hx
      constructor
      · rintro rfl
        obtain ⟨r, hr, -⟩ := (hb.expand_eq_cons_iff (by simp) (Or.inl rfl)).mp hx
        exact hlazy ⟨r, hr⟩
      · rintro rfl
        obtain ⟨r, hr, -⟩ := (hb.expand_eq_cons_iff (by simp) (Or.inl rfl)).mp hx
        exact hpossessive ⟨r, hr⟩
    rw [marked_greedy hgreedy, marked_greedy hgreedy']
    simp only [Greed.Piece.swapped, Mark.swapped, Greed.Piece.text, Mark.text, List.append_nil,
      List.append_assoc, List.singleton_append]
    rw [hexpand, expand_plain (by simp), ih rest (Nat.le_refl _) h]

/-- The first character has no meaning to octal escapes, and it is not ignored: a class, the opening
of a group, a quantifier or a character that is copied. -/
theorem swap_expand_plain {v : Bool} {c : Char} (hc : c ≠ '\\') {r : List Char}
    (h : Clean v (c :: r)) (h0 : ignoredLength v .nothing (c :: r) = 0)
    (ih : ∀ s, s.length ≤ r.length → Clean v s → swap v (expand s) = expand (swap v s)) :
    swap v (expand (c :: r)) = expand (swap v (c :: r)) := by
  have hr := h.of_plain hc
  have hexpand : expand (c :: r) = c :: expand r := expand_plain hc r
  have h0' := h.not_ignored h0
  rw [hexpand] at h0' ⊢
  by_cases hclass : c = '['
  · subst hclass
    obtain ⟨a, b, hsplit, hbody, hbody'⟩ := classBody_expand r
    have hle : b.length ≤ r.length := by
      rw [hsplit.text, List.length_append]
      exact Nat.le_add_left _ _
    rw [swap_class hbody', swap_class hbody, expand_plain hc, hsplit.expand_swap,
      ih b hle (hsplit.clean hr)]
  by_cases hopener : c = '(' ∧ ∃ r', r = '?' :: r'
  · obtain ⟨rfl, r', rfl⟩ := hopener
    have hmark : ('?' : Char) ≠ '\\' := by simp
    have hr' := hr.of_plain hmark
    have hcomment : ∀ x, r' ≠ '#' :: x := by
      rintro x rfl
      rw [ignoredLength] at h0
      exact absurd h0 (by simp)
    have hcomment' : ∀ x, expand r' ≠ '#' :: x := by
      intro x hx
      obtain ⟨y, hy, -⟩ := (hr'.expand_eq_cons_iff (by simp) (Or.inl rfl)).mp hx
      exact hcomment y hy
    rw [expand_plain hmark, swap_opener_append hcomment', swap_opener_append hcomment,
      expand_plain hc, expand_plain hmark, ih r' (by simp) hr']
  have hfirst : c = '(' → ∀ r', r ≠ '?' :: r' :=
    fun hp r' hr' => hopener ⟨hp, r', hr'⟩
  have hfirst' : c = '(' → ∀ x, expand r ≠ '?' :: x := by
    intro hp x hx
    obtain ⟨r', hr', -⟩ := (hr.expand_eq_cons_iff (by simp) (Or.inl rfl)).mp hx
    exact hfirst hp r' hr'
  rcases quantifier?_expand hc h with ⟨hq, hq'⟩ | ⟨q, rest, htext, hclosed, hq, hq', happend⟩
  · rw [hexpand] at hq'
    rw [swap_plain hc hclass h0' hfirst' hq', swap_plain hc hclass h0 hfirst hq,
      expand_plain hc, ih r (Nat.le_refl _) hr]
  · rw [hexpand] at hq'
    have hrest : Clean v rest := by
      rw [htext] at h
      exact h.of_sealed (Or.inr hclosed)
    have hle : rest.length ≤ r.length := by
      have hpos := List.length_pos_iff.mpr (quantifier?_text hq).2
      have hlength := congrArg List.length htext
      rw [List.length_cons, List.length_append] at hlength
      omega
    rw [swap_quantifier hq', swap_quantifier hq]
    exact swap_expand_quantifier happend hrest fun s hs => ih s (Nat.le_trans hs hle)

/-- **On a clean pattern the two changes commute.** -/
theorem swap_expand {v : Bool} {s : List Char} (h : Clean v s) :
    swap v (expand s) = expand (swap v s) := by
  induction hn : s.length using Nat.strongRecOn generalizing s with
  | ind n ih =>
    subst hn
    cases front s with
    | nil => rw [expand_nil, swap_nil, expand_nil]
    | @pair c hc r =>
      rw [expand_pair hc, swap_pair, swap_pair, expand_pair hc,
        ih _ (lt_pair c r) (h.of_pair hc) rfl]
    | hanging => rw [expand_hanging, swap_hanging, expand_hanging]
    | @escape ds r hds =>
      obtain ⟨hneutral, hr⟩ := h.of_escape hds
      rw [expand_escape hds, swap_literal_neutral hneutral, swap_escape hds,
        expand_escape hds.swap, ih _ (lt_escape ds r) hr rfl]
    | @plain c hc r =>
      by_cases h0 : ignoredLength v .nothing (c :: r) = 0
      · exact swap_expand_plain hc h h0 fun s hs hclean =>
          ih _ (Nat.lt_succ_of_le hs) hclean rfl
      · obtain ⟨a, b, hsplit, hi, hi'⟩ := ignored_expand h
        have hlt : b.length < (c :: r).length := by
          have hb : (c :: r).drop (ignoredLength v .nothing (c :: r)) = b := congrArg Prod.snd hi
          rw [← hb, List.length_drop, List.length_cons]
          omega
        rw [swap_eq_ignored v (expand _), hi', swap_eq_ignored v (c :: r), hi, hsplit.expand_swap,
          ih _ hlt (hsplit.clean h) rfl]

end SubstBot.PatternText
