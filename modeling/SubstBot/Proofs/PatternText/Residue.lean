import SubstBot.Proofs.PatternText.Expand

/-!
# `SubstBot/Proofs/PatternText/Residue.lean` — what expansion leaves behind

An expanded pattern has no octal escape in it. This is not for free: the character that an escape
stands for may be a backslash, and what follows a complete escape may be digits. **But no backslash
gets a new neighbour.** What an escape yields is a character that is no backslash, or a backslash
with a special character behind it, which is no digit; and every other backslash keeps what it
escapes.

That nothing else stays as it is goes by length. An escape is longer than what it yields, and
nothing gets longer, so a pattern with an escape in it cannot be its own expansion.
-/

set_option autoImplicit false

namespace SubstBot.PatternText.Octal

/-- The characters behind the backslashes, when a text is read from left to right and a backslash
takes the next character with it. -/
def escaped : List Char → List Char
  | [] => []
  | '\\' :: c :: r => c :: escaped r
  | _ :: r => escaped r

/-- A pattern in which no backslash escapes an octal digit. -/
def Expanded (s : List Char) : Prop :=
  ∀ c ∈ escaped s, isOctal c = false

section Forms

variable {c : Char} {ds r : List Char}

theorem expanded_nil : Expanded [] := by
  intro c hc
  exact absurd hc List.not_mem_nil

theorem expanded_plain (hc : c ≠ '\\') : Expanded (c :: r) ↔ Expanded r := by
  rw [Expanded, escaped, Expanded]
  rintro b r' rfl
  exact absurd rfl hc

theorem expanded_pair : Expanded ('\\' :: c :: r) ↔ isOctal c = false ∧ Expanded r := by
  rw [Expanded, escaped, List.forall_mem_cons, Expanded]

theorem expanded_hanging : Expanded ['\\'] := by
  intro c hc
  exact absurd hc List.not_mem_nil

theorem not_expanded_escape (h : Escape ds r) : ¬ Expanded ('\\' :: (ds ++ r)) := by
  rcases ds with _ | ⟨d, ds⟩
  · exact absurd rfl h.ne_nil
  · rw [List.cons_append, expanded_pair, h.octal d List.mem_cons_self]
    exact fun hd => absurd hd.1 (by simp)

/-! ## What an escape yields -/

theorem not_octal_of_special (h : isSpecial c = true) : isOctal c = false := by
  have hcodes : ∀ n < 8, isSpecial (Char.ofNat (48 + n)) = false := by decide
  refine Bool.eq_false_iff.mpr fun hoctal => ?_
  have hc := isOctal_iff.mp hoctal
  have hplain := hcodes (c.toNat - 48) (by omega)
  rw [Nat.add_sub_cancel' hc.1, Char.ofNat_toNat, h] at hplain
  exact absurd hplain (by simp)

theorem expanded_literal (h : Expanded r) : Expanded (literal c ++ r) := by
  rcases literal_eq_or c with ⟨hspecial, hl⟩ | ⟨hplain, hl⟩
  · rw [hl]
    exact expanded_pair.mpr ⟨not_octal_of_special hspecial, h⟩
  · rw [hl]
    exact (expanded_plain (ne_of_not_special hplain rfl)).mpr h

/-- One digit is not enough for a special character. -/
theorem not_special_of_digit {d : Char} (h : isOctal d = true) :
    isSpecial (charOf [d]) = false := by
  have hcodes : ∀ n < 8, isSpecial (Char.ofNat n) = false := by decide
  have hzero : '0'.toNat = 48 := rfl
  have hd := isOctal_iff.mp h
  refine hcodes _ ?_
  simp only [value, List.foldl_cons, List.foldl_nil, hzero]
  omega

theorem length_literal_lt (h : Escape ds r) :
    (literal (charOf ds)).length < ('\\' :: ds).length := by
  have hpos : 0 < ds.length := List.length_pos_iff.mpr h.ne_nil
  rcases literal_eq_or (charOf ds) with ⟨hspecial, hl⟩ | ⟨-, hl⟩
  · have hne : ds.length ≠ 1 := by
      intro hone
      obtain ⟨d, rfl⟩ := List.length_eq_one_iff.mp hone
      have hplain := not_special_of_digit (h.octal d List.mem_cons_self)
      exact absurd (hspecial.symm.trans hplain) (by simp)
    rw [hl]
    simp only [List.length_cons, List.length_nil]
    omega
  · rw [hl]
    simp only [List.length_cons, List.length_nil]
    omega

end Forms

/-! ## Whole patterns -/

theorem expanded_expand (s : List Char) : Expanded (expand s) := by
  induction s using pieces_induction with
  | nil => exact expanded_nil
  | plain c r hc ih =>
    rw [expand_plain hc]
    exact (expanded_plain hc).mpr ih
  | pair c r hc ih =>
    rw [expand_pair hc]
    exact expanded_pair.mpr ⟨hc, ih⟩
  | hanging => exact expanded_hanging
  | escape ds r hds ih =>
    rw [expand_escape hds]
    exact expanded_literal ih

theorem Expanded.expand_eq {s : List Char} (h : Expanded s) : expand s = s := by
  induction s using pieces_induction with
  | nil => rfl
  | plain c r hc ih => rw [expand_plain hc, ih ((expanded_plain hc).mp h)]
  | pair c r hc ih => rw [expand_pair hc, ih (expanded_pair.mp h).2]
  | hanging => rfl
  | escape ds r hds ih => exact absurd h (not_expanded_escape hds)

theorem length_expand_le (s : List Char) : (expand s).length ≤ s.length := by
  induction s using pieces_induction with
  | nil => exact Nat.le_refl _
  | plain c r hc ih =>
    rw [expand_plain hc]
    exact Nat.succ_le_succ ih
  | pair c r hc ih =>
    rw [expand_pair hc]
    exact Nat.succ_le_succ (Nat.succ_le_succ ih)
  | hanging => exact Nat.le_refl _
  | escape ds r hds ih =>
    have hlt := length_literal_lt hds
    rw [expand_escape hds, ← List.cons_append, List.length_append, List.length_append]
    omega

theorem expanded_of_expand_eq {s : List Char} (h : expand s = s) : Expanded s := by
  induction s using pieces_induction with
  | nil => exact expanded_nil
  | plain c r hc ih =>
    rw [expand_plain hc] at h
    exact (expanded_plain hc).mpr (ih (List.cons.inj h).2)
  | pair c r hc ih =>
    rw [expand_pair hc] at h
    exact expanded_pair.mpr ⟨hc, ih (List.cons.inj (List.cons.inj h).2).2⟩
  | hanging => exact expanded_hanging
  | escape ds r hds ih =>
    have hlt := length_literal_lt hds
    have hle := length_expand_le r
    have hlength := congrArg List.length h
    rw [expand_escape hds, ← List.cons_append, List.length_append, List.length_append] at hlength
    omega

/-- **Expansion leaves no escape behind**, so a second one changes nothing; and a pattern is its own
expansion if and only if there was no escape in it. -/
theorem expand_leaves_none (s : List Char) :
    (∀ c ∈ escaped (expand s), isOctal c = false) ∧ expand (expand s) = expand s ∧
      (expand s = s ↔ ∀ c ∈ escaped s, isOctal c = false) :=
  ⟨expanded_expand s, (expanded_expand s).expand_eq, expanded_of_expand_eq, Expanded.expand_eq⟩

/-- An escape for a backslash, with digits behind it: the backslash is escaped itself. -/
example : expand ['\\', '1', '3', '4', '1', '4', '1'] = ['\\', '\\', '1', '4', '1'] :=
  rfl

end SubstBot.PatternText.Octal
