import SubstBot.Proofs.PatternText.Clash

/-!
# `SubstBot/Proofs/PatternText/Encode.lean` — octal encoding is undone by expansion

A text can be written with an escape in place of every character (`encode`), and expansion gives it
back the way it is written to stand for itself. All escapes have three digits, and this is what makes
it work in front of any rest: such an escape takes no further digit, whatever comes next.

What stands in front must leave nothing open, and that is all: it must be complete (`Complete`). No
weaker condition would do. For every other pattern there is a rest, a single digit, that is read into
its last piece (`expand_append_iff`).
-/

set_option autoImplicit false

namespace SubstBot.PatternText.Octal

/-! ## No pattern that is not complete -/

/-- What stands for one character is not what stands for another with something behind it. -/
theorem literal_ne_concat (c d e : Char) : literal c ≠ literal d ++ [e] := by
  rcases literal_eq_or c with ⟨-, hc⟩ | ⟨-, hc⟩
  · rcases literal_eq_or d with ⟨-, hd⟩ | ⟨hplain, hd⟩
    · simp [hc, hd]
    · -- both have two characters, and the first of them tells
      have hne : d ≠ '\\' := ne_of_not_special hplain rfl
      simp [hc, hd, hne.symm]
  · rcases literal_eq_or d with ⟨-, hd⟩ | ⟨-, hd⟩ <;> simp [hc, hd]

/-- An escape that could have another digit, with a zero behind it. -/
theorem expand_short_ne {ds : List Char} (h : Escape ds []) (hshort : ds.length < 3) :
    expand ('\\' :: (ds ++ ['0'])) ≠ expand ('\\' :: ds) ++ ['0'] := by
  have hlonger : Escape (ds ++ ['0']) [] :=
    { octal := by simpa [or_imp, forall_and] using ⟨h.octal, rfl⟩
      ne_nil := by simp
      length_le := by
        rw [List.length_append]
        exact hshort
      maximal := fun _ => .nil }
  have hzero : expand ('\\' :: (ds ++ ['0'])) = literal (charOf (ds ++ ['0'])) := by
    simpa using expand_escape hlonger
  have halone : expand ('\\' :: ds) = literal (charOf ds) := by
    simpa using expand_escape h
  rw [hzero, halone]
  exact literal_ne_concat _ _ _

theorem complete_of_expand_append {a : List Char}
    (h : ∀ b, expand (a ++ b) = expand a ++ expand b) : Complete a := by
  induction a using pieces_induction with
  | nil => exact complete_nil
  | plain c r hc ih =>
    refine (complete_plain hc).mpr (ih fun b => ?_)
    simpa [expand_plain hc] using h b
  | pair c r hc ih =>
    refine (complete_pair hc).mpr (ih fun b => ?_)
    simpa [expand_pair hc] using h b
  | hanging => exact absurd (h ['1']) (by decide)
  | escape ds r hds ih =>
    have hfull : r = [] → ds.length = 3 := by
      rintro rfl
      apply Classical.byContradiction
      intro hne
      have hshort : ds.length < 3 := Nat.lt_of_le_of_ne hds.length_le hne
      have hzero := h ['0']
      rw [List.append_nil] at hzero
      exact expand_short_ne hds hshort hzero
    refine (complete_escape hds).mpr ⟨hfull, ih fun b => ?_⟩
    have happend := h b
    rw [List.cons_append, List.append_assoc, expand_escape (hds.append hfull b),
      expand_escape hds, List.append_assoc] at happend
    exact List.append_cancel_left happend

/-- **A pattern expands on its own, whatever follows, if and only if its last piece is complete.** -/
theorem expand_append_iff {a : List Char} :
    (∀ b, expand (a ++ b) = expand a ++ expand b) ↔ Complete a :=
  ⟨complete_of_expand_append, Complete.expand_append⟩

/-! ## Encoding -/

/-- A text with an escape in place of each of its characters. -/
def encode (s : List Char) : List Char :=
  s.flatMap escapeOf

theorem encode_cons (c : Char) (s : List Char) : encode (c :: s) = escapeOf c ++ encode s :=
  rfl

theorem literalText_cons (c : Char) (s : List Char) :
    literalText (c :: s) = literal c ++ literalText s :=
  rfl

theorem expand_encode_append {s : List Char} (hs : ∀ c ∈ s, c.toNat < 512) (b : List Char) :
    expand (encode s ++ b) = literalText s ++ expand b := by
  induction s with
  | nil => rfl
  | cons c s ih =>
    obtain ⟨hc, hs⟩ := List.forall_mem_cons.mp hs
    rw [encode_cons, literalText_cons, List.append_assoc, List.append_assoc, expand_escapeOf hc,
      ih hs]

/-- **Expansion undoes octal encoding**, between any two patterns the first of which leaves nothing
open. -/
theorem expand_encode {a s : List Char} (ha : Complete a) (hs : ∀ c ∈ s, c.toNat < 512)
    (b : List Char) : expand (a ++ encode s ++ b) = expand a ++ literalText s ++ expand b := by
  rw [List.append_assoc, ha.expand_append, expand_encode_append hs, List.append_assoc]

/-- A full escape in front, digits behind, and between them a character that needs a backslash and
one that does not. -/
theorem expand_encode_full_stop :
    Complete ['a', '\\', '0', '6', '1'] ∧ (∀ c ∈ ['.', 'b'], c.toNat < 512) ∧
      expand (['a', '\\', '0', '6', '1'] ++ encode ['.', 'b'] ++ ['4', '1']) =
        ['a', '1'] ++ ['\\', '.', 'b'] ++ ['4', '1'] := by
  have hdigits : Escape ['0', '6', '1'] [] :=
    ⟨by simp [isOctal], List.cons_ne_nil _ _, Nat.le_refl 3, fun _ => .nil⟩
  have ha : Complete ['a', '\\', '0', '6', '1'] :=
    (complete_plain (by decide)).mpr ((complete_escape hdigits).mpr ⟨fun _ => rfl, complete_nil⟩)
  have hs : ∀ c ∈ ['.', 'b'], c.toNat < 512 := by simp
  exact ⟨ha, hs, expand_encode ha hs ['4', '1']⟩

end SubstBot.PatternText.Octal
