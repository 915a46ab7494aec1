import Mathlib.Data.List.Forall2
import Mathlib.Data.Nat.Digits.Defs
import SubstBot.Text.Blank
import SubstBot.Text.DecimalDigit

/-!
# `SubstBot/Proofs/Text/DecimalDigit.lean` — numbers in the digits of any scripts

Reading goes through the table of zeros for the first script whose ten digits a character is among.
The scripts do not overlap (`decimalZeros_apart`), so a character is a digit of one of them at most,
and it does not matter which script is tried first. **Digits of mixed scripts then spell a number as
they would in one**: `readDigits_eq_ofDigits` compares what is read with the number of these values in
base ten.
-/

set_option autoImplicit false

namespace SubstBot.Text

/-- The character is the digit `v` of some script. -/
def IsDigit (c : Char) (v : Nat) : Prop :=
  v < 10 ∧ ∃ z ∈ decimalZeros, c.toNat = z + v

theorem decimalZeros_apart :
    ∀ a ∈ decimalZeros, ∀ b ∈ decimalZeros, a = b ∨ a + 10 ≤ b ∨ b + 10 ≤ a := by
  decide +kernel

/-- Whether a code point is among the digits that begin with a zero. -/
theorem covers_iff {z n : Nat} :
    (decide (z ≤ n) && decide (n < z + 10)) = true ↔ z ≤ n ∧ n < z + 10 := by
  rw [Bool.and_eq_true, decide_eq_true_eq, decide_eq_true_eq]

theorem digitValue?_eq_some_iff {c : Char} {v : Nat} :
    digitValue? c = some v ↔ IsDigit c v := by
  unfold digitValue?
  constructor
  · intro h
    obtain ⟨z, hfind, rfl⟩ := Option.map_eq_some_iff.mp h
    have hcovers := List.find?_some (p := fun z => z ≤ c.toNat && c.toNat < z + 10) hfind
    have hz := covers_iff.mp hcovers
    exact ⟨by omega, z, List.mem_of_find?_eq_some hfind, by omega⟩
  · rintro ⟨hv, z, hmem, hc⟩
    -- Some script is found, and it can only be the one with this zero.
    have hsome : (decimalZeros.find? fun z => z ≤ c.toNat && c.toNat < z + 10).isSome = true := by
      rw [List.find?_isSome]
      exact ⟨z, hmem, covers_iff.mpr (by omega)⟩
    obtain ⟨z', hfind⟩ := Option.isSome_iff_exists.mp hsome
    have hcovers := List.find?_some (p := fun z => z ≤ c.toNat && c.toNat < z + 10) hfind
    have hz' := covers_iff.mp hcovers
    have hapart := decimalZeros_apart z hmem z' (List.mem_of_find?_eq_some hfind)
    rw [hfind, Option.map_some, Option.some.injEq]
    omega

theorem IsDigit.isDecimalDigit {c : Char} {v : Nat} (h : IsDigit c v) :
    isDecimalDigit c = true := by
  rw [Text.isDecimalDigit, digitValue?_eq_some_iff.mpr h]
  rfl

/-- No digit is a blank: the scripts lie between the blanks. -/
theorem not_blank_of_isDecimalDigit {c : Char} (h : isDecimalDigit c = true) :
    isBlank c = false := by
  have hbetween : ∀ z ∈ decimalZeros, z = 0x30 ∨ 0x660 ≤ z ∧ z + 10 ≤ 0x1680 ∨
      0x1681 ≤ z ∧ z + 10 ≤ 0x2000 ∨ 0x3001 ≤ z := by
    decide +kernel
  obtain ⟨v, hv⟩ := Option.isSome_iff_exists.mp h
  obtain ⟨hlt, z, hz, hc⟩ := digitValue?_eq_some_iff.mp hv
  have hz := hbetween z hz
  refine Bool.eq_false_iff.mpr fun hb => ?_
  simp only [isBlank, Bool.or_eq_true, Bool.and_eq_true, decide_eq_true_eq, beq_iff_eq] at hb
  omega

variable {ds : List Char} {vs : List Nat}

theorem isDecimalDigit_of_forall₂ (h : List.Forall₂ IsDigit ds vs) :
    ∀ c ∈ ds, isDecimalDigit c = true := by
  induction h with
  | nil => exact fun c hc => absurd hc (by simp)
  | cons hd _ ih => exact List.forall_mem_cons.mpr ⟨hd.isDecimalDigit, ih⟩

theorem exists_values (h : ∀ c ∈ ds, isDecimalDigit c = true) :
    ∃ vs, List.Forall₂ IsDigit ds vs := by
  induction ds with
  | nil => exact ⟨[], .nil⟩
  | cons d ds ih =>
    obtain ⟨hd, hds⟩ := List.forall_mem_cons.mp h
    obtain ⟨v, hv⟩ := Option.isSome_iff_exists.mp hd
    obtain ⟨vs, hvs⟩ := ih hds
    exact ⟨v :: vs, .cons (digitValue?_eq_some_iff.mp hv) hvs⟩

/-- **What is read is the number in base ten**, whatever was read before. -/
theorem readDigits_eq_ofDigits (h : List.Forall₂ IsDigit ds vs) (acc : Nat) :
    readDigits acc ds = Nat.ofDigits 10 vs.reverse + 10 ^ vs.length * acc := by
  induction h generalizing acc with
  | nil => simp [readDigits]
  | @cons d v ds vs hd _ ih =>
    calc readDigits acc (d :: ds) = readDigits (acc * 10 + v) ds := by
          rw [readDigits, digitValue?_eq_some_iff.mpr hd, Option.getD_some]
      _ = Nat.ofDigits 10 vs.reverse + 10 ^ vs.length * (acc * 10 + v) := ih _
      _ = Nat.ofDigits 10 (v :: vs).reverse + 10 ^ (v :: vs).length * acc := by
          rw [List.reverse_cons, Nat.ofDigits_append, Nat.ofDigits_singleton, List.length_reverse,
            List.length_cons, Nat.pow_succ]
          ring

end SubstBot.Text
