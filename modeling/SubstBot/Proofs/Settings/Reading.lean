import SubstBot.Settings.Lax

/-!
# `SubstBot/Proofs/Settings/Reading.lean` — what a validator is known by

A validator takes the texts of one kind of setting for values of another kind and holds these against
a bound. What is known of it is no more than that (`Validator.Documented`): **a text has a value or
none, whatever the bound, and is taken for its value if and only if the value is within the bound**.
What the texts of numbers look like is part of the `Reading` and is left open.

A bound is an order that has to hold. So what is not a number is within no bound, since no order holds
of it; that a validator only refuses what is on the wrong side would not be enough.
-/

set_option autoImplicit false

namespace SubstBot.Settings

/-- What texts stand for. -/
structure Reading where
  integer : List Char → Option Int
  number : List Char → Option Binary64

structure Validator.Documented (V : Validator) (R : Reading) : Prop where
  text : ∀ t, V.text (.text t) = .ok t
  integer : ∀ b t k,
    V.integer b (.text t) = .ok k ↔ R.integer t.toList = some k ∧ b.admitsInt k = true
  number : ∀ b t x,
    V.number b (.text t) = .ok x ↔ R.number t.toList = some x ∧ b.admits x = true

/-! ## The lax validator -/

/-- An integer with more digits than are read stands for nothing. -/
def laxReading : Reading where
  integer s := (readInt? s).filter fun k => k.natAbs < integerLimit
  number := readFloat?

theorem checked_eq_ok_iff {α : Type} {good : α → Bool} {p : Problem} {read : Except Problem α}
    {x : α} : checked good p read = .ok x ↔ read = .ok x ∧ good x = true := by
  cases read with
  | error q => simp [checked]
  | ok y =>
    simp only [checked]
    constructor
    · intro h
      split at h
      · rename_i hy
        obtain rfl := Except.ok.inj h
        exact ⟨rfl, hy⟩
      · cases h
    · rintro ⟨h, hx⟩
      obtain rfl := Except.ok.inj h
      exact if_pos hx

theorem toInt_text_eq_ok_iff {t : String} {k : Int} :
    (Value.text t).toInt = .ok k ↔ laxReading.integer t.toList = some k := by
  simp only [Value.toInt, laxReading]
  cases readInt? t.toList with
  | none => simp
  | some n =>
    by_cases hlong : integerLimit ≤ n.natAbs
    · simp [hlong, Option.filter, Nat.not_lt_of_le hlong]
    · simp [hlong, Option.filter, Nat.lt_of_not_le hlong]

theorem toFloat_text_eq_ok_iff {t : String} {x : Binary64} :
    (Value.text t).toFloat = .ok x ↔ laxReading.number t.toList = some x := by
  simp only [Value.toFloat, laxReading]
  cases readFloat? t.toList <;> simp

theorem lax_documented : lax.Documented laxReading where
  text _ := rfl
  integer b t k := by rw [← toInt_text_eq_ok_iff]; exact checked_eq_ok_iff
  number b t x := by rw [← toFloat_text_eq_ok_iff]; exact checked_eq_ok_iff

end SubstBot.Settings
