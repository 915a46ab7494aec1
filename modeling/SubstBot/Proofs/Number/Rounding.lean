import SubstBot.Number.Binary64

/-!
# `SubstBot/Proofs/Number/Rounding.lean` — where rounding carries over

Rounding to 53 significant binary digits stays between the powers of two around a number, and can
reach the upper one: from half a unit of the last digit below it. So the numbers that round to `2^e`
or more are those from `2^e - 2^(e - 54)` on (`le_roundUnits_iff`), and **the integers that a double
can hold are those below `2^1024 - 2^970`** (`isFinite_ofInt_iff`).
-/

set_option autoImplicit false

namespace SubstBot.Binary64

/-! ## Powers of two -/

theorem powerOfTwo_pos (n : Nat) : 0 < powerOfTwo n :=
  Nat.two_pow_pos n

theorem powerOfTwo_add (a b : Nat) : powerOfTwo (a + b) = powerOfTwo a * powerOfTwo b :=
  Nat.pow_add 2 a b

theorem powerOfTwo_succ (n : Nat) : powerOfTwo (n + 1) = 2 * powerOfTwo n :=
  Nat.pow_succ'

theorem powerOfTwo_le {a b : Nat} (h : a ≤ b) : powerOfTwo a ≤ powerOfTwo b :=
  Nat.pow_le_pow_right (by decide) h

theorem powerOfTwo_log2_le {n : Nat} (h : n ≠ 0) : powerOfTwo n.log2 ≤ n :=
  Nat.log2_self_le h

theorem le_log2_iff {n e : Nat} (h : n ≠ 0) : e ≤ n.log2 ↔ powerOfTwo e ≤ n :=
  Nat.le_log2 h

theorem log2_lt_iff {n e : Nat} (h : n ≠ 0) : n.log2 < e ↔ n < powerOfTwo e :=
  Nat.log2_lt h

/-! ## Rounding whole numbers -/

/-- The place value of the last digit that rounding keeps. -/
def lastDigit (n : Nat) : Nat :=
  powerOfTwo (spareBits n)

/-- Whether rounding goes up: from the middle on, unless the lower neighbour is even. -/
def roundsUp (n : Nat) : Bool :=
  lastDigit n < 2 * (n % lastDigit n) ||
    (2 * (n % lastDigit n) == lastDigit n && n / lastDigit n % 2 == 1)

theorem lastDigit_pos (n : Nat) : 0 < lastDigit n :=
  powerOfTwo_pos _

theorem roundUnits_one (n : Nat) :
    roundUnits n 1 =
      (if roundsUp n then n / lastDigit n + 1 else n / lastDigit n) * lastDigit n := by
  unfold roundUnits roundsUp lastDigit
  rw [Nat.div_one]
  dsimp only
  rw [Nat.one_mul]

/-- A power of two from the last digit on is a multiple of it. -/
theorem powerOfTwo_eq_mul_lastDigit {n e : Nat} (h : spareBits n ≤ e) :
    powerOfTwo e = powerOfTwo (e - spareBits n) * lastDigit n := by
  rw [lastDigit, ← powerOfTwo_add, Nat.sub_add_cancel h]

/-- The whole number nearest to `num / grain`; of two equally near, the even one. -/
def nearest (num grain : Nat) : Nat :=
  if grain < 2 * (num % grain) || (2 * (num % grain) == grain && num / grain % 2 == 1) then
    num / grain + 1
  else num / grain

theorem roundUnits_eq (num den : Nat) :
    roundUnits num den =
      nearest num (den * lastDigit (num / den)) * lastDigit (num / den) :=
  rfl

theorem div_le_nearest (num grain : Nat) : num / grain ≤ nearest num grain := by
  unfold nearest
  split <;> omega

theorem nearest_le_of_div_lt {num grain m : Nat} (h : num / grain < m) :
    nearest num grain ≤ m := by
  unfold nearest
  split <;> omega

/-- A quotient above a power of two does not round below it. -/
theorem powerOfTwo_le_roundUnits_of_div {num den e : Nat} (h : powerOfTwo e ≤ num / den) :
    powerOfTwo e ≤ roundUnits num den := by
  have hn : num / den ≠ 0 := Nat.ne_of_gt (Nat.lt_of_lt_of_le (powerOfTwo_pos e) h)
  have hspare : spareBits (num / den) ≤ (num / den).log2 := by
    unfold spareBits
    omega
  have hsplit := powerOfTwo_eq_mul_lastDigit hspare
  have hquotient : powerOfTwo ((num / den).log2 - spareBits (num / den)) ≤
      num / (den * lastDigit (num / den)) := by
    rw [← Nat.div_div_eq_div_mul, Nat.le_div_iff_mul_le (lastDigit_pos _), ← hsplit]
    exact powerOfTwo_log2_le hn
  calc powerOfTwo e
      ≤ powerOfTwo (num / den).log2 := powerOfTwo_le ((le_log2_iff hn).mpr h)
    _ = powerOfTwo ((num / den).log2 - spareBits (num / den)) * lastDigit (num / den) := hsplit
    _ ≤ roundUnits num den :=
        Nat.mul_le_mul_right _ (Nat.le_trans hquotient (div_le_nearest _ _))

/-- A quotient below a power of two does not round above it. -/
theorem roundUnits_le_powerOfTwo_of_div {num den e : Nat} (h : num / den < powerOfTwo e) :
    roundUnits num den ≤ powerOfTwo e := by
  have hspare : spareBits (num / den) ≤ e := by
    unfold spareBits
    by_cases hn : num / den = 0
    · rw [hn]
      simp
    · have hlog : (num / den).log2 < e := (log2_lt_iff hn).mpr h
      omega
  have hsplit := powerOfTwo_eq_mul_lastDigit hspare
  have hquotient : num / (den * lastDigit (num / den)) <
      powerOfTwo (e - spareBits (num / den)) := by
    rw [← Nat.div_div_eq_div_mul, Nat.div_lt_iff_lt_mul (lastDigit_pos _), ← hsplit]
    exact h
  rw [roundUnits_eq, hsplit]
  exact Nat.mul_le_mul_right _ (nearest_le_of_div_lt hquotient)

/-- A number above a power of two does not round below it. -/
theorem powerOfTwo_le_roundUnits {n e : Nat} (h : powerOfTwo e ≤ n) :
    powerOfTwo e ≤ roundUnits n 1 := by
  rw [← Nat.div_one n] at h
  exact powerOfTwo_le_roundUnits_of_div h

/-- A number below a power of two does not round above it. -/
theorem roundUnits_le_powerOfTwo {n e : Nat} (h : n < powerOfTwo e) :
    roundUnits n 1 ≤ powerOfTwo e := by
  rw [← Nat.div_one n] at h
  exact roundUnits_le_powerOfTwo_of_div h

/-- Rounding `2 * u * q + x` to a multiple of `2 * u` gives the even multiple above from the middle
on: the multiple below is odd, so the middle itself goes up. -/
theorem top_step {m u q x : Nat} (hu : 0 < u) (hm : m % 2 = 0) (hq : q < m) (hx : x < 2 * u) :
    (m ≤ if 2 * u < 2 * x || (2 * x == 2 * u && q % 2 == 1) then q + 1 else q) ↔
      m * (2 * u) ≤ 2 * u * q + x + u := by
  by_cases htop : q + 1 = m
  · subst htop
    have hproduct : (q + 1) * (2 * u) = 2 * u * q + 2 * u := by rw [Nat.mul_comm, Nat.mul_succ]
    have hodd : q % 2 = 1 := by omega
    rw [hproduct, hodd]
    simp only [Bool.or_eq_true, Bool.and_eq_true, decide_eq_true_eq, beq_iff_eq, and_true]
    split <;> omega
  · have hfar : 2 * u * (q + 2) ≤ 2 * u * m := Nat.mul_le_mul_left _ (by omega)
    rw [Nat.mul_add, Nat.mul_comm (2 * u) m] at hfar
    constructor
    · intro h
      split at h <;> omega
    · intro h
      omega

/-- The row of numbers that have the same last digit, just below a power of two. -/
theorem le_roundUnits_of_log2 {n e : Nat} (hlog : n.log2 = e + 53)
    (hlt : n < powerOfTwo (e + 54)) :
    powerOfTwo (e + 54) ≤ roundUnits n 1 ↔ powerOfTwo (e + 54) ≤ n + powerOfTwo e := by
  have hspare : spareBits n = e + 1 := by
    unfold spareBits
    omega
  have hdigit : lastDigit n = 2 * powerOfTwo e := by
    rw [lastDigit, hspare, powerOfTwo_succ]
  have htop : powerOfTwo (e + 54) = powerOfTwo 53 * (2 * powerOfTwo e) := by
    rw [show e + 54 = 53 + (e + 1) by omega, powerOfTwo_add, powerOfTwo_succ e]
  have hpos : 0 < 2 * powerOfTwo e := hdigit ▸ lastDigit_pos n
  have hquotient : n / (2 * powerOfTwo e) < powerOfTwo 53 := by
    rw [Nat.div_lt_iff_lt_mul hpos, ← htop]
    exact hlt
  have hstep := top_step (powerOfTwo_pos e) (show powerOfTwo 53 % 2 = 0 by decide) hquotient
    (Nat.mod_lt n hpos)
  rw [Nat.div_add_mod] at hstep
  rw [roundUnits_one, roundsUp, hdigit, htop, Nat.mul_le_mul_right_iff hpos]
  exact hstep

/-- **Rounding reaches a power of two** from half a unit of the last digit below it on. -/
theorem le_roundUnits_iff (n e : Nat) :
    powerOfTwo (e + 54) ≤ roundUnits n 1 ↔ powerOfTwo (e + 54) ≤ n + powerOfTwo e := by
  have hhalf : powerOfTwo (e + 54) = 2 * powerOfTwo (e + 53) := powerOfTwo_succ (e + 53)
  have hlow : powerOfTwo e < powerOfTwo (e + 53) := Nat.pow_lt_pow_right (by decide) (by omega)
  by_cases hbelow : n < powerOfTwo (e + 53)
  · have hround := roundUnits_le_powerOfTwo hbelow
    omega
  by_cases habove : powerOfTwo (e + 54) ≤ n
  · have hround := powerOfTwo_le_roundUnits habove
    omega
  have hn : n ≠ 0 := by omega
  have hle : e + 53 ≤ n.log2 := (le_log2_iff hn).mpr (Nat.le_of_not_lt hbelow)
  have hlt : n.log2 < e + 54 := (log2_lt_iff hn).mpr (Nat.lt_of_not_le habove)
  exact le_roundUnits_of_log2 (by omega) (Nat.lt_of_not_le habove)

/-! ## Integers as doubles -/

theorem isFinite_ofRatio (negative : Bool) (num den : Nat) :
    (ofRatio negative num den).isFinite = true ↔ roundUnits num den < unitsLimit := by
  unfold ofRatio
  dsimp only
  split
  · rename_i hle
    simp only [isFinite, Bool.false_eq_true, Nat.not_lt_of_le hle]
  · rename_i hlt
    simp only [isFinite, Nat.lt_of_not_le hlt]

/-- **The integers that a double can hold**: those that do not round to `2^1024`. -/
theorem isFinite_ofInt_iff (n : Int) :
    (ofInt n).isFinite = true ↔ n.natAbs + powerOfTwo 970 < powerOfTwo 1024 := by
  have hpos : 0 < unitsPerOne := powerOfTwo_pos 1074
  have hlimit : unitsLimit = powerOfTwo 1024 * unitsPerOne := by
    rw [unitsPerOne, ← powerOfTwo_add, unitsLimit]
  have hhalf : powerOfTwo 2044 = powerOfTwo 970 * unitsPerOne := by
    rw [unitsPerOne, ← powerOfTwo_add]
  have hround : unitsLimit ≤ roundUnits (n.natAbs * unitsPerOne) 1 ↔
      unitsLimit ≤ n.natAbs * unitsPerOne + powerOfTwo 2044 :=
    le_roundUnits_iff _ 2044
  rw [hhalf, hlimit, ← Nat.add_mul, Nat.mul_le_mul_right_iff hpos, ← hlimit] at hround
  rw [ofInt, isFinite_ofRatio, ← Nat.not_le, ← Nat.not_le, hround]

end SubstBot.Binary64
