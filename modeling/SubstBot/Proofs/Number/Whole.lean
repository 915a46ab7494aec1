import SubstBot.Proofs.Number.Rounding

/-!
# `SubstBot/Proofs/Number/Whole.lean` — whole numbers below `2^53` are exact

A number of at most 53 binary digits, times any power of two, is its own rounding
(`roundUnits_whole`). So the whole numbers below `2^53` are doubles, and sums, products, floors and
comparisons of them are those of the whole numbers, as long as the results stay below `2^53` too.
-/

set_option autoImplicit false

namespace SubstBot.Binary64

/-! ## Rounding -/

theorem nearest_mul (n : Nat) {grain : Nat} (h : 0 < grain) : nearest (n * grain) grain = n := by
  unfold nearest
  rw [Nat.mul_mod_left, Nat.mul_div_cancel n h, if_neg]
  simp
  omega

theorem spareBits_whole {n : Nat} (e : Nat) (hn : n < powerOfTwo 53) :
    spareBits (n * powerOfTwo e) ≤ e := by
  unfold spareBits
  by_cases hzero : n * powerOfTwo e = 0
  · rw [hzero]
    simp
  · have hlog : (n * powerOfTwo e).log2 < 53 + e := by
      rw [log2_lt_iff hzero, powerOfTwo_add]
      exact Nat.mul_lt_mul_of_pos_right hn (powerOfTwo_pos e)
    omega

/-- **A number of at most 53 binary digits is its own rounding.** -/
theorem roundUnits_whole {n den : Nat} (e : Nat) (hn : n < powerOfTwo 53) (hden : 0 < den) :
    roundUnits (n * powerOfTwo e * den) den = n * powerOfTwo e := by
  -- the last digit that is kept divides the power of two, so nothing is rounded off
  have hsplit := powerOfTwo_eq_mul_lastDigit (spareBits_whole e hn)
  have hgrain : 0 < den * lastDigit (n * powerOfTwo e) := Nat.mul_pos hden (lastDigit_pos _)
  rw [roundUnits_eq, Nat.mul_div_cancel _ hden]
  generalize lastDigit (n * powerOfTwo e) = digit, e - spareBits (n * powerOfTwo e) = rest
    at hsplit hgrain ⊢
  rw [hsplit]
  calc nearest (n * (powerOfTwo rest * digit) * den) (den * digit) * digit
      = nearest (n * powerOfTwo rest * (den * digit)) (den * digit) * digit := by
        rw [← Nat.mul_assoc, Nat.mul_assoc (n * powerOfTwo rest), Nat.mul_comm digit den]
    _ = n * (powerOfTwo rest * digit) := by
        rw [nearest_mul _ hgrain, Nat.mul_assoc]

theorem unitsPerOne_pos : 0 < unitsPerOne :=
  powerOfTwo_pos 1074

theorem ofRatio_whole {n den : Nat} (hn : n < powerOfTwo 53) (hden : 0 < den) :
    ofRatio false (n * unitsPerOne * den) den = finite false (n * unitsPerOne) := by
  have hround : roundUnits (n * unitsPerOne * den) den = n * unitsPerOne :=
    roundUnits_whole 1074 hn hden
  have hlimit : n * unitsPerOne < unitsLimit := by
    calc n * unitsPerOne
        < powerOfTwo 53 * unitsPerOne :=
          Nat.mul_lt_mul_of_pos_right hn unitsPerOne_pos
      _ = powerOfTwo 1127 := by rw [unitsPerOne, ← powerOfTwo_add]
      _ ≤ unitsLimit := powerOfTwo_le (by omega)
  rw [ofRatio, hround]
  exact if_neg (Nat.not_le_of_lt hlimit)

/-! ## Whole numbers as doubles -/

variable {m n : Nat}

theorem ofInt_whole (hn : n < powerOfTwo 53) : ofInt n = finite false (n * unitsPerOne) := by
  have hsign : decide ((n : Int) < 0) = false := decide_eq_false (by omega)
  have hunits := ofRatio_whole hn Nat.one_pos
  rw [Nat.mul_one] at hunits
  rw [ofInt, hsign, Int.natAbs_natCast, hunits]

theorem add_whole (h : m + n < powerOfTwo 53) :
    ofInt m + ofInt n = ofInt (m + n : Nat) := by
  have hsum : signedUnits false (m * unitsPerOne) + signedUnits false (n * unitsPerOne) =
      ((m + n) * unitsPerOne : Nat) := by
    rw [Nat.add_mul]
    rfl
  have hunits := ofRatio_whole h Nat.one_pos
  rw [Nat.mul_one] at hunits
  rw [ofInt_whole h, ofInt_whole (by omega : m < powerOfTwo 53),
    ofInt_whole (by omega : n < powerOfTwo 53)]
  show add (finite false (m * unitsPerOne)) (finite false (n * unitsPerOne)) = _
  rw [add, hsum]
  generalize (m + n) * unitsPerOne = units at hunits ⊢
  by_cases hzero : units = 0
  · subst hzero
    rfl
  · have hsign : decide ((units : Int) < 0) = false := decide_eq_false (by omega)
    have hne : (units : Int) ≠ 0 := Int.natCast_ne_zero.mpr hzero
    rw [if_neg hne, hsign, Int.natAbs_natCast, hunits]

theorem mul_whole (hm : m < powerOfTwo 53) (hn : n < powerOfTwo 53)
    (h : m * n < powerOfTwo 53) : ofInt m * ofInt n = ofInt (m * n : Nat) := by
  have hunits : m * unitsPerOne * (n * unitsPerOne) = m * n * unitsPerOne * unitsPerOne := by
    rw [Nat.mul_mul_mul_comm, Nat.mul_assoc (m * n)]
  have hsign : (false != false) = false := rfl
  rw [ofInt_whole h, ofInt_whole hm, ofInt_whole hn]
  show mul (finite false (m * unitsPerOne)) (finite false (n * unitsPerOne)) = _
  rw [mul, hsign, hunits, ofRatio_whole h unitsPerOne_pos]

theorem less_whole (hm : m < powerOfTwo 53) (hn : n < powerOfTwo 53) :
    less (ofInt m) (ofInt n) = true ↔ m < n := by
  rw [ofInt_whole hm, ofInt_whole hn, less, decide_eq_true_eq]
  show ((m * unitsPerOne : Nat) : Int) < (n * unitsPerOne : Nat) ↔ m < n
  rw [Int.ofNat_lt, Nat.mul_lt_mul_right unitsPerOne_pos]

theorem atLeast_whole (hm : m < powerOfTwo 53) (hn : n < powerOfTwo 53) :
    (ofInt m).atLeast (ofInt n) = ofInt (max m n : Nat) := by
  unfold atLeast
  by_cases h : m < n
  · rw [if_pos ((less_whole hm hn).mpr h), Nat.max_eq_right (Nat.le_of_lt h)]
  · rw [if_neg (mt (less_whole hm hn).mp h), Nat.max_eq_left (Nat.le_of_not_lt h)]

theorem exceededBy_whole (hm : m < powerOfTwo 53) (k : Int) :
    (ofInt m).exceededBy k = true ↔ (m : Int) < k := by
  have hpos : (0 : Int) < unitsPerOne := Int.natCast_pos.mpr unitsPerOne_pos
  rw [ofInt_whole hm]
  unfold exceededBy
  dsimp only
  rw [decide_eq_true_eq]
  show ((m * unitsPerOne : Nat) : Int) < k * unitsPerOne ↔ (m : Int) < k
  rw [Int.natCast_mul]
  exact Int.mul_lt_mul_right hpos

end SubstBot.Binary64
