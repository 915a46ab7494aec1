import Mathlib.Data.ENat.Basic
import SubstBot.Proofs.Number.Rounding

/-!
# `SubstBot/Proofs/Number/Order.lean` — arithmetic keeps order

Rounding keeps order (`roundUnits_mono`), also where the last digit that is kept changes: of two
numbers whose last digits differ, a power of two lies between them, and neither rounds past it.

So on numbers that are not negative the order `x ≤ y` (`Rises`) is kept by sums, by products, by
taking a floor and by the step from integers to doubles. Such a number has a **magnitude**, in which
infinity is an ordinary top element, and each operation is one function of magnitudes. What is not a
number comes from a product of zero and infinity alone.
-/

set_option autoImplicit false

namespace SubstBot.Binary64

/-! ## Rounding -/

theorem nearest_mono {num num' : Nat} (grain : Nat) (h : num ≤ num') :
    nearest num grain ≤ nearest num' grain := by
  rcases Nat.lt_or_eq_of_le (Nat.div_le_div_right (c := grain) h) with hlt | heq
  · calc nearest num grain
        ≤ num' / grain := nearest_le_of_div_lt hlt
      _ ≤ nearest num' grain := div_le_nearest num' grain
  · -- the same quotient: what goes up with the smaller excess goes up with the greater
    have hexcess : num % grain ≤ num' % grain := by
      have hnum := Nat.div_add_mod num grain
      have hnum' := Nat.div_add_mod num' grain
      rw [heq] at hnum
      omega
    unfold nearest
    rw [heq]
    simp only [Bool.or_eq_true, Bool.and_eq_true, decide_eq_true_eq, beq_iff_eq]
    split <;> split <;> omega

/-- **Rounding keeps order.** -/
theorem roundUnits_mono {num num' : Nat} (den : Nat) (h : num ≤ num') :
    roundUnits num den ≤ roundUnits num' den := by
  have hquotient : num / den ≤ num' / den := Nat.div_le_div_right h
  by_cases hspare : spareBits (num / den) = spareBits (num' / den)
  · have hdigit : lastDigit (num / den) = lastDigit (num' / den) := congrArg powerOfTwo hspare
    rw [roundUnits_eq, roundUnits_eq, hdigit]
    exact Nat.mul_le_mul_right _ (nearest_mono _ h)
  · -- the leading digit of the greater quotient is above the lesser quotient
    have hne : num' / den ≠ 0 := by
      intro hzero
      rw [hzero, Nat.le_zero] at hquotient
      exact hspare (by rw [hzero, hquotient])
    have hbelow : num / den < powerOfTwo (num' / den).log2 := by
      apply Nat.lt_of_not_le
      intro hle
      have hne' : num / den ≠ 0 :=
        Nat.ne_of_gt (Nat.lt_of_lt_of_le (powerOfTwo_pos _) hle)
      have hlow : (num' / den).log2 ≤ (num / den).log2 := (le_log2_iff hne').mpr hle
      have hhigh : (num / den).log2 ≤ (num' / den).log2 :=
        (le_log2_iff hne).mpr (Nat.le_trans (powerOfTwo_log2_le hne') hquotient)
      apply hspare
      unfold spareBits
      omega
    exact Nat.le_trans (roundUnits_le_powerOfTwo_of_div hbelow)
      (powerOfTwo_le_roundUnits_of_div (powerOfTwo_log2_le hne))

/-! ## Magnitudes -/

/-- The units of a number without its sign; infinity is above all units. -/
def magnitude : Binary64 → ℕ∞
  | finite _ units => units
  | _ => ⊤

/-- **A number that is zero or above**; either zero is. -/
inductive Nonneg : Binary64 → Prop where
  | unbounded : Nonneg (infinite false)
  | bounded {negative : Bool} {units : Nat} (h : signedUnits negative units = units) :
      Nonneg (finite negative units)

theorem signedUnits_eq_self_iff {negative : Bool} {units : Nat} :
    signedUnits negative units = units ↔ negative = false ∨ units = 0 := by
  unfold signedUnits
  cases negative with
  | false => simp
  | true =>
    simp only [if_true, Bool.true_eq_false, false_or]
    omega

theorem signedUnits_of_le {negative : Bool} {units : Nat} (h : 0 ≤ signedUnits negative units) :
    signedUnits negative units = units := by
  rw [signedUnits_eq_self_iff]
  unfold signedUnits at h
  cases negative with
  | false => exact Or.inl rfl
  | true =>
    rw [if_pos rfl] at h
    omega

theorem signedUnits_zero (negative : Bool) : signedUnits negative 0 = 0 := by
  cases negative <;> rfl

variable {x x' y y' : Binary64}

theorem nonneg_iff_atMost : Nonneg x ↔ atMost (finite false 0) x = true := by
  constructor
  · intro h
    cases h with
    | unbounded => rfl
    | bounded hunits =>
      simp only [atMost, less, same, hunits, signedUnits_zero, Bool.or_eq_true,
        decide_eq_true_eq, beq_iff_eq]
      omega
  · intro h
    cases x with
    | nan => cases h
    | infinite a =>
      cases a with
      | false => exact .unbounded
      | true => cases h
    | finite a m =>
      simp only [atMost, less, same, signedUnits_zero, Bool.or_eq_true, decide_eq_true_eq,
        beq_iff_eq] at h
      exact .bounded (signedUnits_of_le (by omega))

theorem Nonneg.exists_finite (hx : Nonneg x) (hfinite : x.magnitude ≠ ⊤) :
    ∃ a m, x = finite a m ∧ signedUnits a m = m := by
  cases hx with
  | unbounded => exact absurd rfl hfinite
  | bounded hm => exact ⟨_, _, rfl, hm⟩

theorem Nonneg.eq_infinite (hx : Nonneg x) (htop : x.magnitude = ⊤) : x = infinite false := by
  cases hx with
  | unbounded => rfl
  | bounded hm => exact absurd htop (ENat.natCast_ne_top _)

theorem isFinite_iff_magnitude : x.isFinite = true ↔ x.magnitude ≠ ⊤ := by
  cases x <;> simp [isFinite, magnitude]

/-! ### What is rounded -/

theorem ofRatio_zero (negative : Bool) (den : Nat) :
    ofRatio negative 0 den = finite negative 0 := by
  have hround : roundUnits 0 den = 0 := by simp [roundUnits]
  rw [ofRatio, hround]
  exact if_neg (Nat.not_le_of_lt (powerOfTwo_pos 2098))

theorem nonneg_ofRatio (num den : Nat) : Nonneg (ofRatio false num den) := by
  unfold ofRatio
  dsimp only
  split
  · exact .unbounded
  · exact .bounded rfl

theorem magnitude_ofRatio (negative : Bool) (num den : Nat) :
    (ofRatio negative num den).magnitude =
      if unitsLimit ≤ roundUnits num den then ⊤ else (roundUnits num den : ℕ∞) := by
  unfold ofRatio
  dsimp only
  split <;> rfl

theorem magnitude_ofRatio_mono {num num' : Nat} (den : Nat) (h : num ≤ num') :
    (ofRatio false num den).magnitude ≤ (ofRatio false num' den).magnitude := by
  have hround := roundUnits_mono den h
  rw [magnitude_ofRatio, magnitude_ofRatio]
  split
  · rename_i hle
    rw [if_pos (Nat.le_trans hle hround)]
  · split
    · exact le_top
    · exact_mod_cast hround

/-! ## Comparisons -/

theorem less_iff_magnitude (hx : Nonneg x) (hy : Nonneg y) :
    less x y = true ↔ x.magnitude < y.magnitude := by
  cases hx with
  | unbounded => cases hy <;> simp [less, magnitude]
  | bounded hm =>
    cases hy with
    | unbounded => simp [less, magnitude]
    | bounded hn => simp [less, magnitude, hm, hn]

theorem exceededBy_iff_magnitude (hx : Nonneg x) (n : Nat) :
    x.exceededBy n = true ↔ x.magnitude < (n * unitsPerOne : Nat) := by
  cases hx with
  | unbounded =>
    have hnot : (infinite false).exceededBy n = false := rfl
    rw [hnot]
    constructor
    · intro h
      cases h
    · intro h
      exact absurd h not_top_lt
  | @bounded a m hm =>
    have hunits : (finite a m).exceededBy n = decide ((m : Int) < n * unitsPerOne) := by
      rw [exceededBy, hm]
    rw [hunits, decide_eq_true_eq]
    show (m : Int) < n * unitsPerOne ↔ (m : ℕ∞) < (n * unitsPerOne : Nat)
    norm_cast

/-- **From `x`, which is not negative, to `y`, which is no smaller.** -/
structure Rises (x y : Binary64) : Prop where
  left : Nonneg x
  right : Nonneg y
  le : x.magnitude ≤ y.magnitude

theorem rises_of_atMost (hx : Nonneg x) (hxy : atMost x y = true) : Rises x y := by
  rw [atMost, Bool.or_eq_true] at hxy
  cases hx with
  | unbounded =>
    obtain rfl : y = infinite false := by
      cases y <;> simp_all [less, same]
    exact ⟨.unbounded, .unbounded, le_refl _⟩
  | @bounded a m hm =>
    cases y with
    | nan => simp [less, same] at hxy
    | infinite b =>
      obtain rfl : b = false := by simpa [less, same] using hxy
      exact ⟨.bounded hm, .unbounded, le_top⟩
    | finite b n =>
      simp only [less, same, hm, decide_eq_true_eq, beq_iff_eq] at hxy
      have hn : signedUnits b n = n := signedUnits_of_le (by omega)
      rw [hn] at hxy
      refine ⟨.bounded hm, .bounded hn, ?_⟩
      show (m : ℕ∞) ≤ n
      exact_mod_cast (by omega : m ≤ n)

/-! ## Operations -/

/-- **The step from integers to doubles keeps order.** -/
theorem rises_ofInt {a b : Int} (ha : 0 ≤ a) (hab : a ≤ b) : Rises (ofInt a) (ofInt b) := by
  have hsign : ∀ {n : Int}, 0 ≤ n → ofInt n = ofRatio false (n.natAbs * unitsPerOne) 1 := by
    intro n hn
    rw [ofInt, decide_eq_false (Int.not_lt.mpr hn)]
  rw [hsign ha, hsign (Int.le_trans ha hab)]
  refine ⟨nonneg_ofRatio _ _, nonneg_ofRatio _ _, magnitude_ofRatio_mono 1 ?_⟩
  exact Nat.mul_le_mul_right _ (by omega)

theorem ofInt_zero : ofInt 0 = finite false 0 := by
  have hsign : decide ((0 : Int) < 0) = false := rfl
  rw [ofInt, hsign, Int.natAbs_zero, Nat.zero_mul, ofRatio_zero]

theorem atLeast_cases {floor : Binary64} (hx : Nonneg x) (hfloor : Nonneg floor) :
    x.atLeast floor = x ∧ floor.magnitude ≤ x.magnitude ∨
      x.atLeast floor = floor ∧ x.magnitude ≤ floor.magnitude := by
  unfold atLeast
  split
  · rename_i hless
    rw [less_iff_magnitude hx hfloor] at hless
    exact Or.inr ⟨rfl, le_of_lt hless⟩
  · rename_i hless
    rw [less_iff_magnitude hx hfloor, not_lt] at hless
    exact Or.inl ⟨rfl, hless⟩

/-- **A floor keeps order.** -/
theorem Rises.atLeast {floor : Binary64} (h : Rises x y) (hfloor : Nonneg floor) :
    Rises (x.atLeast floor) (y.atLeast floor) := by
  obtain ⟨hx, hy, hle⟩ := h
  rcases atLeast_cases hx hfloor with ⟨hx', -⟩ | ⟨hx', -⟩ <;>
    rcases atLeast_cases hy hfloor with ⟨hy', habove⟩ | ⟨hy', hbelow⟩ <;> rw [hx', hy']
  · exact ⟨hx, hy, hle⟩
  · exact ⟨hx, hfloor, le_trans hle hbelow⟩
  · exact ⟨hfloor, hy, habove⟩
  · exact ⟨hfloor, hfloor, le_refl _⟩

/-! ### Sums -/

theorem finite_add_finite {a b : Bool} {m n : Nat} (hm : signedUnits a m = m)
    (hn : signedUnits b n = n) :
    Nonneg (finite a m + finite b n) ∧
      (finite a m + finite b n).magnitude = (ofRatio false (m + n) 1).magnitude := by
  show Nonneg (add (finite a m) (finite b n)) ∧ (add (finite a m) (finite b n)).magnitude = _
  rw [add, hm, hn]
  by_cases hsum : (m : Int) + n = 0
  · obtain ⟨rfl, rfl⟩ : m = 0 ∧ n = 0 := by omega
    rw [if_pos hsum, ofRatio_zero]
    exact ⟨.bounded (signedUnits_zero _), rfl⟩
  · have hsign : decide ((m : Int) + n < 0) = false := decide_eq_false (by omega)
    have habs : ((m : Int) + n).natAbs = m + n := by omega
    rw [if_neg hsum, hsign, habs]
    exact ⟨nonneg_ofRatio _ _, rfl⟩

theorem add_infinite (hx : Nonneg x) (hy : Nonneg y)
    (htop : x.magnitude = ⊤ ∨ y.magnitude = ⊤) : x + y = infinite false := by
  rcases htop with htop | htop
  · obtain rfl := hx.eq_infinite htop
    cases hy <;> rfl
  · obtain rfl := hy.eq_infinite htop
    cases hx <;> rfl

theorem nonneg_add (hx : Nonneg x) (hy : Nonneg y) : Nonneg (x + y) := by
  by_cases htop : x.magnitude = ⊤ ∨ y.magnitude = ⊤
  · rw [add_infinite hx hy htop]
    exact .unbounded
  · obtain ⟨a, m, rfl, hm⟩ := hx.exists_finite fun h => htop (Or.inl h)
    obtain ⟨b, n, rfl, hn⟩ := hy.exists_finite fun h => htop (Or.inr h)
    exact (finite_add_finite hm hn).1

/-- **Sums keep order.** -/
theorem Rises.add (hx : Rises x x') (hy : Rises y y') : Rises (x + y) (x' + y') := by
  refine ⟨nonneg_add hx.left hy.left, nonneg_add hx.right hy.right, ?_⟩
  by_cases htop : x'.magnitude = ⊤ ∨ y'.magnitude = ⊤
  · rw [add_infinite hx.right hy.right htop]
    exact le_top
  · have hx' : x'.magnitude ≠ ⊤ := fun h => htop (Or.inl h)
    have hy' : y'.magnitude ≠ ⊤ := fun h => htop (Or.inr h)
    obtain ⟨a, m, rfl, hm⟩ := hx.left.exists_finite (ne_top_of_le_ne_top hx' hx.le)
    obtain ⟨b, n, rfl, hn⟩ := hy.left.exists_finite (ne_top_of_le_ne_top hy' hy.le)
    obtain ⟨a', m', rfl, hm'⟩ := hx.right.exists_finite hx'
    obtain ⟨b', n', rfl, hn'⟩ := hy.right.exists_finite hy'
    have hmm : m ≤ m' := Nat.cast_le.mp hx.le
    have hnn : n ≤ n' := Nat.cast_le.mp hy.le
    rw [(finite_add_finite hm hn).2, (finite_add_finite hm' hn').2]
    exact magnitude_ofRatio_mono 1 (Nat.add_le_add hmm hnn)

/-! ### Products -/

theorem finite_mul (a b : Bool) (m n : Nat) :
    finite a m * finite b n = ofRatio (a != b) (m * n) unitsPerOne := by
  show mul (finite a m) (finite b n) = _
  rw [mul]

theorem nonneg_finite_mul {a b : Bool} {m n : Nat} (hm : signedUnits a m = m)
    (hn : signedUnits b n = n) : Nonneg (finite a m * finite b n) := by
  rw [finite_mul]
  rw [signedUnits_eq_self_iff] at hm hn
  rcases hm with rfl | rfl
  · rcases hn with rfl | rfl
    · exact nonneg_ofRatio _ _
    · rw [Nat.mul_zero, ofRatio_zero]
      exact .bounded (signedUnits_zero _)
  · rw [Nat.zero_mul, ofRatio_zero]
    exact .bounded (signedUnits_zero _)

/-- No number exceeds a product with infinity, be it infinite or none at all. -/
theorem not_exceeded_mul_infinite {a : Bool} {m : Nat} (hm : signedUnits a m = m) (n : Int) :
    (finite a m * infinite false).exceededBy n = false := by
  show (mul (finite a m) (infinite false)).exceededBy n = false
  rw [mul]
  split
  · rfl
  · rename_i hne
    obtain rfl : a = false := (signedUnits_eq_self_iff.mp hm).resolve_right hne
    rfl

/-- **Products keep order**: what exceeds a product exceeds a product of smaller factors. -/
theorem exceededBy_mul_of_rises (hx : Rises x x') (hy : Rises y y') (hfinite : x'.isFinite = true)
    {n : Nat} (h : (x' * y').exceededBy n = true) : (x * y).exceededBy n = true := by
  have hx' : x'.magnitude ≠ ⊤ := isFinite_iff_magnitude.mp hfinite
  obtain ⟨a, m, rfl, hm⟩ := hx.left.exists_finite (ne_top_of_le_ne_top hx' hx.le)
  obtain ⟨a', m', rfl, hm'⟩ := hx.right.exists_finite hx'
  -- only the second factor of the greater product can still be infinite
  by_cases hy' : y'.magnitude = ⊤
  · obtain rfl := hy.right.eq_infinite hy'
    rw [not_exceeded_mul_infinite hm'] at h
    cases h
  · obtain ⟨b, k, rfl, hk⟩ := hy.left.exists_finite (ne_top_of_le_ne_top hy' hy.le)
    obtain ⟨b', k', rfl, hk'⟩ := hy.right.exists_finite hy'
    have hmm : m ≤ m' := Nat.cast_le.mp hx.le
    have hkk : k ≤ k' := Nat.cast_le.mp hy.le
    have hle : (finite a m * finite b k).magnitude ≤ (finite a' m' * finite b' k').magnitude := by
      rw [finite_mul, finite_mul, magnitude_ofRatio, magnitude_ofRatio, ← magnitude_ofRatio false,
        ← magnitude_ofRatio false]
      exact magnitude_ofRatio_mono _ (Nat.mul_le_mul hmm hkk)
    rw [exceededBy_iff_magnitude (nonneg_finite_mul hm' hk')] at h
    rw [exceededBy_iff_magnitude (nonneg_finite_mul hm hk)]
    exact lt_of_le_of_lt hle h

end SubstBot.Binary64
