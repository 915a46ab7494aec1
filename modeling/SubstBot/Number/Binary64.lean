/-!
# `SubstBot/Number/Binary64.lean` — double-precision numbers, exactly

Times and budgets are double-precision numbers, and a budget is decided by comparing one of them
with an integer, so the last bit can matter. They are kept here as exact integers: every finite
double is a whole number of **units** of 2^-1074, the distance between the two smallest. Sums,
products and decimal numerals are computed exactly and then rounded once, to the nearest double,
ties to the even significand.

Nothing here uses the runtime's floating point, so each operation has the meaning its text shows.
-/

set_option autoImplicit false

namespace SubstBot

/-- A double-precision number. A finite one is `units` units of 2^-1074, with its sign apart so
that zero has two. -/
inductive Binary64 where
  | nan
  | infinite (negative : Bool)
  | finite (negative : Bool) (units : Nat)
  deriving DecidableEq, Repr

namespace Binary64

def powerOfTwo (n : Nat) : Nat :=
  Nat.pow 2 n

def powerOfTen (n : Nat) : Nat :=
  Nat.pow 10 n

def unitsPerOne : Nat := powerOfTwo 1074

/-- Units that no finite double reaches: those of 2^1024. -/
def unitsLimit : Nat := powerOfTwo 2098

/-- How many binary digits of `n` lie below its 53 leading ones. -/
def spareBits (n : Nat) : Nat :=
  n.log2 + 1 - 53

/-- The number of units nearest to `num / den` among those with at most 53 significant binary
digits; of two equally near, the one whose significand is even. -/
def roundUnits (num den : Nat) : Nat :=
  let step := powerOfTwo (spareBits (num / den))
  let grain := den * step
  let low := num / grain
  let excess := num % grain
  let up := grain < 2 * excess || (2 * excess == grain && low % 2 == 1)
  (if up then low + 1 else low) * step

/-- The double nearest to `num / den` units. -/
def ofRatio (negative : Bool) (num den : Nat) : Binary64 :=
  let units := roundUnits num den
  if unitsLimit ≤ units then infinite negative else finite negative units

def ofInt (n : Int) : Binary64 :=
  ofRatio (n < 0) (n.natAbs * unitsPerOne) 1

def ofNat (n : Nat) : Binary64 :=
  ofInt n

/-- The double nearest to `mantissa * 10 ^ exponent`. Numerals whose leading digit lies far beyond
the range of doubles are decided by the place of that digit alone. -/
def ofDecimal (negative : Bool) (mantissa : Nat) (exponent : Int) : Binary64 :=
  let top := (Nat.toDigits 10 mantissa).length + exponent
  if mantissa = 0 || top < -400 then finite negative 0
  else if 400 < top then infinite negative
  else if 0 ≤ exponent then
    ofRatio negative (mantissa * powerOfTen exponent.toNat * unitsPerOne) 1
  else
    ofRatio negative (mantissa * unitsPerOne) (powerOfTen (-exponent).toNat)

/-- The value of a finite double in units, with its sign. -/
def signedUnits (negative : Bool) (units : Nat) : Int :=
  if negative then -(units : Int) else units

/-- The sum, rounded. Opposite infinities have none; two negative zeros sum to a negative zero and
other zero sums are positive. -/
def add : Binary64 → Binary64 → Binary64
  | nan, _ => nan
  | _, nan => nan
  | infinite a, infinite b => if a = b then infinite a else nan
  | infinite a, finite _ _ => infinite a
  | finite _ _, infinite b => infinite b
  | finite a m, finite b n =>
    let sum := signedUnits a m + signedUnits b n
    if sum = 0 then finite (a && b) 0 else ofRatio (sum < 0) sum.natAbs 1

instance : Add Binary64 := ⟨add⟩

/-- The product, rounded. Zero times an infinity has none. -/
def mul : Binary64 → Binary64 → Binary64
  | nan, _ => nan
  | _, nan => nan
  | infinite a, infinite b => infinite (a != b)
  | infinite a, finite b n => if n = 0 then nan else infinite (a != b)
  | finite a m, infinite b => if m = 0 then nan else infinite (a != b)
  | finite a m, finite b n => ofRatio (a != b) (m * n) unitsPerOne

instance : Mul Binary64 := ⟨mul⟩

/-- Strict order. Nothing is below or above `nan`, and the two zeros are equal. -/
def less : Binary64 → Binary64 → Bool
  | nan, _ => false
  | _, nan => false
  | infinite a, infinite b => a && !b
  | infinite a, finite _ _ => a
  | finite _ _, infinite b => !b
  | finite a m, finite b n => signedUnits a m < signedUnits b n

/-- Whether two doubles are equal as numbers. -/
def same : Binary64 → Binary64 → Bool
  | nan, _ => false
  | _, nan => false
  | infinite a, infinite b => a == b
  | infinite _, finite _ _ => false
  | finite _ _, infinite _ => false
  | finite a m, finite b n => signedUnits a m == signedUnits b n

/-- Whether a number is below another or equal to it. -/
def atMost (x y : Binary64) : Bool :=
  less x y || same x y

/-- The first number unless the second is above it. -/
def atLeast (x floor : Binary64) : Binary64 :=
  if less x floor then floor else x

def isFinite : Binary64 → Bool
  | finite _ _ => true
  | _ => false

/-- The integer that a double is, if it is one. -/
def toInt? : Binary64 → Option Int
  | finite negative units =>
    if units % unitsPerOne = 0 then some (signedUnits negative (units / unitsPerOne)) else none
  | _ => none

/-- Whether an integer exceeds a double; both are taken exactly. -/
def exceededBy (x : Binary64) (n : Int) : Bool :=
  match x with
  | nan => false
  | infinite negative => negative
  | finite negative units => signedUnits negative units < n * unitsPerOne

end Binary64

end SubstBot
