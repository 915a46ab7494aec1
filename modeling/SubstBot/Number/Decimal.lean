import SubstBot.Number.Binary64

/-!
# `SubstBot/Number/Decimal.lean` — decimal text of doubles, both ways

**Writing.** A double is written with the fewest significant digits that read back as the same
double; of the numerals of that length, the nearest. Between 10^-4 and 10^16 it is written
positionally, with `.0` when it is integral; outside with an exponent of at least two digits and
its sign.

**Reading.** A numeral is an optional sign and then digits with at most one point among them and
an optional exponent, or one of the words `inf`, `infinity` and `nan` in any case.
-/

set_option autoImplicit false

namespace SubstBot.Binary64

/-! ## Writing -/

/-- A positive number as `digits * 10 ^ exponent`, where the digits are those of one numeral. -/
structure Scaled where
  digits : Nat
  exponent : Int

/-- How many decimal digits a number has; zero has one. -/
def digitCount (n : Nat) : Nat :=
  (Nat.toDigits 10 n).length

/-- The place of the leading decimal digit of `units` units: the `e` with
`10 ^ e ≤ value < 10 ^ (e + 1)`. -/
def leadingPlace (units : Nat) : Int :=
  if unitsPerOne ≤ units then (digitCount (units / unitsPerOne) : Int) - 1
  else -(digitCount ((unitsPerOne - 1) / units) : Int)

/-- The two numerals of `length` digits around `units` units: the largest not above it and the
next one. -/
def around (units length : Nat) : Scaled × Scaled :=
  let exponent := leadingPlace units - ((length : Int) - 1)
  let low :=
    if 0 ≤ exponent then units / (unitsPerOne * powerOfTen exponent.toNat)
    else units * powerOfTen (-exponent).toNat / unitsPerOne
  (⟨low, exponent⟩, ⟨low + 1, exponent⟩)

/-- Whether a numeral reads back as `units` units. -/
def Scaled.readsAs (s : Scaled) (units : Nat) : Bool :=
  ofDecimal false s.digits s.exponent == finite false units

/-- How far a numeral lies from `units` units, times the denominator that both share. -/
def Scaled.distance (s : Scaled) (units : Nat) : Nat :=
  if 0 ≤ s.exponent then
    ((s.digits * powerOfTen s.exponent.toNat * unitsPerOne : Int) - units).natAbs
  else
    ((s.digits * unitsPerOne : Int) - units * powerOfTen (-s.exponent).toNat).natAbs

/-- The better of the two numerals of a length, if either reads back; an exact tie goes to the
even last digit. -/
def nearestOfLength? (units length : Nat) : Option Scaled :=
  let (low, high) := around units length
  match low.readsAs units, high.readsAs units with
  | false, false => none
  | true, false => some low
  | false, true => some high
  | true, true =>
    let below := low.distance units
    let above := high.distance units
    if below < above || (below == above && low.digits % 2 == 0) then some low else some high

/-- The shortest numeral for `units` units, trying the lengths from `length` upwards. Seventeen
digits always suffice, so the last case is never met from length one with seventeen tries. -/
def shortestFrom (units : Nat) : (tries length : Nat) → Scaled
  | 0, length => (around units length).1
  | tries + 1, length =>
    match nearestOfLength? units length with
    | some s => s
    | none => shortestFrom units tries (length + 1)

def dropLastZeros (ds : List Char) : List Char :=
  (ds.reverse.dropWhile (· == '0')).reverse

/-- The significant digits of a positive number and the place of the first of them. -/
def shortestDigits (units : Nat) : List Char × Int :=
  let s := shortestFrom units 17 1
  let ds := Nat.toDigits 10 s.digits
  (dropLastZeros ds, s.exponent + (ds.length : Int) - 1)

def positional (ds : List Char) (place : Int) : List Char :=
  if place < 0 then
    '0' :: '.' :: (List.replicate ((-place).toNat - 1) '0' ++ ds)
  else
    let whole := place.toNat + 1
    if ds.length ≤ whole then ds ++ List.replicate (whole - ds.length) '0' ++ ['.', '0']
    else ds.take whole ++ '.' :: ds.drop whole

def scientific (ds : List Char) (place : Int) : List Char :=
  let mantissa := match ds with
    | [] => []
    | [d] => [d]
    | d :: r => d :: '.' :: r
  let power := Nat.toDigits 10 place.natAbs
  let power := if power.length < 2 then '0' :: power else power
  mantissa ++ 'e' :: (if place < 0 then '-' else '+') :: power

def magnitudeText (units : Nat) : List Char :=
  if units = 0 then ['0', '.', '0']
  else
    let (ds, place) := shortestDigits units
    if -4 ≤ place && place < 16 then positional ds place else scientific ds place

def text : Binary64 → String
  | nan => "nan"
  | infinite negative => if negative then "-inf" else "inf"
  | finite negative units =>
    String.ofList (if negative then '-' :: magnitudeText units else magnitudeText units)

/-! ## Reading -/

def readNat (ds : List Char) : Nat :=
  ds.foldl (fun n d => n * 10 + (d.toNat - '0'.toNat)) 0

/-- An exponent after its `e`: an optional sign and at least one digit, to the end. -/
def readExponent? (s : List Char) : Option Int :=
  let (negative, ds) := match s with
    | '-' :: r => (true, r)
    | '+' :: r => (false, r)
    | r => (false, r)
  if ds.isEmpty || !ds.all Char.isDigit then none
  else some (if negative then -(readNat ds : Int) else readNat ds)

/-- A numeral without its sign. -/
def readMagnitude? (negative : Bool) (s : List Char) : Option Binary64 :=
  let word := s.map Char.toLower
  if word = ['i', 'n', 'f'] || word = "infinity".toList then some (infinite negative)
  else if word = ['n', 'a', 'n'] then some nan
  else
    let whole := s.takeWhile Char.isDigit
    let rest := s.dropWhile Char.isDigit
    let (part, rest) := match rest with
      | '.' :: r => (r.takeWhile Char.isDigit, r.dropWhile Char.isDigit)
      | r => ([], r)
    if whole.isEmpty && part.isEmpty then none
    else
      let mantissa := readNat (whole ++ part)
      let value (exponent : Int) := ofDecimal negative mantissa (exponent - part.length)
      match rest with
      | [] => some (value 0)
      | c :: r => if c = 'e' || c = 'E' then (readExponent? r).map value else none

/-- The double nearest to a numeral, or nothing if the text is not one. -/
def read? : List Char → Option Binary64
  | '-' :: r => readMagnitude? true r
  | '+' :: r => readMagnitude? false r
  | r => readMagnitude? false r

end SubstBot.Binary64
