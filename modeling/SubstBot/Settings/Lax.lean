import SubstBot.Settings

/-!
# `SubstBot/Settings/Lax.lean` — one validator

The validator to run the program with. It is lax: a text is taken for the number that is written in
it, with white space around it, with underscores between its digits, and for an integer with a
fraction if the fraction is zero. A number is taken for a setting if it is within the bound.
-/

set_option autoImplicit false

namespace SubstBot.Settings

/-! ## Integers -/

/-- The digits of an integer numeral without the underscores, each of which must stand between two
digits. -/
def joinDigits? (s : List Char) : Option (List Char) :=
  match s with
  | [] => none
  | [d] => if d.isDigit then some [d] else none
  | d :: '_' :: e :: r =>
    if d.isDigit && e.isDigit then (joinDigits? (e :: r)).map (d :: ·) else none
  | d :: r => if d.isDigit then (joinDigits? r).map (d :: ·) else none

/-- The natural number of digits with underscores between them and an optional fraction of
zeros. -/
def readNatural? (s : List Char) : Option Nat :=
  let whole := s.takeWhile (· != '.')
  let fraction := (s.dropWhile (· != '.')).drop 1
  if fraction.all (· == '0') then (joinDigits? whole).map Binary64.readNat else none

def readInt? (s : List Char) : Option Int :=
  match trimmed s with
  | '+' :: r => (readNatural? r).map Int.ofNat
  | '-' :: r => (readNatural? r).map fun n => -(n : Int)
  | r => (readNatural? r).map Int.ofNat

/-- The smallest number with more digits than a text may have; zeros in front do not count. -/
def integerLimit : Nat := Binary64.powerOfTen 4300

/-! ## Numbers -/

/-- The double that a text stands for; underscores between digits are passed over. -/
def readFloat? (s : List Char) : Option Binary64 :=
  let s := trimmed s
  match Binary64.read? s with
  | some x => some x
  | none =>
    if s.head? == some '_' || s.getLast? == some '_' || (s.zip s.tail).contains ('_', '_') then none
    else Binary64.read? (s.filter (· != '_'))

/-! ## Values -/

/-- A value as a text; numbers are not turned into text. -/
def Value.toText : Value → Except Problem String
  | text s => .ok s
  | _ => .error .notText

/-- A value as an integer; a double has to be integral. -/
def Value.toInt : Value → Except Problem Int
  | text s => match readInt? s.toList with
    | some n => if integerLimit ≤ n.natAbs then .error .overlongInteger else .ok n
    | none => .error .unreadableInteger
  | int n => .ok n
  | float x =>
    if !x.isFinite then .error .notFinite
    else match x.toInt? with
      | some n => .ok n
      | none => .error .fractional
  | nothing => .error .notInteger

def Value.toFloat : Value → Except Problem Binary64
  | text s => match readFloat? s.toList with
    | some x => .ok x
    | none => .error .unreadableNumber
  | int n => .ok (.ofInt n)
  | float x => .ok x
  | nothing => .error .notNumber

/-- What has been read, if it is good. -/
def checked {α : Type} (good : α → Bool) (p : Problem) (read : Except Problem α) :
    Except Problem α :=
  match read with
  | .error q => .error q
  | .ok x => if good x then .ok x else .error p

def lax : Validator where
  text := Value.toText
  integer b v := checked b.admitsInt (.outside b) v.toInt
  number b v := checked b.admits (.outside b) v.toFloat

end SubstBot.Settings
