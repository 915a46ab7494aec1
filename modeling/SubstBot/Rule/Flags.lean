import SubstBot.Regex.Engine

/-!
# `SubstBot/Rule/Flags.lean` — the flags of a rule

The last segment of a rule is a row of letters, each at most once and in any order. Four of them
are options that the pattern is read under; two ask for the pattern text to be changed first, and
one asks for every match to be replaced. Reading stops at the first letter that is unknown or was there
before.
-/

set_option autoImplicit false

namespace SubstBot.Rule

/-- What the flags of a rule ask for. -/
structure Flags where
  ignoreCase : Bool := false
  multiLine : Bool := false
  dotAll : Bool := false
  swapped : Bool := false
  verbose : Bool := false
  octal : Bool := false
  global : Bool := false
  deriving DecidableEq, Repr

inductive Flag where
  | ignoreCase
  | multiLine
  | dotAll
  | swapped
  | verbose
  | octal
  | global
  deriving DecidableEq, Repr

/-- The flag that a letter stands for. -/
def Flag.ofLetter? (c : Char) : Option Flag :=
  if c = 'i' then some ignoreCase
  else if c = 'm' then some multiLine
  else if c = 's' then some dotAll
  else if c = 'U' then some swapped
  else if c = 'x' then some verbose
  else if c = 'o' then some octal
  else if c = 'g' then some global
  else none

/-- A letter that cannot stand where it does. -/
inductive FlagError where
  | unrecognized (letter : Char)
  | duplicated (letter : Char)
  deriving DecidableEq, Repr

namespace Flags

def has (f : Flags) : Flag → Bool
  | .ignoreCase => f.ignoreCase
  | .multiLine => f.multiLine
  | .dotAll => f.dotAll
  | .swapped => f.swapped
  | .verbose => f.verbose
  | .octal => f.octal
  | .global => f.global

def insert (f : Flags) : Flag → Flags
  | .ignoreCase => { f with ignoreCase := true }
  | .multiLine => { f with multiLine := true }
  | .dotAll => { f with dotAll := true }
  | .swapped => { f with swapped := true }
  | .verbose => { f with verbose := true }
  | .octal => { f with octal := true }
  | .global => { f with global := true }

/-- Read letters, given the flags read before. -/
def parseFrom (f : Flags) : List Char → Except FlagError Flags
  | [] => .ok f
  | c :: r =>
    match Flag.ofLetter? c with
    | none => .error (.unrecognized c)
    | some flag => if f.has flag then .error (.duplicated c) else (f.insert flag).parseFrom r

def parse (s : List Char) : Except FlagError Flags :=
  parseFrom {} s

def options (f : Flags) : Regex.Options where
  ignoreCase := f.ignoreCase
  multiLine := f.multiLine
  dotAll := f.dotAll
  verbose := f.verbose

end Flags

end SubstBot.Rule
