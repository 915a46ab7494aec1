import SubstBot.Number.Decimal
import SubstBot.Text.WordChar

/-!
# `SubstBot/Settings.lean` — settings

Six settings are read from values given directly, from environment variables and from a file of
such variables, in this order of precedence. The name of a variable is the setting's with a common
beginning, in capitals or not; a variable that is there but empty has a value, the empty text.

Every setting is checked on its own and everything that is wrong is reported, in a fixed order. How
a value is read, and whether it is within the bound of its setting, is for a `Validator` to say. What
the settings are, their bounds and defaults, and what comes of the checks is said here, over any
validator.
-/

set_option autoImplicit false

namespace SubstBot

structure Settings where
  token : String
  handle : Option String := none
  pollTimeout : Int := 30
  matchTimeout : Binary64 := .ofDecimal false 5 (-1)
  maxFailuresPerMinute : Int := 30
  restartDelay : Binary64 := .ofInt 1
  deriving DecidableEq, Repr

namespace Settings

inductive Name where
  | token
  | handle
  | pollTimeout
  | matchTimeout
  | maxFailuresPerMinute
  | restartDelay
  deriving DecidableEq, Repr

namespace Name

def text : Name → String
  | token => "token"
  | handle => "handle"
  | pollTimeout => "poll_timeout"
  | matchTimeout => "match_timeout"
  | maxFailuresPerMinute => "max_failures_per_minute"
  | restartDelay => "restart_delay"

/-- The name of the variable, in capitals. -/
def variableName (n : Name) : String :=
  "TELEGRAM_BOT_" ++ n.text.toUpper

/-- All names, in the order in which problems are reported. -/
def all : List Name :=
  [token, handle, pollTimeout, matchTimeout, maxFailuresPerMinute, restartDelay]

end Name

/-! ## Bounds and problems -/

/-- What a number has to be. -/
inductive Bound where
  | atLeast (n : Int)
  | above (n : Int)
  deriving DecidableEq, Repr

def Bound.text : Bound → String
  | atLeast n => "greater than or equal to " ++ toString n
  | above n => "greater than " ++ toString n

/-- Whether an integer is within a bound. -/
def Bound.admitsInt : Bound → Int → Bool
  | atLeast n, k => decide (n ≤ k)
  | above n, k => decide (n < k)

/-- Whether a double is within a bound. What is not a number is within none. -/
def Bound.admits : Bound → Binary64 → Bool
  | atLeast n, x => (Binary64.ofInt n).atMost x
  | above n, x => (Binary64.ofInt n).less x

inductive Problem where
  | missing
  | notText
  | notInteger
  | unreadableInteger
  | overlongInteger
  | fractional
  | notFinite
  | notNumber
  | unreadableNumber
  | outside (b : Bound)
  deriving DecidableEq, Repr

def Problem.text : Problem → String
  | missing => "Field required"
  | notText => "Input should be a valid string"
  | notInteger => "Input should be a valid integer"
  | unreadableInteger => "Input should be a valid integer, unable to parse string as an integer"
  | overlongInteger => "Unable to parse input string as an integer, exceeded maximum size"
  | fractional => "Input should be a valid integer, got a number with a fractional part"
  | notFinite => "Input should be a finite number"
  | notNumber => "Input should be a valid number"
  | unreadableNumber => "Input should be a valid number, unable to parse string as a number"
  | outside b => "Input should be " ++ b.text

/-- Everything that is wrong, in order. -/
abbrev Problems := List (Name × Problem)

def problemsText (ps : Problems) : String :=
  "invalid configuration: " ++
    "; ".intercalate (ps.map fun (n, p) => n.variableName ++ ": " ++ p.text)

/-! ## Reading -/

/-- A value given for a setting: a text, an integer, a double, or expressly nothing. -/
inductive Value where
  | text (s : String)
  | int (n : Int)
  | float (x : Binary64)
  | nothing
  deriving DecidableEq, Repr

/-- What reads the value of one setting, or says what is wrong with it. -/
structure Validator where
  text : Value → Except Problem String
  integer : Bound → Value → Except Problem Int
  number : Bound → Value → Except Problem Binary64

section

variable (V : Validator)

/-- A text that has to be there. -/
def requiredText (v : Option Value) : Except Problem String :=
  match v with
  | none => .error .missing
  | some v => V.text v

/-- A text that may be left out or expressly be nothing. -/
def optionalText (v : Option Value) : Except Problem (Option String) :=
  match v with
  | none => .ok none
  | some .nothing => .ok none
  | some v => (V.text v).map some

def orDefault {α : Type} (default : α) (check : Value → Except Problem α) :
    Option Value → Except Problem α
  | none => .ok default
  | some v => check v

def problem? {α : Type} (n : Name) : Except Problem α → Problems
  | .ok _ => []
  | .error p => [(n, p)]

/-- The settings with given values, or everything that is wrong with them. -/
def ofValues (value : Name → Option Value) : Except Problems Settings :=
  let token := requiredText V (value .token)
  let handle := optionalText V (value .handle)
  let pollTimeout := orDefault 30 (V.integer (.atLeast 0)) (value .pollTimeout)
  let matchTimeout :=
    orDefault (.ofDecimal false 5 (-1)) (V.number (.above 0)) (value .matchTimeout)
  let maxFailures := orDefault 30 (V.integer (.atLeast 0)) (value .maxFailuresPerMinute)
  let restartDelay := orDefault (.ofInt 1) (V.number (.atLeast 0)) (value .restartDelay)
  match token, handle, pollTimeout, matchTimeout, maxFailures, restartDelay with
  | .ok token, .ok handle, .ok pollTimeout, .ok matchTimeout, .ok maxFailuresPerMinute,
      .ok restartDelay =>
    .ok { token, handle, pollTimeout, matchTimeout, maxFailuresPerMinute, restartDelay }
  | _, _, _, _, _, _ =>
    .error (problem? .token token ++ problem? .handle handle ++
      problem? .pollTimeout pollTimeout ++ problem? .matchTimeout matchTimeout ++
      problem? .maxFailuresPerMinute maxFailures ++ problem? .restartDelay restartDelay)

end

/-! ## Sources -/

/-- Variables with their values; a later entry for a name takes the place of an earlier one. -/
abbrev Variables := List (String × String)

/-- The value of a variable whatever the case of its name. -/
def lookup (vs : Variables) (n : Name) : Option String :=
  (vs.reverse.find? fun (k, _) => k.toUpper == n.variableName).map Prod.snd

/-- A text without the white space around it. -/
def trimmed (s : List Char) : List Char :=
  ((s.dropWhile Text.isWhiteSpace).reverse.dropWhile Text.isWhiteSpace).reverse

/-- A value in the file without the comment and the quotes around it. -/
def fileValue (s : List Char) : List Char :=
  match trimmed s with
  | '"' :: r => r.takeWhile (· != '"')
  | '\'' :: r => r.takeWhile (· != '\'')
  | s =>
    let rec uncommented : List Char → List Char
      | [] => []
      | c :: r =>
        if Text.isWhiteSpace c && r.head? == some '#' then [] else c :: uncommented r
    trimmed (uncommented s)

/-- The variable in a line of the file, if there is one. -/
def fileLine? (line : List Char) : Option (String × String) :=
  let line := trimmed line
  if line.head? == some '#' then none
  else
    match line.dropWhile (· != '=') with
    | [] => none
    | _ :: value =>
      some (String.ofList (trimmed (line.takeWhile (· != '='))), String.ofList (fileValue value))

def lines : List Char → List (List Char)
  | [] => [[]]
  | c :: r =>
    if c = '\n' then [] :: lines r
    else
      match lines r with
      | [] => [[c]]
      | l :: ls => (c :: l) :: ls

def fileVariables (content : String) : Variables :=
  (lines content.toList).filterMap fileLine?

structure Sources where
  given : List (Name × Value) := []
  environment : Variables := []
  file : Variables := []

/-- The value of a setting: the one given directly, else the environment's, else the file's. -/
def Sources.value (s : Sources) (n : Name) : Option Value :=
  (s.given.lookup n).or (((lookup s.environment n).or (lookup s.file n)).map .text)

def load (V : Validator) (s : Sources) : Except Problems Settings :=
  ofValues V s.value

end Settings

end SubstBot
