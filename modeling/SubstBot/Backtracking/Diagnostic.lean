/-!
# `SubstBot/Backtracking/Diagnostic.lean` — what is wrong with a pattern, and where

A pattern that cannot be read is reported with the cause and the offset of the place, counted in
characters from zero. When the pattern has more than one line, the line and the column follow,
both counted from one.
-/

set_option autoImplicit false

namespace SubstBot.Backtracking

inductive Cause where
  | missing (expected : Char)
  | unbalancedParenthesis
  | unterminatedSet
  | nothingToRepeat
  | multipleRepeat
  | leastAboveMost
  | countTooBig
  | unknownExtension
  | missingGroupName
  | badGroupName
  | unknownGroup
  | invalidGroupReference
  | openGroupReference
  | badRange
  | endInEscape
  | badEscape (letter : Char)
  | incompleteEscape (read : List Char)
  | badHexEscape (read : List Char)
  | optionOnAndOff
  | noOptionTurnedOff
  | optionTurnedOff
  deriving DecidableEq, Repr

def Cause.text : Cause → String
  | missing expected => "missing ".push expected
  | unbalancedParenthesis => "unbalanced parenthesis"
  | unterminatedSet => "unterminated character set"
  | nothingToRepeat => "nothing to repeat"
  | multipleRepeat => "multiple repeat"
  | leastAboveMost => "min repeat greater than max repeat"
  | countTooBig => "repeat count too big"
  | unknownExtension => "unknown extension"
  | missingGroupName => "missing group name"
  | badGroupName => "bad character in group name"
  | unknownGroup => "unknown group"
  | invalidGroupReference => "invalid group reference"
  | openGroupReference => "cannot refer to an open group"
  | badRange => "bad character range"
  | endInEscape => "bad escape (end of pattern)"
  | badEscape letter => "bad escape \\".push letter
  | incompleteEscape read => "incomplete escape \\" ++ String.ofList read
  | badHexEscape read => "bad hex escape \\" ++ String.ofList read
  | optionOnAndOff => "bad inline flags: flag turned on and off"
  | noOptionTurnedOff => "bad inline flags: no flags after '-'"
  | optionTurnedOff => "bad inline flags: cannot turn flags off"

/-- A cause at a place, with the line and column where the pattern has lines. -/
structure Diagnostic where
  cause : Cause
  position : Nat
  lineColumn : Option (Nat × Nat)
  deriving DecidableEq, Repr

namespace Diagnostic

/-- The line of the end of `s` and the column just after it, both from one, when `s` starts at the
given ones. -/
def advance (line column : Nat) : List Char → Nat × Nat
  | [] => (line, column)
  | c :: r => if c = '\n' then advance (line + 1) 1 r else advance line (column + 1) r

def locate (pattern : List Char) (cause : Cause) (position : Nat) : Diagnostic :=
  { cause, position
    lineColumn :=
      if pattern.contains '\n' then some (advance 1 1 (pattern.take position)) else none }

def text (d : Diagnostic) : String :=
  d.cause.text ++ " at position " ++ toString d.position ++
    match d.lineColumn with
    | none => ""
    | some (line, column) => " (line " ++ toString line ++ ", column " ++ toString column ++ ")"

end Diagnostic

end SubstBot.Backtracking
