import SubstBot.PatternText.Greed
import SubstBot.PatternText.Octal
import SubstBot.Regex.Engine
import SubstBot.Rule.Flags
import SubstBot.Rule.Split
import SubstBot.Rule.Template
import SubstBot.Text.Quoted

/-!
# `SubstBot/Rule/Basic.lean` — substitution rules

A rule is found in a text behind the first `s/`, whatever stands before it: a query pattern, a
replacement template and flags, cut at unescaped slashes. Only the slash after the pattern is
needed; without the one after the template, there are no flags.

**Which error is reported** follows from the order in which the parts are read: the slash that ends
the pattern, the flags, the pattern, the template. The first three are faults of the rule, and its
author is told. A number in the template that is too long to be read is not among them.

Whether a query is a pattern, and what it matches, is for the engine to say. So rules are rules of
an engine, and an engine can also give up on a match for lack of time.
-/

set_option autoImplicit false

namespace SubstBot

structure Rule (E : Regex.Engine) where
  pattern : E.Pattern
  template : Rule.Template
  global : Bool

namespace Rule

/-- What can be wrong with a rule. -/
inductive Fault where
  | missingQuery
  | unrecognizedFlag (letter : Char)
  | duplicatedFlag (letter : Char)
  /-- The query is no pattern, for the reason that the engine gives. -/
  | invalidRegex (diagnostic : String)
  deriving DecidableEq, Repr

def Fault.message : Fault → String
  | missingQuery => "missing query regex in rule"
  | unrecognizedFlag letter => Text.quoted letter ++ " is an unrecognized flag"
  | duplicatedFlag letter => Text.quoted letter ++ " flag is duplicated"
  | invalidRegex diagnostic => "invalid query regex: " ++ diagnostic

/-- A flag that cannot stand where it does is a fault of the rule. -/
def Fault.ofFlagError : FlagError → Fault
  | .unrecognized letter => unrecognizedFlag letter
  | .duplicated letter => duplicatedFlag letter

inductive ParseError where
  | fault (f : Fault)
  | numeral (e : NumeralTooLong)
  deriving DecidableEq, Repr

/-- The pattern text after the changes that the flags ask for: octal escapes first, so that the
swap of greed reads the characters that they stand for. -/
def Flags.prepare (f : Flags) (query : List Char) : List Char :=
  let query := if f.octal then PatternText.Octal.expand query else query
  if f.swapped then PatternText.Greed.swap f.verbose query else query

def Flags.compile (E : Regex.Engine) (f : Flags) (query : List Char) : Except String E.Pattern :=
  E.compile f.options (f.prepare query)

/-- What stands behind the first `s/`. -/
def afterMarker? : List Char → Option (List Char)
  | 's' :: '/' :: r => some r
  | _ :: r => afterMarker? r
  | [] => none

/-- The three segments behind the marker, or the lack of the slash that ends the first. -/
def segments? (tail : List Char) : Option (List Char × List Char × List Char) :=
  (splitFrom '/' false tail).map fun (query, tail) =>
    match splitFrom '/' false tail with
    | some (replacement, flags) => (query, replacement, flags)
    | none => (query, tail, [])

def ofSegments (E : Regex.Engine) (query replacement flags : List Char) :
    Except ParseError (Rule E) :=
  match Flags.parse flags with
  | .error e => .error (.fault (.ofFlagError e))
  | .ok flags =>
    match flags.compile E query with
    | .error d => .error (.fault (.invalidRegex d))
    | .ok pattern =>
      match Template.parse replacement with
      | .error e => .error (.numeral e)
      | .ok template => .ok { pattern, template, global := flags.global }

/-- The rule in a text, if there is a marker in it at all. -/
def parse? (E : Regex.Engine) (text : List Char) : Except ParseError (Option (Rule E)) :=
  match afterMarker? text with
  | none => .ok none
  | some tail =>
    match segments? tail with
    | none => .error (.fault .missingQuery)
    | some (query, replacement, flags) => (ofSegments E query replacement flags).map some

variable {E : Regex.Engine}

/-- The text that a template refers to by a number: what the group holds, and nothing if it holds
nothing or the pattern has no such group. -/
def held {groups : Nat} (m : Regex.Match groups) (n : Nat) : List Char :=
  if h : n ≤ groups then (m.group ⟨n, Nat.lt_succ_of_le h⟩).getD [] else []

/-- The replacement of a match. -/
def expand (rule : Rule E) (m : Regex.Match (E.groups rule.pattern)) : List Char :=
  Template.render (held m) rule.template

/-- The text with the first match replaced, or every match under the global flag, unless matching
takes too long. -/
def apply (rule : Rule E) (text : List Char) (timeout : Option Binary64) : Option (List Char) :=
  E.sub rule.pattern rule.expand text (if rule.global then 0 else 1) timeout

end Rule

end SubstBot
