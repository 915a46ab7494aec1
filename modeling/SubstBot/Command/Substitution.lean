import SubstBot.Message
import SubstBot.Number.Decimal
import SubstBot.Rule.Basic
import SubstBot.Text.Blank

/-!
# `SubstBot/Command/Substitution.lean` — the substitution command

A message with a rule in it asks for the rule to be applied to the message it replies to. The
result is sent as a reply to that message. What stands in the way of a result is told to the author
of the rule instead: there is no such message, the result is blank or too long, or matching took
too long.

Time does not pass here. The time that matching may take is handed to the engine, and the engine
says when it was not enough.
-/

set_option autoImplicit false

namespace SubstBot.Command

structure SubstitutionRequest (E : Regex.Engine) where
  rule : Rule E
  chat : Identifier
  trigger : Identifier
  target : Option Message

/-- The seconds that matching may take unless something else is asked for. -/
def matchTimeout : Binary64 := .ofDecimal false 5 (-1)

structure Limits where
  /-- The most characters that a result may have. -/
  maxLength : Int := 4096
  /-- The seconds after which matching is stopped. -/
  timeout : Binary64 := matchTimeout

/-- Why a substitution has no result. -/
inductive SubstitutionError where
  | missingMessage
  | emptyResult
  | resultTooLong (length : Nat) (limit : Int)
  | regexTimeout (timeout : Binary64)
  deriving DecidableEq, Repr

def SubstitutionError.message : SubstitutionError → String
  | missingMessage => "no message could be reached; reply to the message you want to edit"
  | emptyResult => "the replacement resulted in an empty message"
  | resultTooLong length limit =>
    "the replacement resulted in a message of " ++ toString length ++ " characters (limit is " ++
      toString limit ++ ")"
  | regexTimeout timeout =>
    "the query regex took longer than " ++ timeout.text ++ "s to match and was stopped"

namespace SubstitutionRequest

variable {E : Regex.Engine}

/-- The request in a message, if there is the marker of a rule in it. -/
def parse? (E : Regex.Engine) (m : Message) :
    Except Rule.ParseError (Option (SubstitutionRequest E)) :=
  (Rule.parse? E m.content.toList).map fun rule? =>
    rule?.map fun rule => { rule, chat := m.chat, trigger := m.id, target := m.replied? }

/-- The result of a request, as a reply to the message that it changes. -/
def execute (limits : Limits) (r : SubstitutionRequest E) : Except SubstitutionError Outgoing :=
  match r.target with
  | none => .error .missingMessage
  | some target =>
    match r.rule.apply target.content.toList limits.timeout with
    | none => .error (.regexTimeout limits.timeout)
    | some result =>
      if Text.allBlank result then .error .emptyResult
      else if limits.maxLength < result.length then
        .error (.resultTooLong result.length limits.maxLength)
      else
        .ok { chat := r.chat, content := String.ofList result, reply := .id target.id }

end SubstitutionRequest

end SubstBot.Command
