import SubstBot.Command.Help
import SubstBot.Command.Substitution
import SubstBot.Transport

/-!
# `SubstBot/Handler.lean` — handlers

A handler looks at a message and either declines it or claims it. A handler made of a parser and a
command claims a message by answering it, with the command's result or with the words for what was
wrong with the request. It decides on the answer alone; sending it is for whoever runs the handler.

**A handler can also fail**, with an error of the transport or with anything else. What else there is
depends on the handlers and not on those who run them, so it is a parameter `ε`. The handlers of the
bot fail otherwise only on a number that is too long.
-/

set_option autoImplicit false

namespace SubstBot

/-- A failure inside a handler, other than one of sending its answer. -/
inductive HandlerFailure (ε : Type := Rule.NumeralTooLong) where
  | transport (e : TransportError)
  | other (e : ε)
  deriving DecidableEq, Repr

/-- What a handler makes of a message. -/
inductive Response (ε : Type := Rule.NumeralTooLong) where
  | declined
  /-- The message is claimed, and nothing is sent. -/
  | claimed
  /-- The message is claimed by sending one answer, after something was logged. -/
  | answered (logs : List LogRecord) (answer : Outgoing)
  | failed (e : HandlerFailure ε)
  deriving DecidableEq, Repr

structure Handler (ε : Type := Rule.NumeralTooLong) where
  respond : Identity → Message → Response ε

namespace Handler

/-- A reply to a message with the words for what went wrong. -/
def replyTo (m : Message) (text : String) : Outgoing where
  chat := m.chat
  content := text
  reply := .id m.id

/-- How parsing a request can fail: with words for the author of the message, or with a failure of
the handler. -/
inductive ParseFailure where
  | told (text : String)
  | escaped (e : HandlerFailure)
  deriving DecidableEq, Repr

/-- The handler of a parser and a command. The parser gives no request for a message that is not
for this command; the command fails with words for the author. -/
def ofCommand {ρ : Type} (parse : Identity → Message → Except ParseFailure (Option ρ))
    (execute : ρ → Except String Outgoing) : Handler where
  respond bot m :=
    match parse bot m with
    | .error (.told text) =>
      .answered [⟨.debug, .handler, "Parse error on message " ++ m.id.show ++ ": " ++ text⟩]
        (replyTo m text)
    | .error (.escaped e) => .failed e
    | .ok none => .declined
    | .ok (some request) =>
      match execute request with
      | .ok answer => .answered [] answer
      | .error text =>
        .answered [⟨.debug, .handler, "Command error on message " ++ m.id.show ++ ": " ++ text⟩]
          (replyTo m text)

/-- A rule that cannot be read: its faults are told, a number that is too long is not. -/
def parseFailure : Rule.ParseError → ParseFailure
  | .fault f => .told f.message
  | .numeral e => .escaped (.other e)

def help : Handler :=
  ofCommand (fun bot m => .ok (Command.HelpInquiry.parse? bot m)) fun r => .ok r.execute

def substitution (E : Regex.Engine) (limits : Command.Limits) : Handler :=
  ofCommand (fun _ m => (Command.SubstitutionRequest.parse? E m).mapError parseFailure) fun r =>
    (r.execute limits).mapError Command.SubstitutionError.message

/-- The handlers of the bot, in the order in which messages are offered to them. -/
def standard (E : Regex.Engine) (matchTimeout : Binary64) : List Handler :=
  [help, substitution E { timeout := matchTimeout }]

/-! ## Descriptions -/

def helpParserText : String := "HelpRequestParser()"

def helpCommandText : String := "HelpCommand()"

def substitutionParserText : String := "ReplaceRequestParser()"

def substitutionCommandText (limits : Command.Limits) : String :=
  "ReplaceCommand(max_length=" ++ toString limits.maxLength ++ ", timeout=" ++
    limits.timeout.text ++ ")"

def handlerText (parser command : String) : String :=
  "DefaultHandler(parser=" ++ parser ++ ", command=" ++ command ++ ")"

end Handler

end SubstBot
