import SubstBot.Service

/-!
# `SubstBot/Console.lean` — the command line

Two commands: `apply` applies a rule to a text, both given on the command line, and `start` runs
the bot. What the arguments ask for and what a printed text looks like is for a `Shell` to say;
what the commands do is said here, over any shell.

A command line gives an exit code and what is printed, so it is a function of its arguments, the
settings' sources and the connection.
-/

set_option autoImplicit false

namespace SubstBot.Console

/-- What a command line gives. `escaped` is an error that nothing along the way deals with. -/
structure Answer where
  exitCode : Nat
  stdout : String := ""
  stderr : String := ""
  /-- The calls that the bot made, if the command was to start it. -/
  calls : Option (List Telegram.CallRecord) := none
  escaped : Option Rule.NumeralTooLong := none
  /-- The bot was ended by a budget that is too large. -/
  overflowed : Bool := false

/-- What a command line asks for. -/
inductive Request where
  | apply (rule text : String)
  | start (debug : Bool)
  deriving DecidableEq, Repr

/-- What stands between the program and a person. -/
structure Shell where
  /-- The request in the arguments. Where there is none, the shell answers itself: with help, or with
  what is wrong with the arguments. -/
  read : List String → Except Answer Request
  /-- A text as it is printed to a person. -/
  shown : String → String
  /-- A text as it is printed as it stands, on a line of its own. -/
  echoed : String → String

/-! ## The commands -/

/-- A failure that is told to a person. -/
def failure (S : Shell) (text : String) : Answer where
  exitCode := 1
  stdout := S.shown text

def apply (E : Regex.Engine) (S : Shell) (rule text : String) : Answer :=
  match Rule.parse? E rule.toList with
  | .error (.fault f) => failure S f.message
  | .error (.numeral e) => { exitCode := 1, escaped := some e }
  | .ok none => failure S "not a substitution rule (expected s/search/replacement/flags)"
  | .ok (some rule) =>
    match rule.apply text.toList Command.matchTimeout with
    | some result => { exitCode := 0, stdout := S.echoed (String.ofList result) }
    | none =>
      failure S ("matching took longer than " ++ Command.matchTimeout.text ++ "s, stopped")

def start (E : Regex.Engine) (V : Settings.Validator) (S : Shell) (sources : Settings.Sources)
    (updater : Telegram.Updater) : Answer :=
  match Settings.load V sources with
  | .error ps =>
    { failure S ("Environment error: " ++ Settings.problemsText ps) with calls := some [] }
  | .ok settings =>
    let life := Service.run E settings updater
    let greeting := S.shown "Starting Sedbot..."
    match life.verdict with
    | .finished => { exitCode := 0, stdout := greeting, calls := some life.calls }
    | .gaveUp =>
      { exitCode := 1, stdout := greeting ++ S.shown "Too many failures, giving up."
        calls := some life.calls }
    | .escaped e =>
      { exitCode := 1, stdout := greeting, calls := some life.calls, escaped := some e }
    | .overflowed =>
      { exitCode := 1, stdout := greeting, calls := some life.calls, overflowed := true }

def run (E : Regex.Engine) (V : Settings.Validator) (S : Shell) (sources : Settings.Sources)
    (updater : Telegram.Updater) (args : List String) : Answer :=
  match S.read args with
  | .error answer => answer
  | .ok (.apply rule text) => apply E S rule text
  | .ok (.start _) => start E V S sources updater

end SubstBot.Console
