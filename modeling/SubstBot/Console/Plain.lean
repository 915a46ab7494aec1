import SubstBot.Console
import SubstBot.Text.ControlSequence
import SubstBot.Text.Wrap

/-!
# `SubstBot/Console/Plain.lean` — one shell

The shell to run the program with. It knows the two commands and their options, and **it prints to no
terminal**: there are no colours, a text for a person is broken into lines of at most 80 characters,
and a text that is printed as it stands goes without the control sequences in it.
-/

set_option autoImplicit false

namespace SubstBot.Console.Plain

def version : String := "0.4.0"

def width : Nat := 80

/-- A text as it is printed to a person. -/
def shown (s : String) : String :=
  "\n".intercalate ((Text.wrap width s.toList).map String.ofList) ++ "\n"

/-- A text as it is printed as it stands, on a line of its own. -/
def echoed (s : String) : String :=
  String.ofList (Text.dropControls (s.toList ++ ['\n']))

/-! ## Usage -/

/-- A command, with the line that shows its use. -/
inductive Command where
  | main
  | apply
  | start
  deriving DecidableEq, Repr

def Command.usage : Command → String
  | main => "Usage: cli [OPTIONS] COMMAND [ARGS]...\n"
  | apply => "Usage: cli apply [OPTIONS] RULE TEXT\n"
  | start => "Usage: cli start [OPTIONS]\n"

def Command.path : Command → String
  | main => "cli"
  | apply => "cli apply"
  | start => "cli start"

def Command.help (c : Command) : String :=
  c.usage ++
    match c with
    | main =>
      "\n  Sedbot — sed-style message rewriting bot for Telegram\n\nOptions:\n" ++
      "  --version  Show the version and exit.\n" ++
      "  --help     Show this message and exit.\n\nCommands:\n" ++
      "  apply  Apply a s/search/replacement/flags RULE to TEXT offline.\n" ++
      "  start  Start the Telegram bot.\n"
    | apply =>
      "\n  Apply a s/search/replacement/flags RULE to TEXT offline.\n\nOptions:\n" ++
      "  --help  Show this message and exit.\n"
    | start =>
      "\n  Start the Telegram bot.\n\nOptions:\n" ++
      "  --debug  Enable debug logging\n" ++
      "  --help   Show this message and exit.\n"

/-- The answer to a command line that is not used as it should be. -/
def misuse (c : Command) (problem : String) : Answer where
  exitCode := 2
  stderr :=
    c.usage ++ "Try '" ++ c.path ++ " --help' for help.\n\n" ++ echoed ("Error: " ++ problem)

def helpAnswer (c : Command) : Answer where
  exitCode := 0
  stdout := c.help

def isOption (s : String) : Bool :=
  s.length > 1 && s.startsWith "-"

/-- The name of an option, as it is named when it is unknown. -/
def optionName (s : String) : String :=
  if s.startsWith "--" then String.ofList (s.toList.takeWhile (· != '='))
  else String.ofList (s.toList.take 2)

/-- Arguments sorted into those that are no options and those that are known options; an unknown
option is an error. Behind `--`, nothing is an option. -/
def sortArguments (known : List String) : List String → Except String (List String × List String)
  | [] => .ok ([], [])
  | a :: r =>
    if a = "--" then .ok (r, [])
    else if !isOption a then
      (sortArguments known r).map fun (words, options) => (a :: words, options)
    else if known.contains a then
      (sortArguments known r).map fun (words, options) => (words, a :: options)
    else .error ("No such option: " ++ optionName a)

def tooMany (extra : List String) : String :=
  "Got unexpected extra argument" ++ (if extra.length = 1 then "" else "s") ++ " (" ++
    " ".intercalate extra ++ ")"

/-! ## The shell -/

/-- The two arguments of `apply`. -/
def readApply (args : List String) : Except Answer Request :=
  match sortArguments ["--help"] args with
  | .error e => .error (misuse .apply e)
  | .ok (_, _ :: _) => .error (helpAnswer .apply)
  | .ok ([], []) => .error (misuse .apply "Missing argument 'RULE'.")
  | .ok ([_], []) => .error (misuse .apply "Missing argument 'TEXT'.")
  | .ok ([rule, text], []) => .ok (.apply rule text)
  | .ok (_ :: _ :: extra, []) => .error (misuse .apply (tooMany extra))

def readStart (args : List String) : Except Answer Request :=
  match sortArguments ["--help", "--debug"] args with
  | .error e => .error (misuse .start e)
  | .ok (words, options) =>
    if options.contains "--help" then .error (helpAnswer .start)
    else if !words.isEmpty then .error (misuse .start (tooMany words))
    else .ok (.start (options.contains "--debug"))

def read : List String → Except Answer Request
  | [] => .error { exitCode := 2, stderr := Command.main.help }
  | "apply" :: args => readApply args
  | "start" :: args => readStart args
  | "--version" :: _ =>
    .error { exitCode := 0, stdout := "sedbot, version " ++ version ++ "\n" }
  | "--help" :: _ => .error (helpAnswer .main)
  | a :: _ =>
    if isOption a then .error (misuse .main ("No such option: " ++ optionName a))
    else .error (misuse .main ("No such command '" ++ a ++ "'."))

def shell : Shell where
  read := read
  shown := shown
  echoed := echoed

end SubstBot.Console.Plain
