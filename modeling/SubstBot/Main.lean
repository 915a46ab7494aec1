import SubstBot.Backtracking.Engine
import SubstBot.Console.Plain
import SubstBot.Settings.Lax

/-!
# `SubstBot/Main.lean` — the program

Reads the arguments, the environment and the file `.env`, prints what the command line gives and
exits with its code. No network is attached: `start` runs the bot over a connection on which
nothing happens.
-/

set_option autoImplicit false

open SubstBot

/-- The variables of the environment that are settings. -/
def readEnvironment : IO Settings.Variables :=
  Settings.Name.all.filterMapM fun n => do
    return (← IO.getEnv n.variableName).map fun v => (n.variableName, v)

/-- The content of a file, or nothing if it cannot be read. -/
def readOptional (path : String) : IO String :=
  try IO.FS.readFile path catch _ => return ""

/-- The program. -/
def main (args : List String) : IO UInt32 := do
  let environment ← readEnvironment
  let file ← readOptional ".env"
  let sources : Settings.Sources := { environment, file := Settings.fileVariables file }
  let answer := Console.run Backtracking.engine Settings.lax Console.Plain.shell sources
    { username := "sedbot" } args
  IO.print answer.stdout
  IO.eprint answer.stderr
  if let some e := answer.escaped then IO.eprintln e.message
  return answer.exitCode.toUInt32
