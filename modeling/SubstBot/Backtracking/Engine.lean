import SubstBot.Backtracking.Occurrences

/-!
# `SubstBot/Backtracking/Engine.lean` — one engine

An engine to run the bot with. It reads the syntax that most queries are written in: sets, groups,
repetitions in their three ways, looking around, conditions and references. A text beyond that is
refused or read as something else, so **nothing that is said of every engine is said with this one in
mind**.

It goes through a text from left to right and is never stopped.
-/

set_option autoImplicit false

namespace SubstBot.Backtracking

open Regex (Engine Match)

/-- The matches of a pattern along a text, at most `count` of them, or all if `count` is zero. -/
def found (p : Pattern) (count : Nat) (text : List Char) : List (Match p.groups) :=
  (p.occurrences count text).map (Occurrence.toMatch p.groups text.toArray)

def engine : Engine where
  Pattern := Pattern
  compile options text := (Pattern.parse options text).mapError Diagnostic.text
  groups := Pattern.groups
  sub p expand text count _ := some (Regex.splice expand text (found p count text))

end SubstBot.Backtracking
