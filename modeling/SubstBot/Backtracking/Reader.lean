import SubstBot.Backtracking.Diagnostic
import SubstBot.Backtracking.Syntax
import SubstBot.Text.Blank

/-!
# `SubstBot/Backtracking/Reader.lean` — a pattern text being read

The reader holds the rest of a pattern, the offset reached, the options in force and the groups
met so far. Under the free-spacing option, blanks and comments may stand almost anywhere; they are
skipped when the next character is asked for, and not before, so that an error about what is
missing points in front of them.
-/

set_option autoImplicit false

namespace SubstBot.Backtracking

open Regex (Options)

/-- A group as a pattern refers to it, with the offset of the reference. -/
inductive Ref where
  | number (n : Nat) (position : Nat)
  | name (s : List Char) (position : Nat)
  deriving DecidableEq, Repr

/-- How far a pattern has been read. -/
structure Reader where
  rest : List Char
  position : Nat := 0
  /-- Whether blanks and comments are skipped at this place. -/
  skipping : Bool
  options : Options
  /-- The options that hold for the whole pattern. -/
  whole : Options
  groups : Nat := 0
  names : List (List Char × Nat) := []
  opened : List Nat := []

/-- Why reading stopped early: an error, or the discovery, in the middle of a pattern, of an option
that holds from its start. -/
inductive Halt where
  | error (cause : Cause) (position : Nat)
  | restart (whole : Options)

/-- A reading step. -/
abbrev Read := StateT Reader (Except Halt)

namespace Reader

/-- The number of characters at the start of `s` that are blank or in a comment, which runs from
`#` to the end of its line; `comment` tells whether `s` starts inside one. -/
def ignored (comment : Bool) : List Char → Nat
  | [] => 0
  | c :: r =>
    if comment then ignored (c != '\n') r + 1
    else if Text.isBlank c then ignored false r + 1
    else if c = '#' then ignored true r + 1
    else 0

/-- The reader past what is ignored at its place. -/
def skip (r : Reader) : Reader :=
  if r.skipping then
    let n := ignored false r.rest
    { r with rest := r.rest.drop n, position := r.position + n }
  else r

def failAt {α : Type} (cause : Cause) (position : Nat) : Read α :=
  throw (.error cause position)

/-- Stop with an error here. -/
def fail {α : Type} (cause : Cause) : Read α := do
  failAt cause (← get).position

def nextRaw? : Read (Option Char) := do
  let r ← get
  match r.rest with
  | [] => return none
  | c :: rest =>
    set { r with rest, position := r.position + 1 }
    return some c

def next? : Read (Option Char) := do
  modify skip
  nextRaw?

/-- Go back to an earlier place; groups and options stay as they are. -/
def backTo (earlier : Reader) : Read Unit :=
  modify fun r => { r with rest := earlier.rest, position := earlier.position }

/-- Read one given character if it comes next; otherwise stay in front of any ignored text. -/
def accept (c : Char) : Read Bool := do
  let before ← get
  if (← next?) = some c then return true
  backTo before
  return false

def expect (c : Char) : Read Unit := do
  unless ← accept c do fail (.missing c)

/-- How many characters of `s` belong to a run of characters with property `p`, ignored text
between them included, and which they are. -/
def run (skipping : Bool) (p : Char → Bool) (comment : Bool) : List Char → Nat × List Char
  | [] => (0, [])
  | c :: r =>
    if comment then
      let (n, found) := run skipping p (c != '\n') r
      (n + 1, found)
    else if skipping && Text.isBlank c then
      let (n, found) := run skipping p false r
      (n + 1, found)
    else if skipping && c = '#' then
      let (n, found) := run skipping p true r
      (n + 1, found)
    else if p c then
      let (n, found) := run skipping p false r
      (n + 1, c :: found)
    else (0, [])

/-- The longest run of characters with property `p` at this place. -/
def many (p : Char → Bool) : Read (List Char) := do
  let r ← get
  let (n, found) := run r.skipping p false r.rest
  set { r with rest := r.rest.drop n, position := r.position + n }
  return found

/-- Read with other options in force; the ones before hold again afterwards. -/
def within {α : Type} (options : Options) (step : Read α) : Read α := do
  let before := (← get).options
  modify fun r => { r with options, skipping := options.verbose }
  let a ← step
  modify fun r => { r with options := before, skipping := before.verbose }
  return a

def verbatim {α : Type} (step : Read α) : Read α := do
  let before := (← get).skipping
  modify fun r => { r with skipping := false }
  let a ← step
  modify fun r => { r with skipping := before }
  return a

/-- Open a group: the next number, or the number that its name already has. -/
def openGroup (name : Option (List Char)) : Read Nat := do
  let r ← get
  match name.bind (r.names.lookup ·) with
  | some n =>
    set { r with opened := n :: r.opened }
    return n
  | none =>
    let n := r.groups + 1
    let names := match name with
      | some s => (s, n) :: r.names
      | none => r.names
    set { r with groups := n, names, opened := n :: r.opened }
    return n

def closeGroup : Read Unit :=
  modify fun r => { r with opened := r.opened.tail }

end Reader

end SubstBot.Backtracking
