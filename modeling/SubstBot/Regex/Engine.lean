import SubstBot.Number.Binary64

/-!
# `SubstBot/Regex/Engine.lean` — what the bot asks of an engine for regular expressions

The bot matches nothing itself. It has the text of a pattern compiled, it asks how many groups a
pattern has, and it has the matches along another text replaced. An `Engine` is whatever answers
these questions, and **everything built on an engine is built on any engine**: which texts are
patterns, what they match and how long that takes are the engine's own.

What is known of a match is what a replacement may depend on. `Match.group` has an answer for each
group of the pattern and for no other number, so whoever asks has to know how many groups there are.

`splice` is no part of an engine. It is what a replacement of matches comes to, once they are known.
-/

set_option autoImplicit false

namespace SubstBot.Regex

/-- The options that a pattern is compiled under. -/
structure Options where
  ignoreCase : Bool := false
  multiLine : Bool := false
  dotAll : Bool := false
  verbose : Bool := false
  deriving DecidableEq, Repr

/-- A stretch of text, from its first place to the place after its last character. -/
structure Span where
  start : Nat
  stop : Nat
  deriving DecidableEq, Repr, Inhabited

def Span.slice (s : Span) (text : Array Char) : List Char :=
  (text.extract s.start s.stop).toList

/-- A match of a pattern with some number of groups: where it is, and the text that each group
holds. Group 0 is the whole match. A group that took no part holds nothing. -/
structure Match (groups : Nat) where
  span : Span
  group : Fin (groups + 1) → Option (List Char)

structure Engine where
  Pattern : Type
  /-- The pattern that a text stands for, or the words for what is wrong with the text. -/
  compile : Options → List Char → Except String Pattern
  groups : Pattern → Nat
  /-- The text with something else in place of the first `count` matches along it, or of all of them
  if `count` is zero. There is no result if matching took longer than the time that it was given, in
  seconds. -/
  sub : (p : Pattern) → (expand : Match (groups p) → List Char) → (text : List Char) →
    (count : Nat) → (timeout : Option Binary64) → Option (List Char)

/-! ## Putting something in place of matches -/

section

variable {groups : Nat}

/-- The rest of a text, which begins at `place`, with `expand m` in place of each match. -/
def spliceFrom (expand : Match groups → List Char) :
    (place : Nat) → (rest : List Char) → List (Match groups) → List Char
  | _, rest, [] => rest
  | place, rest, m :: ms =>
    rest.take (m.span.start - place) ++ expand m ++
      spliceFrom expand m.span.stop (rest.drop (m.span.stop - place)) ms

def splice (expand : Match groups → List Char) (text : List Char) (ms : List (Match groups)) :
    List Char :=
  spliceFrom expand 0 text ms

end

end SubstBot.Regex
