import SubstBot.Backtracking.Matcher

/-!
# `SubstBot/Backtracking/Occurrences.lean` — matches along a text

`Pattern.occurrences` goes once through a text from left to right and gives the matches in order;
they do not overlap. An empty match may follow a non-empty one at the same place, but there are never
two empty ones at one place: after an empty match, the next one must not end where it began.
-/

set_option autoImplicit false

namespace SubstBot.Backtracking

open Regex (Span Match)

/-- Where a pattern has matched, with the groups as stretches of the text. -/
structure Occurrence where
  span : Span
  captures : Captures

/-- What a group holds. A group that took no part holds nothing, and group 0 is the whole. -/
def Occurrence.group? (o : Occurrence) (n : Nat) : Option Span :=
  if n = 0 then some o.span else o.captures.group? n

/-- The occurrence with the text of its groups. -/
def Occurrence.toMatch (groups : Nat) (text : Array Char) (o : Occurrence) : Match groups where
  span := o.span
  group n := (o.group? n).map fun s => s.slice text

namespace Pattern

/-- A text as the pattern looks at it. -/
def subject (p : Pattern) (text : List Char) : Matcher.Subject where
  text := text.toArray
  watched := p.node.refs

/-- The match that starts exactly at a place. If `moving`, it must not end there. -/
def matchAt? (p : Pattern) (s : Matcher.Subject) (moving : Bool) (place : Nat) :
    Option Occurrence :=
  let fresh : Captures := Array.replicate p.groups none
  (Matcher.run s p.node false ⟨place, fresh⟩ fun r =>
    if moving && r.place == place then none else some r).map
    fun r => ⟨⟨place, r.place⟩, r.captures⟩

/-- The first match that starts at one of `tries` places from `place` on. Only at the first of them
can the demand to move matter. -/
def search? (p : Pattern) (s : Matcher.Subject) (moving : Bool) :
    (tries place : Nat) → Option Occurrence
  | 0, _ => none
  | tries + 1, place =>
    (p.matchAt? s moving place).orElse fun _ => p.search? s false tries (place + 1)

/-- Up to `limit` matches, in order, from a place on. -/
def occurrencesFrom (p : Pattern) (s : Matcher.Subject) :
    (limit : Nat) → (moving : Bool) → (place : Nat) → List Occurrence
  | 0, _, _ => []
  | limit + 1, moving, place =>
    match p.search? s moving (s.text.size + 1 - place) place with
    | none => []
    | some o =>
      o :: p.occurrencesFrom s limit (o.span.start == o.span.stop) o.span.stop

/-- At most `count` matches along a text, or all of them if `count` is zero. At most two matches end
at one place, so the number of places bounds the number of matches. -/
def occurrences (p : Pattern) (count : Nat) (text : List Char) : List Occurrence :=
  let most := 2 * (text.length + 1)
  p.occurrencesFrom (p.subject text) (if count = 0 then most else min count most) false 0

end Pattern

end SubstBot.Backtracking
