import SubstBot.Backtracking.Parser

/-!
# `SubstBot/Backtracking/Matcher.lean` — matching by backtracking

A pattern is matched at a place by trying its ways in order of preference and taking the first
that lets the rest succeed. What the rest is comes in as a continuation, so a way that fails later
is taken back by trying the next one.

Inside a lookbehind, matching runs backwards from the place: the second part of a sequence before
the first, and each character test on the character before the place.

A repetition stops after an idle round, whatever its counts ask for: further rounds could only do
the same. A round is idle if it consumed nothing and left every group as it was whose content the
pattern depends on.
-/

set_option autoImplicit false

namespace SubstBot.Backtracking

open Regex (Span)

/-- What each group holds, group `n` at index `n - 1`. -/
abbrev Captures := Array (Option Span)

def Captures.group? (cs : Captures) (n : Nat) : Option Span :=
  (cs[n - 1]?).join

def Captures.record (cs : Captures) (n : Nat) (s : Span) : Captures :=
  cs.setIfInBounds (n - 1) (some s)

/-- Where a way through a pattern has led: a place and the captures. -/
structure Reached where
  place : Nat
  captures : Captures

/-- What is tried next from where a way has led. -/
abbrev Continue := Reached → Option Reached

namespace Matcher

/-- The character at a place, going forwards or backwards, and the place beyond it. -/
def step? (text : Array Char) (backwards : Bool) (place : Nat) : Option (Char × Nat) :=
  if backwards then
    if place = 0 then none else (text[place - 1]?).map (·, place - 1)
  else (text[place]?).map (·, place + 1)

def wordAt (text : Array Char) (place : Nat) : Bool :=
  text[place]?.any Text.isWordChar

/-- Whether exactly one side of a place is a word character. -/
def atBoundary (text : Array Char) (place : Nat) : Bool :=
  (0 < place && wordAt text (place - 1)) != wordAt text place

def holds (text : Array Char) (place : Nat) : Anchor → Bool
  | .start => place == 0
  | .finish => place == text.size
  | .lastLine => place == text.size || (place + 1 == text.size && text[place]? == some '\n')
  | .lineStart => place == 0 || text[place - 1]? == some '\n'
  | .lineEnd => place == text.size || text[place]? == some '\n'
  | .boundary => atBoundary text place
  | .inside => !atBoundary text place

/-- Whether two characters are the same, with or without regard to case. -/
def sameChar (ignoreCase : Bool) (a b : Char) : Bool :=
  a == b || (ignoreCase && Text.fold a == Text.fold b)

/-- Whether `length` characters from `i` on are the same as those from `j` on. -/
def sameText (text : Array Char) (ignoreCase : Bool) : (length i j : Nat) → Bool
  | 0, _, _ => true
  | length + 1, i, j =>
    match text[i]?, text[j]? with
    | some a, some b => sameChar ignoreCase a b && sameText text ignoreCase length (i + 1) (j + 1)
    | _, _ => false

/-- The place beyond a repetition of the text of a span. -/
def repeatText? (text : Array Char) (backwards ignoreCase : Bool) (s : Span) (place : Nat) :
    Option Nat :=
  let length := s.stop - s.start
  if backwards then
    if length ≤ place && sameText text ignoreCase length s.start (place - length) then
      some (place - length)
    else none
  else if sameText text ignoreCase length s.start place then some (place + length)
  else none

def spanOf (entered left : Nat) : Span :=
  if entered ≤ left then ⟨entered, left⟩ else ⟨left, entered⟩

/-- What is matched: the text, and the groups whose content the pattern depends on. -/
structure Subject where
  text : Array Char
  watched : List Nat

/-- Whether a round from `r` to `r'` changed nothing that could make another one differ. -/
def Subject.idle (s : Subject) (r r' : Reached) : Bool :=
  r'.place == r.place && s.watched.all fun n => r'.captures.group? n == r.captures.group? n

/-- More rounds than a repetition ever takes: each that is not idle moves on in the text or changes
a watched group. -/
def Subject.roundLimit (s : Subject) : Nat :=
  (s.text.size + 2) * (s.watched.length + 2)

/-- Rounds of a repetition from where `count` rounds have led. `body` matches one round. -/
def rounds (s : Subject) (body : Reached → Continue → Option Reached) (greedy : Bool) (least : Nat)
    (most : Option Nat) (k : Continue) : (bound count : Nat) → Reached → Option Reached
  | 0, _, _ => none
  | bound + 1, count, r =>
    let another (_ : Unit) : Option Reached :=
      if most.any (· ≤ count) then none
      else
        body r fun r' =>
          if s.idle r r' then k r'
          else rounds s body greedy least most k bound (count + 1) r'
    if count < least then another ()
    else if greedy then (another ()).orElse fun _ => k r
    else (k r).orElse another

/-- The first way through a pattern from `r` that lets `k` succeed. -/
def run (s : Subject) : Node Nat → (backwards : Bool) → Reached → Continue → Option Reached
  | .empty, _, r, k => k r
  | .char set, backwards, r, k =>
    match step? s.text backwards r.place with
    | some (c, place) => if set.holds c then k { r with place } else none
    | none => none
  | .anchor a, _, r, k => if holds s.text r.place a then k r else none
  | .seq a b, backwards, r, k =>
    if backwards then run s b backwards r fun r => run s a backwards r k
    else run s a backwards r fun r => run s b backwards r k
  | .alt a b, backwards, r, k =>
    (run s a backwards r k).orElse fun _ => run s b backwards r k
  | .group n body, backwards, r, k =>
    run s body backwards r fun r' =>
      k { r' with captures := r'.captures.record n (spanOf r.place r'.place) }
  | .rep .possessive least most body, backwards, r, k =>
    (rounds s (fun r k => run s body backwards r k) true least most some s.roundLimit 0 r).bind k
  | .rep greed least most body, backwards, r, k =>
    rounds s (fun r k => run s body backwards r k) (greed = .greedy) least most k s.roundLimit 0 r
  | .atomic body, backwards, r, k => (run s body backwards r some).bind k
  | .look behind positive body, _, r, k =>
    match run s body behind r some with
    | some r' => if positive then k { r with captures := r'.captures } else none
    | none => if positive then none else k r
  | .backref n ignoreCase, backwards, r, k =>
    match r.captures.group? n with
    | none => none
    | some span =>
      match repeatText? s.text backwards ignoreCase span r.place with
      | some place => k { r with place }
      | none => none
  | .cond n yes no, backwards, r, k =>
    if (r.captures.group? n).isSome then run s yes backwards r k
    else run s no backwards r k

end Matcher

end SubstBot.Backtracking
