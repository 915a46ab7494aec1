import SubstBot.Regex.Engine

/-!
# `SubstBot/Proofs/Regex/Gaps.lean` — matches, and the text between them

Matches that are in order cut a text into gaps, with one match between each gap and the next. The
text is the gaps with what was matched between them (`weave_slices`), and **what replacing the
matches comes to is the same gaps with the replacements between them** (`splice_eq_weave`).

An engine is known by `Engine.Finds`: along one text, a pattern has some matches, and asking for them
to be replaced replaces them. That they are found from left to right is not part of it. An engine may
go through a text backwards, and then the first match that it finds is the last in the text.
-/

set_option autoImplicit false

namespace SubstBot.Regex

variable {groups : Nat}

/-! ## Matches in order -/

/-- One match after another, from a place on, in a text of `size` characters. -/
inductive InOrder (size : Nat) : Nat → List (Match groups) → Prop where
  | nil {place : Nat} (h : place ≤ size) : InOrder size place []
  | cons {place : Nat} {m : Match groups} {ms : List (Match groups)} (hstart : place ≤ m.span.start)
      (hstop : m.span.start ≤ m.span.stop) (rest : InOrder size m.span.stop ms) :
      InOrder size place (m :: ms)

/-- The first `count` of a list, or all of it if `count` is zero. -/
def limited {α : Type} (count : Nat) (as : List α) : List α :=
  if count = 0 then as else as.take count

/-- What a match is of. -/
def Match.matched (text : List Char) (m : Match groups) : List Char :=
  m.span.slice text.toArray

/-- **The matches that an engine finds along a text**, in the order in which it finds them. -/
structure Engine.Finds (E : Engine) (p : E.Pattern) (text : List Char)
    (found : List (Match (E.groups p))) : Prop where
  whole : ∀ m ∈ found, m.group 0 = some (m.matched text)
  /-- The matches that are asked for do not overlap, and they are replaced where they stand. -/
  replaced : ∀ count, ∃ ms : List (Match (E.groups p)),
    ms.Perm (limited count found) ∧ InOrder text.length 0 ms ∧
      ∀ expand, E.sub p expand text count none = some (splice expand text ms)

/-- With less time there is the same result, or none. -/
def Engine.Steady (E : Engine) : Prop :=
  ∀ p expand text count timeout, E.sub p expand text count (some timeout) = none ∨
    E.sub p expand text count (some timeout) = E.sub p expand text count none

/-! ## Gaps -/

/-- The text between the matches: from a place to the first, from each to the next, and behind the
last. -/
def gapsFrom (text : List Char) : Nat → List (Match groups) → List (List Char)
  | place, [] => [text.drop place]
  | place, m :: ms =>
    (⟨place, m.span.start⟩ : Span).slice text.toArray :: gapsFrom text m.span.stop ms

/-- Gaps with one piece between each and the next. -/
def weave : List (List Char) → List (List Char) → List Char
  | gap :: gaps, piece :: pieces => gap ++ piece ++ weave gaps pieces
  | gaps, _ => gaps.flatten

variable {text : List Char} {place : Nat} {ms : List (Match groups)}

theorem slice_toArray (text : List Char) (s : Span) :
    s.slice text.toArray = (text.drop s.start).take (s.stop - s.start) := by
  unfold Span.slice
  simp [List.extract_eq_take_drop]

/-- A stretch of the text and what follows it. -/
theorem slice_append_drop {s : Span} (h : s.start ≤ s.stop) :
    s.slice text.toArray ++ text.drop s.stop = text.drop s.start := by
  have hstop : text.drop s.stop = (text.drop s.start).drop (s.stop - s.start) := by
    rw [List.drop_drop, Nat.add_sub_cancel' h]
  rw [slice_toArray, hstop, List.take_append_drop]

/-- **Nothing of the text is lost and nothing is there twice**: it is the gaps and what was matched
between them. -/
theorem weave_slices (h : InOrder text.length place ms) :
    weave (gapsFrom text place ms) (ms.map (Match.matched text)) = text.drop place := by
  induction h with
  | nil h => simp [gapsFrom, weave]
  | @cons place m ms hstart hstop rest ih =>
    calc weave (gapsFrom text place (m :: ms)) ((m :: ms).map (Match.matched text))
        = (⟨place, m.span.start⟩ : Span).slice text.toArray ++
            (m.span.slice text.toArray ++ text.drop m.span.stop) := by
          rw [gapsFrom, List.map_cons, weave, ih, List.append_assoc]
          rfl
      _ = (⟨place, m.span.start⟩ : Span).slice text.toArray ++ text.drop m.span.start := by
          rw [slice_append_drop hstop]
      _ = text.drop place := slice_append_drop hstart

/-- **Replacing keeps the gaps** and puts one text in place of each match. -/
theorem spliceFrom_eq_weave (expand : Match groups → List Char)
    (h : InOrder text.length place ms) :
    spliceFrom expand place (text.drop place) ms =
      weave (gapsFrom text place ms) (ms.map expand) := by
  induction h with
  | nil h => simp [spliceFrom, gapsFrom, weave]
  | @cons place m ms hstart hstop rest ih =>
    -- The splice carries the rest of the text, the gaps the place in it; the two keep in step.
    have hrest : (text.drop place).drop (m.span.stop - place) = text.drop m.span.stop := by
      rw [List.drop_drop, Nat.add_sub_cancel' (Nat.le_trans hstart hstop)]
    rw [spliceFrom, hrest, ih, gapsFrom, List.map_cons, weave, slice_toArray]

theorem splice_eq_weave (expand : Match groups → List Char) (h : InOrder text.length 0 ms) :
    splice expand text ms = weave (gapsFrom text 0 ms) (ms.map expand) :=
  spliceFrom_eq_weave expand h

/-- Replacing each match by what it is of changes nothing. -/
theorem splice_matched {expand : Match groups → List Char} (h : InOrder text.length 0 ms)
    (hexpand : ∀ m ∈ ms, expand m = m.matched text) : splice expand text ms = text := by
  rw [splice_eq_weave expand h, List.map_congr_left hexpand, weave_slices h, List.drop_zero]

end SubstBot.Regex
