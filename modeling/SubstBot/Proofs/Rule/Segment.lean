import Mathlib.Algebra.Ring.Parity
import Mathlib.Data.List.Induction
import SubstBot.Rule.Split

/-!
# `SubstBot/Proofs/Rule/Segment.lean` — where a text is cut at a delimiter

`splitFrom` carries one bit along the text: whether the next character is escaped. What the bit
means can be said without it. **A character is escaped exactly if an odd run of backslashes ends
right before it** (`escapedAfter_iff`), so a text is cut at its first delimiter that stands behind
an even run, and nowhere if every delimiter stands behind an odd one.

A `Segment` is a text that a delimiter can follow without being drawn into an escape, and that holds
no delimiter to be cut at. `splitFrom_eq_some_iff` says that what stands before the cut is
a segment and that every segment is found, which makes the cut unique.
-/

set_option autoImplicit false

namespace SubstBot.Rule

/-! ## The bit and the run -/

/-- The number of backslashes that a text ends in. -/
def backslashRun (s : List Char) : Nat :=
  (s.reverse.takeWhile (· = '\\')).length

/-- Whether the character after `s` is escaped, when the first character of `s` is as told. -/
def escapedAfter (escaped : Bool) (s : List Char) : Bool :=
  s.foldl (fun e c => c = '\\' && !e) escaped

@[simp] theorem escapedAfter_nil (e : Bool) : escapedAfter e [] = e := rfl

@[simp] theorem escapedAfter_cons (e : Bool) (c : Char) (s : List Char) :
    escapedAfter e (c :: s) = escapedAfter (c = '\\' && !e) s := rfl

theorem escapedAfter_append (e : Bool) (s t : List Char) :
    escapedAfter e (s ++ t) = escapedAfter (escapedAfter e s) t :=
  List.foldl_append

@[simp] theorem backslashRun_nil : backslashRun [] = 0 := rfl

theorem backslashRun_concat (s : List Char) (c : Char) :
    backslashRun (s ++ [c]) = if c = '\\' then backslashRun s + 1 else 0 := by
  by_cases hc : c = '\\' <;> simp [backslashRun, hc]

/-- **The bit is the parity of the run.** By induction from the end of the text, where both sides
look at the last character and at what stands before it. -/
theorem escapedAfter_iff (s : List Char) :
    escapedAfter false s = true ↔ Odd (backslashRun s) := by
  induction s using List.reverseRecOn with
  | nil => simp
  | append_singleton s c ih =>
    rw [escapedAfter_append, backslashRun_concat]
    by_cases hc : c = '\\'
    · rw [if_pos hc, Nat.odd_add_one, ← ih]
      simp [hc]
    · simp [hc]

theorem escapedAfter_eq_false_iff (s : List Char) :
    escapedAfter false s = false ↔ Even (backslashRun s) := by
  rw [← Nat.not_odd_iff_even, ← escapedAfter_iff, Bool.not_eq_true]

/-- What a text ends in behind its last character that is no backslash is counted, whatever stands
before. -/
theorem backslashRun_append_replicate {s : List Char} (hs : s.getLast? ≠ some '\\') (k : Nat) :
    backslashRun (s ++ List.replicate k '\\') = k := by
  induction k with
  | zero =>
    rw [List.replicate_zero, List.append_nil]
    cases s using List.reverseRecOn with
    | nil => rfl
    | append_singleton s c =>
      rw [List.getLast?_concat, ne_eq, Option.some.injEq] at hs
      rw [backslashRun_concat, if_neg hs]
  | succ k ih =>
    rw [List.replicate_succ', ← List.append_assoc, backslashRun_concat, if_pos rfl, ih]

theorem exists_before_run (s : List Char) :
    ∃ before, s = before ++ List.replicate (backslashRun s) '\\' ∧
      before.getLast? ≠ some '\\' := by
  induction s using List.reverseRecOn with
  | nil => exact ⟨[], rfl, by simp⟩
  | append_singleton s c ih =>
    by_cases hc : c = '\\'
    · obtain ⟨before, hs, hlast⟩ := ih
      refine ⟨before, ?_, hlast⟩
      rw [backslashRun_concat, if_pos hc, hc, List.replicate_succ', ← List.append_assoc, ← hs]
    · refine ⟨s ++ [c], ?_, ?_⟩
      · rw [backslashRun_concat, if_neg hc, List.replicate_zero, List.append_nil]
      · rw [List.getLast?_concat, ne_eq, Option.some.injEq]
        exact hc

/-- **The run is maximal**: no backslash stands before it, and it is the only run at the end of which
that can be said. -/
theorem backslashRun_eq_iff {s : List Char} {k : Nat} :
    backslashRun s = k ↔
      ∃ before, s = before ++ List.replicate k '\\' ∧ before.getLast? ≠ some '\\' := by
  constructor
  · rintro rfl
    exact exists_before_run s
  · rintro ⟨before, rfl, hlast⟩
    exact backslashRun_append_replicate hlast k

/-! ## Texts without a delimiter to be cut at -/

/-- Every `d` in the text stands behind an odd run of backslashes. -/
def AllEscaped (d : Char) (s : List Char) : Prop :=
  ∀ head tail, s = head ++ d :: tail → Odd (backslashRun head)

/-- A text that can stand before a `d` that it is to be cut at: every `d` in it is escaped, and it
does not escape what follows. -/
structure Segment (d : Char) (s : List Char) : Prop where
  escaped : AllEscaped d s
  ended : Even (backslashRun s)

/-- `AllEscaped` when the first character is escaped as told. -/
def AllEscapedFrom (d : Char) (e : Bool) (s : List Char) : Prop :=
  ∀ head tail, s = head ++ d :: tail → escapedAfter e head = true

theorem allEscapedFrom_false_iff {d : Char} {s : List Char} :
    AllEscapedFrom d false s ↔ AllEscaped d s := by
  simp only [AllEscapedFrom, AllEscaped, escapedAfter_iff]

theorem allEscapedFrom_nil (d : Char) (e : Bool) : AllEscapedFrom d e [] := by
  intro head tail h
  exact absurd h (by simp)

theorem allEscapedFrom_cons {d c : Char} {e : Bool} {s : List Char} :
    AllEscapedFrom d e (c :: s) ↔
      (c = d → e = true) ∧ AllEscapedFrom d (c = '\\' && !e) s := by
  constructor
  · intro h
    refine ⟨fun hc => h [] s (by rw [hc]; rfl), fun head tail hs => ?_⟩
    exact h (c :: head) tail (by rw [hs]; rfl)
  · rintro ⟨hc, hs⟩ head tail h
    cases head with
    | nil =>
      rw [List.nil_append, List.cons.injEq] at h
      exact hc h.1
    | cons b head =>
      rw [List.cons_append, List.cons.injEq] at h
      obtain ⟨rfl, h⟩ := h
      exact hs head tail h

theorem allEscapedFrom_append {d : Char} {e : Bool} {s t : List Char} :
    AllEscapedFrom d e (s ++ t) ↔ AllEscapedFrom d e s ∧ AllEscapedFrom d (escapedAfter e s) t := by
  induction s generalizing e with
  | nil => simp [allEscapedFrom_nil]
  | cons c s ih => rw [List.cons_append, allEscapedFrom_cons, allEscapedFrom_cons, ih, and_assoc,
      escapedAfter_cons]

theorem segment_iff {d : Char} {s : List Char} :
    Segment d s ↔ AllEscapedFrom d false s ∧ escapedAfter false s = false := by
  rw [allEscapedFrom_false_iff, escapedAfter_eq_false_iff]
  exact ⟨fun h => ⟨h.escaped, h.ended⟩, fun h => ⟨h.1, h.2⟩⟩

theorem Segment.nil (d : Char) : Segment d [] :=
  segment_iff.mpr ⟨allEscapedFrom_nil d false, rfl⟩

/-- Segments joined are a segment: each leaves the scan as it found it. -/
theorem Segment.append {d : Char} {s t : List Char} (hs : Segment d s) (ht : Segment d t) :
    Segment d (s ++ t) := by
  rw [segment_iff] at hs ht ⊢
  obtain ⟨hs, hse⟩ := hs
  obtain ⟨ht, hte⟩ := ht
  refine ⟨allEscapedFrom_append.mpr ⟨hs, ?_⟩, ?_⟩
  · rw [hse]
    exact ht
  · rw [escapedAfter_append, hse]
    exact hte

theorem Segment.of_plain {d : Char} {s : List Char} (h : ∀ c ∈ s, c ≠ '\\' ∧ c ≠ d) :
    Segment d s := by
  rw [segment_iff]
  induction s with
  | nil => exact ⟨allEscapedFrom_nil d false, rfl⟩
  | cons c s ih =>
    obtain ⟨h1, h2⟩ := h c List.mem_cons_self
    obtain ⟨hs, he⟩ := ih fun b hb => h b (List.mem_cons_of_mem c hb)
    -- What is no backslash clears the bit.
    have hbit : (decide (c = '\\') && !false) = false := by
      simp [h1]
    rw [allEscapedFrom_cons, escapedAfter_cons, hbit]
    exact ⟨⟨fun hc => absurd hc h2, hs⟩, he⟩

/-- A backslash and the character that it escapes are a segment. -/
theorem Segment.escape {d : Char} (hd : d ≠ '\\') (c : Char) : Segment d ['\\', c] := by
  rw [segment_iff, allEscapedFrom_cons, allEscapedFrom_cons]
  refine ⟨⟨fun h => absurd h.symm hd, fun _ => by simp, allEscapedFrom_nil d _⟩, by simp⟩

/-! ## The cut -/

/-- What holds no delimiter to be cut at is only passed over. -/
theorem splitFrom_append {d : Char} {e : Bool} {s t : List Char} (hs : AllEscapedFrom d e s) :
    splitFrom d e (s ++ t) =
      (splitFrom d (escapedAfter e s) t).map fun (head, tail) => (s ++ head, tail) := by
  induction s generalizing e with
  | nil => simp
  | cons c s ih =>
    obtain ⟨hc, hs⟩ := allEscapedFrom_cons.mp hs
    -- A delimiter in this text is escaped, so the scan passes it like any other character.
    have hpass : (decide (c = d) && !e) = false := by
      by_cases h : c = d
      · rw [hc h]
        simp
      · simp [h]
    rw [List.cons_append, splitFrom, hpass, if_neg Bool.false_ne_true, ih hs, Option.map_map]
    rfl

theorem splitFrom_eq_none_of_allEscaped {d : Char} {e : Bool} {s : List Char}
    (hs : AllEscapedFrom d e s) : splitFrom d e s = none := by
  have h := splitFrom_append (t := []) hs
  rwa [List.append_nil] at h

/-- Every segment is found, whatever follows the delimiter. -/
theorem splitFrom_segment {d : Char} {s : List Char} (hs : Segment d s) (t : List Char) :
    splitFrom d false (s ++ d :: t) = some (s, t) := by
  obtain ⟨hs, he⟩ := segment_iff.mp hs
  rw [splitFrom_append hs, he]
  simp [splitFrom]

/-- A text is cut after a segment, or holds no delimiter to be cut at. -/
theorem exists_cut_or_allEscaped (d : Char) (e : Bool) (s : List Char) :
    (∃ head tail, s = head ++ d :: tail ∧ AllEscapedFrom d e head ∧ escapedAfter e head = false) ∨
      AllEscapedFrom d e s := by
  induction s generalizing e with
  | nil => exact Or.inr (allEscapedFrom_nil d e)
  | cons c s ih =>
    by_cases hcut : c = d ∧ e = false
    · obtain ⟨rfl, rfl⟩ := hcut
      exact Or.inl ⟨[], s, rfl, allEscapedFrom_nil c false, rfl⟩
    · -- No cut here: the text is cut where the rest is, and the bit goes on with `c`.
      have hc : c = d → e = true := fun h => by
        rw [← Bool.not_eq_false]
        exact fun he => hcut ⟨h, he⟩
      rcases ih (c = '\\' && !e) with ⟨head, tail, rfl, hhead, hend⟩ | hs
      · exact Or.inl ⟨c :: head, tail, rfl, allEscapedFrom_cons.mpr ⟨hc, hhead⟩, hend⟩
      · exact Or.inr (allEscapedFrom_cons.mpr ⟨hc, hs⟩)

theorem exists_segment_or_allEscaped (d : Char) (s : List Char) :
    (∃ head tail, s = head ++ d :: tail ∧ Segment d head) ∨ AllEscaped d s := by
  rcases exists_cut_or_allEscaped d false s with ⟨head, tail, rfl, hhead, hend⟩ | hs
  · exact Or.inl ⟨head, tail, rfl, segment_iff.mpr ⟨hhead, hend⟩⟩
  · exact Or.inr (allEscapedFrom_false_iff.mp hs)

theorem splitFrom_eq_none_iff {d : Char} {s : List Char} :
    splitFrom d false s = none ↔ AllEscaped d s := by
  constructor
  · intro h
    rcases exists_segment_or_allEscaped d s with ⟨head, tail, rfl, hhead⟩ | hs
    · rw [splitFrom_segment hhead] at h
      exact absurd h (by simp)
    · exact hs
  · intro h
    exact splitFrom_eq_none_of_allEscaped (allEscapedFrom_false_iff.mpr h)

/-- **The cut is at the first delimiter that is not escaped**, and there is only one such place. -/
theorem splitFrom_eq_some_iff {d : Char} {s head tail : List Char} :
    splitFrom d false s = some (head, tail) ↔ s = head ++ d :: tail ∧ Segment d head := by
  constructor
  · intro h
    rcases exists_segment_or_allEscaped d s with ⟨head', tail', rfl, hhead⟩ | hs
    · rw [splitFrom_segment hhead, Option.some.injEq, Prod.mk.injEq] at h
      obtain ⟨rfl, rfl⟩ := h
      exact ⟨rfl, hhead⟩
    · rw [splitFrom_eq_none_iff.mpr hs] at h
      exact absurd h (by simp)
  · rintro ⟨rfl, hhead⟩
    exact splitFrom_segment hhead tail

/-! ## Cuts as they are asked for -/

theorem Segment.unique {d : Char} {head tail head' tail' : List Char} (h : Segment d head)
    (h' : Segment d head') (he : head ++ d :: tail = head' ++ d :: tail') :
    head = head' ∧ tail = tail' := by
  have hcut : splitFrom d false (head ++ d :: tail) = some (head', tail') :=
    splitFrom_eq_some_iff.mpr ⟨he, h'⟩
  rw [splitFrom_segment h, Option.some.injEq, Prod.mk.injEq] at hcut
  exact hcut

theorem existsUnique_cut {d : Char} {s : List Char} (h : ¬ AllEscaped d s) :
    ∃! cut : List Char × List Char, s = cut.1 ++ d :: cut.2 ∧ Segment d cut.1 := by
  obtain ⟨head, tail, rfl, hhead⟩ := (exists_segment_or_allEscaped d s).resolve_right h
  refine ⟨(head, tail), ⟨rfl, hhead⟩, ?_⟩
  rintro ⟨head', tail'⟩ ⟨he, hhead'⟩
  obtain ⟨rfl, rfl⟩ := hhead.unique hhead' he
  rfl

/-- **Cutting by any one character**, the backslash included. The text is cut into what is before and
what is after the first delimiter that no odd run of backslashes stands before, and both parts are
as they stand in the text. It is not cut exactly when every delimiter stands behind an odd run, and
otherwise there is one place to cut it at. -/
theorem split?_first_unescaped (d : Char) (s : List Char) :
    (∀ t k, backslashRun t = k ↔
      ∃ before, t = before ++ List.replicate k '\\' ∧ before.getLast? ≠ some '\\') ∧
    (∀ head tail, split? [d] s = some (head, tail) ↔
      s = head ++ d :: tail ∧ Even (backslashRun head) ∧
        ∀ before after, head = before ++ d :: after → Odd (backslashRun before)) ∧
    (split? [d] s = none ↔
      ∀ before after, s = before ++ d :: after → Odd (backslashRun before)) ∧
    (split? [d] s = none ∨
      ∃! cut : List Char × List Char, s = cut.1 ++ d :: cut.2 ∧ Segment d cut.1) := by
  refine ⟨fun t k => backslashRun_eq_iff, fun head tail => ?some, splitFrom_eq_none_iff, ?unique⟩
  case some =>
    rw [split?, splitFrom_eq_some_iff]
    constructor
    · rintro ⟨hs, hhead⟩
      exact ⟨hs, hhead.ended, hhead.escaped⟩
    · rintro ⟨hs, hended, hescaped⟩
      exact ⟨hs, hescaped, hended⟩
  case unique =>
    by_cases h : AllEscaped d s
    · exact Or.inl (splitFrom_eq_none_iff.mpr h)
    · exact Or.inr (existsUnique_cut h)

/-- The first backslash is not escaped, so a text is cut there when the backslash is the delimiter. -/
example : split? ['\\'] ['a', '\\', '\\', 'b'] = some (['a'], ['\\', 'b']) := rfl

end SubstBot.Rule
