import SubstBot.Backtracking.Engine
import SubstBot.Proofs.Rule.Flags
import SubstBot.Proofs.Rule.Segment
import SubstBot.Rule.Basic

/-!
# `SubstBot/Proofs/Rule/Grammar.lean` — the grammar of rules

Which rule a text holds, said without the scans that find it. Three things are said apart:

- where the rule begins: behind the first `marker`, and nothing before it counts;
- how the rest falls into segments: `Parts`, by escapes alone;
- what three segments come to: `Verdict`, which fixes the order of the errors. Whether a query is a
  pattern is for an engine to say.

`parse?_grammar` puts them together, and in both directions: every text is read by some parts, and
every way to write down parts is read as just those.
-/

set_option autoImplicit false

namespace SubstBot.Rule

/-! ## The marker -/

/-- What a rule begins with. -/
def marker : List Char := ['s', '/']

theorem afterMarker?_marker (t : List Char) : afterMarker? (marker ++ t) = some t := rfl

/-- A character that does not begin a marker is passed over. -/
theorem afterMarker?_cons {c : Char} {r : List Char} (h : ¬ marker <+: c :: r) :
    afterMarker? (c :: r) = afterMarker? r := by
  rw [afterMarker?]
  rintro r' rfl rfl
  exact h (List.prefix_append marker r')

theorem afterMarker?_eq_none_iff {s : List Char} : afterMarker? s = none ↔ ¬ marker <:+: s := by
  induction s with
  | nil => simp [afterMarker?, marker]
  | cons c r ih =>
    rw [List.infix_cons_iff, not_or]
    by_cases h : marker <+: c :: r
    · obtain ⟨t, ht⟩ := h
      rw [← ht, afterMarker?_marker]
      simp
    · rw [afterMarker?_cons h, ih]
      exact ⟨fun hr => ⟨h, hr⟩, fun hr => hr.2⟩

/-- **The first marker is the one behind a text without any.** The two characters of a marker
differ, so none begins in the text before it and ends in it. -/
theorem afterMarker?_append {w : List Char} (hw : ¬ marker <:+: w) (t : List Char) :
    afterMarker? (w ++ marker ++ t) = some t := by
  induction w with
  | nil => exact afterMarker?_marker t
  | cons c w ih =>
    rw [List.infix_cons_iff, not_or] at hw
    have hc : ¬ marker <+: c :: (w ++ marker ++ t) := by
      intro h
      apply hw.1
      cases w with
      -- Behind a single character stands the `s` of the marker, and no marker goes on with it.
      | nil =>
        rw [marker, List.cons_prefix_cons] at h
        exact absurd h.2 (by simp)
      | cons b w =>
        rw [marker, List.cons_append, List.cons_append, List.cons_prefix_cons,
          List.cons_prefix_cons] at h
        rw [marker, List.cons_prefix_cons, List.cons_prefix_cons]
        exact ⟨h.1, h.2.1, List.nil_prefix⟩
    rw [List.cons_append, List.cons_append, afterMarker?_cons hc]
    exact ih hw.2

/-- A text with a marker in it has a first one. -/
theorem exists_first_marker {s : List Char} (h : marker <:+: s) :
    ∃ w t, s = w ++ marker ++ t ∧ ¬ marker <:+: w := by
  induction s with
  | nil => exact absurd h (by simp [marker])
  | cons c r ih =>
    by_cases hc : marker <+: c :: r
    · obtain ⟨t, ht⟩ := hc
      exact ⟨[], t, ht.symm, by simp [marker]⟩
    · rw [List.infix_cons_iff] at h
      obtain ⟨w, t, rfl, hw⟩ := ih (h.resolve_left hc)
      refine ⟨c :: w, t, rfl, fun hcw => ?_⟩
      rcases List.infix_cons_iff.mp hcw with hp | hi
      · refine hc (hp.trans ?_)
        rw [List.append_assoc, ← List.cons_append]
        exact List.prefix_append _ _
      · exact hw hi

/-! ## The segments -/

/-- How what stands behind the marker falls into query, replacement and flags: at two slashes, or at
one if none that is not escaped follows. -/
inductive Parts : (tail query replacement flags : List Char) → Prop where
  | closed {query replacement flags : List Char} (hq : Segment '/' query)
      (hr : Segment '/' replacement) :
      Parts (query ++ '/' :: (replacement ++ '/' :: flags)) query replacement flags
  | open {query replacement : List Char} (hq : Segment '/' query)
      (hr : AllEscaped '/' replacement) :
      Parts (query ++ '/' :: replacement) query replacement []

theorem segments?_eq_none_iff {t : List Char} : segments? t = none ↔ AllEscaped '/' t := by
  rw [segments?, Option.map_eq_none_iff, splitFrom_eq_none_iff]

theorem segments?_of_parts {t query replacement flags : List Char}
    (h : Parts t query replacement flags) : segments? t = some (query, replacement, flags) := by
  cases h with
  | closed hq hr => simp only [segments?, splitFrom_segment hq, splitFrom_segment hr,
      Option.map_some]
  | «open» hq hr => simp only [segments?, splitFrom_segment hq, splitFrom_eq_none_iff.mpr hr,
      Option.map_some]

theorem exists_parts {t : List Char} (h : ¬ AllEscaped '/' t) :
    ∃ query replacement flags, Parts t query replacement flags := by
  obtain ⟨query, u, rfl, hq⟩ := (exists_segment_or_allEscaped '/' t).resolve_right h
  rcases exists_segment_or_allEscaped '/' u with ⟨replacement, flags, rfl, hr⟩ | hr
  · exact ⟨query, replacement, flags, .closed hq hr⟩
  · exact ⟨query, u, [], .open hq hr⟩

/-- **A text falls into parts in one way at most**, the way in which the scans cut it. -/
theorem segments?_eq_some_iff {t query replacement flags : List Char} :
    segments? t = some (query, replacement, flags) ↔ Parts t query replacement flags := by
  refine ⟨fun h => ?_, segments?_of_parts⟩
  by_cases ht : AllEscaped '/' t
  · rw [segments?_eq_none_iff.mpr ht] at h
    exact absurd h (by simp)
  · obtain ⟨query', replacement', flags', hp⟩ := exists_parts ht
    rw [segments?_of_parts hp, Option.some.injEq, Prod.mk.injEq, Prod.mk.injEq] at h
    obtain ⟨rfl, rfl, rfl⟩ := h
    exact hp

/-! ## The verdict -/

/-- What query, replacement and flags come to. The flags are read first, then the query under them,
then the replacement, and the first that cannot be read decides. -/
inductive Verdict (E : Regex.Engine) (query replacement flags : List Char) :
    Except ParseError (Option (Rule E)) → Prop where
  | badFlag {e : FlagError} (hf : Flags.parse flags = .error e) :
      Verdict E query replacement flags (.error (.fault (.ofFlagError e)))
  /-- The query is no pattern, for a reason that the engine gives. -/
  | badQuery {f : Flags} {d : String} (hf : Flags.parse flags = .ok f)
      (hq : f.compile E query = .error d) :
      Verdict E query replacement flags (.error (.fault (.invalidRegex d)))
  | badReplacement {f : Flags} {pattern : E.Pattern} {e : NumeralTooLong}
      (hf : Flags.parse flags = .ok f) (hq : f.compile E query = .ok pattern)
      (hr : Template.parse replacement = .error e) :
      Verdict E query replacement flags (.error (.numeral e))
  | rule {f : Flags} {pattern : E.Pattern} {template : Template} {global : Bool}
      (hf : Flags.parse flags = .ok f) (hq : f.compile E query = .ok pattern)
      (hr : Template.parse replacement = .ok template) (hg : global = true ↔ 'g' ∈ flags) :
      Verdict E query replacement flags (.ok (some { pattern, template, global }))

variable {E : Regex.Engine}

theorem verdict_ofSegments (E : Regex.Engine) (query replacement flags : List Char) :
    Verdict E query replacement flags ((ofSegments E query replacement flags).map some) := by
  unfold ofSegments
  cases hf : Flags.parse flags with
  | error e => exact .badFlag hf
  | ok f =>
    cases hq : f.compile E query with
    | error d => simp only [hq]; exact .badQuery hf hq
    | ok pattern =>
      cases hr : Template.parse replacement with
      | error e => simp only [hq]; exact .badReplacement hf hq hr
      | ok template => simp only [hq]; exact .rule hf hq hr (Flags.global_of_parse hf)

theorem Verdict.ne_missingQuery {query replacement flags : List Char}
    {result : Except ParseError (Option (Rule E))} (h : Verdict E query replacement flags result) :
    result ≠ .error (.fault .missingQuery) := by
  cases h with
  | badFlag hf => rename_i e; cases e <;> simp [Fault.ofFlagError]
  | badQuery hf hq => simp
  | badReplacement hf hq hr => simp
  | rule hf hq hr hg => simp

theorem Verdict.ne_none {query replacement flags : List Char}
    {result : Except ParseError (Option (Rule E))} (h : Verdict E query replacement flags result) :
    result ≠ .ok none := by
  cases h <;> simp

/-! ## Whole texts -/

theorem parse?_none {text : List Char} (h : ¬ marker <:+: text) : parse? E text = .ok none := by
  rw [parse?, afterMarker?_eq_none_iff.mpr h]

theorem parse?_missingQuery {w t : List Char} (hw : ¬ marker <:+: w) (ht : AllEscaped '/' t) :
    parse? E (w ++ marker ++ t) = .error (.fault .missingQuery) := by
  rw [parse?, afterMarker?_append hw]
  simp only [segments?_eq_none_iff.mpr ht]

theorem parse?_parts {w t query replacement flags : List Char} (hw : ¬ marker <:+: w)
    (h : Parts t query replacement flags) :
    parse? E (w ++ marker ++ t) = (ofSegments E query replacement flags).map some := by
  rw [parse?, afterMarker?_append hw]
  simp only [segments?_of_parts h]

theorem verdict_parts {w t query replacement flags : List Char} (hw : ¬ marker <:+: w)
    (h : Parts t query replacement flags) :
    Verdict E query replacement flags (parse? E (w ++ marker ++ t)) := by
  rw [parse?_parts hw h]
  exact verdict_ofSegments E query replacement flags

theorem parse?_eq_none_iff {text : List Char} :
    parse? E text = .ok none ↔ ¬ marker <:+: text := by
  refine ⟨fun h hm => ?_, parse?_none⟩
  obtain ⟨w, t, rfl, hw⟩ := exists_first_marker hm
  -- Behind a marker there is always a verdict, if only that the query is missing.
  by_cases ht : AllEscaped '/' t
  · rw [parse?_missingQuery hw ht] at h
    exact absurd h (by simp)
  · obtain ⟨query, replacement, flags, hp⟩ := exists_parts ht
    exact (verdict_parts hw hp).ne_none h

theorem parse?_eq_missingQuery_iff {w t : List Char} (hw : ¬ marker <:+: w) :
    parse? E (w ++ marker ++ t) = .error (.fault .missingQuery) ↔ AllEscaped '/' t := by
  refine ⟨fun h => ?_, parse?_missingQuery hw⟩
  by_contra ht
  obtain ⟨query, replacement, flags, hp⟩ := exists_parts ht
  exact (verdict_parts hw hp).ne_missingQuery h

/-- What stands before the first marker does not count. -/
theorem parse?_eq_parse?_marker {w : List Char} (hw : ¬ marker <:+: w) (t : List Char) :
    parse? E (w ++ marker ++ t) = parse? E (marker ++ t) := by
  rw [parse?, afterMarker?_append hw, parse?, afterMarker?_marker]

/-- **The grammar of rules.** A text without a marker holds no rule, and no error. Behind the first
marker, the lack of a query is that of a slash to end it; otherwise there are parts, and they come
to a verdict. The other way round, whatever is written as parts is read as those parts, with or
without the slash that ends the replacement. -/
theorem parse?_grammar (E : Regex.Engine) :
    (∀ text, parse? E text = .ok none ↔ ¬ marker <:+: text) ∧
    (∀ text, marker <:+: text → ∃ w t, text = w ++ marker ++ t ∧ ¬ marker <:+: w) ∧
    (∀ w t, ¬ marker <:+: w →
      parse? E (w ++ marker ++ t) = parse? E (marker ++ t) ∧
      (parse? E (w ++ marker ++ t) = .error (.fault .missingQuery) ↔ AllEscaped '/' t) ∧
      (¬ AllEscaped '/' t → ∃ query replacement flags, Parts t query replacement flags) ∧
      ∀ query replacement flags,
        (segments? t = some (query, replacement, flags) ↔ Parts t query replacement flags) ∧
        (Parts t query replacement flags →
          Verdict E query replacement flags (parse? E (w ++ marker ++ t)))) ∧
    (∀ w query replacement, ¬ marker <:+: w → Segment '/' query → Segment '/' replacement →
      (∀ flags,
        segments? (query ++ '/' :: (replacement ++ '/' :: flags)) =
            some (query, replacement, flags) ∧
          parse? E (w ++ marker ++ (query ++ '/' :: (replacement ++ '/' :: flags))) =
            (ofSegments E query replacement flags).map some ∧
          Verdict E query replacement flags
            (parse? E (w ++ marker ++ (query ++ '/' :: (replacement ++ '/' :: flags))))) ∧
      parse? E (w ++ marker ++ (query ++ '/' :: replacement)) =
        parse? E (w ++ marker ++ (query ++ '/' :: (replacement ++ '/' :: [])))) := by
  refine ⟨fun _ => parse?_eq_none_iff, fun _ => exists_first_marker, fun w t hw => ?_,
    fun w query replacement hw hq hr => ?_⟩
  · exact ⟨parse?_eq_parse?_marker hw t, parse?_eq_missingQuery_iff hw, exists_parts,
      fun query replacement flags => ⟨segments?_eq_some_iff, verdict_parts hw⟩⟩
  · refine ⟨fun flags => ?_, ?_⟩
    · have hp : Parts _ query replacement flags := .closed hq hr
      exact ⟨segments?_of_parts hp, parse?_parts hw hp, verdict_parts hw hp⟩
    · rw [parse?_parts hw (.open hq hr.escaped), parse?_parts hw (.closed hq hr)]

/-- An escaped slash does not end the query, and a slash behind the replacement is a flag. -/
theorem parse?_grammar_slashes :
    parse? Backtracking.engine
        (['x'] ++ marker ++ (['a', '\\', '/'] ++ '/' :: (['b'] ++ '/' :: ['g', '/']))) =
      .error (.fault (.unrecognizedFlag '/')) := by
  have hw : ¬ marker <:+: ['x'] := by simp [marker, List.infix_cons_iff]
  have ha : Segment '/' ['a'] := .of_plain (by simp)
  have hq : Segment '/' ['a', '\\', '/'] := ha.append (.escape (by simp) '/')
  have hr : Segment '/' ['b'] := .of_plain (by simp)
  obtain ⟨-, -, -, h⟩ := parse?_grammar Backtracking.engine
  obtain ⟨hflags, -⟩ := h ['x'] ['a', '\\', '/'] ['b'] hw hq hr
  rw [(hflags ['g', '/']).2.1]
  rfl

end SubstBot.Rule
