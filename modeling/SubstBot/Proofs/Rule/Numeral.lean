import SubstBot.Proofs.Rule.Grammar
import SubstBot.Proofs.Template.Marks

/-!
# `SubstBot/Proofs/Rule/Numeral.lean` — numbers that are too long

A rule can be unreadable in one way that is no fault of it: a reference in its template has more
digits than are read. `OverlongNumeral` says of a text, by the grammar of rules, that it holds such
a rule, and `exists_numeral_iff` that these are the only texts that reading ends so for.
-/

set_option autoImplicit false

namespace SubstBot.Rule

open Template (Mark marks ofMarks)

/-- The text holds a rule whose flags and query can be read, and in its template a reference with
more digits than are read. -/
inductive OverlongNumeral (E : Regex.Engine) : List Char → Prop where
  | intro {w tail query replacement flags digits : List Char} {f : Flags}
      {pattern : E.Pattern} (hw : ¬ marker <:+: w)
      (hp : Parts tail query replacement flags) (hf : Flags.parse flags = .ok f)
      (hq : f.compile E query = .ok pattern) (hd : Mark.group digits ∈ marks replacement)
      (hlong : numeralLimit < digits.length) :
      OverlongNumeral E (w ++ marker ++ tail)

theorem ofMarks_eq_error_iff {ms : List Mark} :
    (∃ e, ofMarks ms = .error e) ↔ ∃ ds, Mark.group ds ∈ ms ∧ numeralLimit < ds.length := by
  induction ms with
  | nil => simp [ofMarks]
  | cons m ms ih =>
    cases m with
    | char c =>
      -- A character in front of other marks has no digits to count.
      have hmap : (∃ e, ofMarks (.char c :: ms) = .error e) ↔ ∃ e, ofMarks ms = .error e := by
        rw [ofMarks]
        cases ofMarks ms <;> simp [Except.map]
      rw [hmap, ih]
      simp
    | group ds =>
      rw [ofMarks]
      by_cases hlong : numeralLimit < ds.length
      · rw [if_pos hlong]
        exact ⟨fun _ => ⟨ds, List.mem_cons_self, hlong⟩, fun _ => ⟨_, rfl⟩⟩
      · rw [if_neg hlong]
        have hmap : (∃ e, (ofMarks ms).map (.index (Text.readDigits 0 ds) :: ·) = .error e) ↔
            ∃ e, ofMarks ms = .error e := by
          cases ofMarks ms <;> simp [Except.map]
        rw [hmap, ih]
        constructor
        · rintro ⟨ds', hmem, h⟩
          exact ⟨ds', List.mem_cons_of_mem _ hmem, h⟩
        · rintro ⟨ds', hmem, h⟩
          rcases List.mem_cons.mp hmem with he | hmem
          · rw [Mark.group.injEq] at he
            rw [he] at h
            exact absurd h hlong
          · exact ⟨ds', hmem, h⟩

theorem exists_numeral_iff {E : Regex.Engine} {text : List Char} :
    (∃ e, parse? E text = .error (.numeral e)) ↔ OverlongNumeral E text := by
  constructor
  · rintro ⟨e, h⟩
    by_cases hm : marker <:+: text
    · obtain ⟨w, t, rfl, hw⟩ := exists_first_marker hm
      by_cases ht : AllEscaped '/' t
      · rw [parse?_missingQuery hw ht] at h
        exact absurd h (by simp)
      · obtain ⟨query, replacement, flags, hp⟩ := exists_parts ht
        have hv := verdict_parts (E := E) hw hp
        rw [h] at hv
        -- Of the four verdicts, one is about a number.
        cases hv with
        | badReplacement hf hq hr =>
          obtain ⟨ds, hd, hlong⟩ := ofMarks_eq_error_iff.mp ⟨e, hr⟩
          exact .intro hw hp hf hq hd hlong
    · rw [parse?_none hm] at h
      exact absurd h (by simp)
  · rintro ⟨hw, hp, hf, hq, hd, hlong⟩
    obtain ⟨e, he⟩ := ofMarks_eq_error_iff.mpr ⟨_, hd, hlong⟩
    refine ⟨e, ?_⟩
    rw [parse?_parts hw hp, ofSegments, hf]
    simp only [hq, Template.parse, he]
    rfl

/-! ## The shortest such rules -/

/-- The query `a` and for a template the reference to the group `1…1`, of `n` digits. -/
def onesTail (n : Nat) : List Char :=
  ['a'] ++ '/' :: (('$' :: List.replicate n '1') ++ '/' :: [])

/-- The rule `s/a/$1…1/`. -/
def onesRule (n : Nat) : List Char :=
  marker ++ onesTail n

theorem onesTail_parts (n : Nat) : Parts (onesTail n) ['a'] ('$' :: List.replicate n '1') [] := by
  refine .closed (.of_plain (by simp)) (.of_plain ?_)
  intro c hc
  rcases List.mem_cons.mp hc with rfl | hc
  · simp
  · rw [List.eq_of_mem_replicate hc]
    simp

theorem parse_ones {n : Nat} (h : numeralLimit < n) :
    Template.parse ('$' :: List.replicate n '1') = .error ⟨n⟩ := by
  have hne : List.replicate n '1' ≠ [] := by
    intro hnil
    rw [List.replicate_eq_nil_iff] at hnil
    omega
  have hdigits : ∀ c ∈ List.replicate n '1', Text.isDecimalDigit c = true := by
    intro c hc
    rw [List.eq_of_mem_replicate hc]
    rfl
  have hmarks := Template.marks_digits hne hdigits .nil
  rw [List.append_nil] at hmarks
  rw [Template.parse, hmarks, ofMarks, List.length_replicate, if_pos h]

/-- If `a` is a pattern, the number is what is wrong with such a rule. -/
theorem parse?_onesRule {E : Regex.Engine} {pattern : E.Pattern}
    (hpattern : Flags.compile E {} ['a'] = .ok pattern) {n : Nat} (h : numeralLimit < n) :
    parse? E (onesRule n) = .error (.numeral ⟨n⟩) := by
  have hw : ¬ marker <:+: [] := by simp [marker]
  have hparts := parse?_parts (E := E) hw (onesTail_parts n)
  rw [List.nil_append] at hparts
  have hflags : Flags.parse [] = .ok {} := rfl
  rw [onesRule, hparts, ofSegments, hflags]
  simp only [hpattern, parse_ones h]
  rfl

end SubstBot.Rule
