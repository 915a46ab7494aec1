import Mathlib.Data.String.Basic
import SubstBot.Settings

/-!
# `SubstBot/Proofs/Settings/Report.lean` — everything that is wrong, in one line

Every setting is checked on its own (`reason?`), and a report is made of what the checks come to, in
the fixed order of the names (`problems`). How a value is checked is the validator's, and nothing here
depends on it. So reading settings ends in one of two ways (`Checked`):
each check has passed, and the settings are what the checks gave; or some have not, and those are
reported and no others. The second holds also when more than one is wrong, which is why the checks
are taken apart here and not in the order in which they are made.

The report is shown as one line, and **the line tells which variables are reported**: the name of a
variable stands in it if and only if it is one of them (`variableName_infix_iff`). A name is one
word. No name is a part of another, and no other word of the line has an underscore in it.
-/

set_option autoImplicit false

namespace SubstBot.Settings

/-! ## One setting at a time -/

/-- What a check refuses a value for. -/
def failure? {α : Type} : Except Problem α → Option Problem
  | .ok _ => none
  | .error p => some p

/-- What is wrong with one of the settings, whatever may be wrong with the others. -/
def reason? (V : Validator) (value : Name → Option Value) : Name → Option Problem
  | .token => failure? (requiredText V (value .token))
  | .handle => failure? (optionalText V (value .handle))
  | .pollTimeout => failure? (orDefault 30 (V.integer (.atLeast 0)) (value .pollTimeout))
  | .matchTimeout =>
    failure? (orDefault (.ofDecimal false 5 (-1)) (V.number (.above 0)) (value .matchTimeout))
  | .maxFailuresPerMinute =>
    failure? (orDefault 30 (V.integer (.atLeast 0)) (value .maxFailuresPerMinute))
  | .restartDelay => failure? (orDefault (.ofInt 1) (V.number (.atLeast 0)) (value .restartDelay))

/-- What is wrong with each of the settings, in the order of their names. -/
def problems (V : Validator) (value : Name → Option Value) : Problems :=
  Name.all.flatMap fun n => (reason? V value n).toList.map (n, ·)

section

variable {α : Type} {e : Except Problem α}

theorem failure?_eq_none_iff : failure? e = none ↔ ∃ x, e = .ok x := by
  cases e <;> simp [failure?]

theorem problem?_eq (n : Name) : problem? n e = (failure? e).toList.map (n, ·) := by
  cases e <;> rfl

end

variable {V : Validator} {value : Name → Option Value}

theorem problems_eq (V : Validator) (value : Name → Option Value) :
    problems V value =
      problem? .token (requiredText V (value .token)) ++
      problem? .handle (optionalText V (value .handle)) ++
      problem? .pollTimeout (orDefault 30 (V.integer (.atLeast 0)) (value .pollTimeout)) ++
      problem? .matchTimeout
        (orDefault (.ofDecimal false 5 (-1)) (V.number (.above 0)) (value .matchTimeout)) ++
      problem? .maxFailuresPerMinute
        (orDefault 30 (V.integer (.atLeast 0)) (value .maxFailuresPerMinute)) ++
      problem? .restartDelay
        (orDefault (.ofInt 1) (V.number (.atLeast 0)) (value .restartDelay)) := by
  simp [problems, Name.all, reason?, problem?_eq]

/-- The two ends of reading settings. -/
inductive Checked (V : Validator) (value : Name → Option Value) :
    Except Problems Settings → Prop where
  | passed {s : Settings} (token : requiredText V (value .token) = .ok s.token)
      (handle : optionalText V (value .handle) = .ok s.handle)
      (pollTimeout : orDefault 30 (V.integer (.atLeast 0)) (value .pollTimeout) =
        .ok s.pollTimeout)
      (matchTimeout :
        orDefault (.ofDecimal false 5 (-1)) (V.number (.above 0)) (value .matchTimeout) =
          .ok s.matchTimeout)
      (maxFailures : orDefault 30 (V.integer (.atLeast 0)) (value .maxFailuresPerMinute) =
        .ok s.maxFailuresPerMinute)
      (restartDelay : orDefault (.ofInt 1) (V.number (.atLeast 0)) (value .restartDelay) =
        .ok s.restartDelay) :
      Checked V value (.ok s)
  | refused {n : Name} {p : Problem} (h : reason? V value n = some p) :
      Checked V value (.error (problems V value))

theorem exists_passed (h : ∀ n, reason? V value n = none) :
    ∃ s : Settings, Checked V value (.ok s) := by
  obtain ⟨token, htoken⟩ := failure?_eq_none_iff.mp (h .token)
  obtain ⟨handle, hhandle⟩ := failure?_eq_none_iff.mp (h .handle)
  obtain ⟨poll, hpoll⟩ := failure?_eq_none_iff.mp (h .pollTimeout)
  obtain ⟨limit, hmatch⟩ := failure?_eq_none_iff.mp (h .matchTimeout)
  obtain ⟨failures, hfailures⟩ := failure?_eq_none_iff.mp (h .maxFailuresPerMinute)
  obtain ⟨delay, hdelay⟩ := failure?_eq_none_iff.mp (h .restartDelay)
  exact ⟨⟨token, handle, poll, limit, failures, delay⟩,
    .passed htoken hhandle hpoll hmatch hfailures hdelay⟩

theorem checked_ofValues (V : Validator) (value : Name → Option Value) :
    Checked V value (ofValues V value) := by
  unfold ofValues
  dsimp only
  split
  case h_1 htoken hhandle hpoll hmatch hfailures hdelay =>
    exact .passed htoken hhandle hpoll hmatch hfailures hdelay
  case h_2 hnot =>
    rw [← problems_eq]
    by_cases h : ∀ n, reason? V value n = none
    · -- with every check passed, this would have been the first case
      obtain ⟨s, hs⟩ := exists_passed h
      cases hs with
      | passed htoken hhandle hpoll hmatch hfailures hdelay =>
        exact absurd hdelay (hnot _ _ _ _ _ _ htoken hhandle hpoll hmatch hfailures)
    · obtain ⟨n, hn⟩ := not_forall.mp h
      obtain ⟨p, hp⟩ := Option.ne_none_iff_exists'.mp hn
      exact .refused hp

theorem Checked.reason?_eq_none {s : Settings} (h : Checked V value (.ok s)) (n : Name) :
    reason? V value n = none := by
  cases h with
  | passed htoken hhandle hpoll hmatch hfailures hdelay =>
    cases n <;> simp [reason?, failure?_eq_none_iff, *]

/-! ## What is reported -/

theorem Name.mem_all (n : Name) : n ∈ Name.all := by
  cases n <;> decide

theorem map_fst_problems (V : Validator) (value : Name → Option Value) :
    (problems V value).map Prod.fst = Name.all.filter fun n => (reason? V value n).isSome := by
  unfold problems
  induction Name.all with
  | nil => rfl
  | cons n ns ih =>
    rw [List.flatMap_cons, List.map_append, ih]
    cases hn : reason? V value n <;> simp [hn]

/-- **Exactly the settings that are refused are reported.** -/
theorem mem_problems_iff {n : Name} :
    n ∈ (problems V value).map Prod.fst ↔ reason? V value n ≠ none := by
  rw [map_fst_problems, List.mem_filter, Option.isSome_iff_ne_none]
  exact and_iff_right n.mem_all

/-- They are reported in the order of the names, so none of them twice. -/
theorem problems_sublist (V : Validator) (value : Name → Option Value) :
    ((problems V value).map Prod.fst).Sublist Name.all := by
  rw [map_fst_problems]
  exact List.filter_sublist

/-! ## The line -/

/- A literal is rewritten to its letters by `String.toList_ofList` before anything is decided about it:
to compute the letters from the bytes of the literal takes far longer. -/

theorem toList_variableName (n : Name) :
    n.variableName.toList = "TELEGRAM_BOT_".toList ++ n.text.toList.map Char.toUpper := by
  simp [Name.variableName, String.toUpper]

theorem blank_not_mem_variableName (n : Name) : ' ' ∉ n.variableName.toList := by
  rw [toList_variableName, String.toList_ofList]
  cases n <;> (rw [Name.text, String.toList_ofList]; decide)

theorem underscore_mem_variableName (n : Name) : '_' ∈ n.variableName.toList := by
  rw [toList_variableName, String.toList_ofList]
  exact List.mem_append_left _ (by decide)

theorem underscore_not_mem_toDigits (n : Nat) : '_' ∉ Nat.toDigits 10 n := by
  intro h
  exact absurd (Nat.isDigit_of_mem_toDigits (by decide) (by decide) h) (by decide)

theorem underscore_not_mem_toString (n : Int) : '_' ∉ (toString n).toList := by
  rw [Int.toString_eq_repr]
  cases n with
  | ofNat m =>
    rw [Int.repr, Nat.toList_repr]
    exact underscore_not_mem_toDigits m
  | negSucc m =>
    rw [Int.repr, String.toList_append, Nat.toList_repr, List.mem_append, not_or]
    exact ⟨by simp, underscore_not_mem_toDigits _⟩

theorem underscore_not_mem_bound (b : Bound) : '_' ∉ b.text.toList := by
  cases b with
  | atLeast n | above n =>
    unfold Bound.text
    rw [String.toList_append, List.mem_append, not_or]
    exact ⟨by simp, underscore_not_mem_toString n⟩

theorem underscore_not_mem_text (p : Problem) : '_' ∉ p.text.toList := by
  cases p with
  | outside b =>
    unfold Problem.text
    rw [String.toList_append, List.mem_append, not_or]
    exact ⟨by simp, underscore_not_mem_bound b⟩
  | _ => rw [Problem.text, String.toList_ofList]; decide

theorem variableName_infix_colon_iff {n m : Name} :
    n.variableName.toList <:+: m.variableName.toList ++ [':'] ↔ n = m := by
  constructor
  · rw [toList_variableName, toList_variableName, String.toList_ofList]
    cases n <;> rw [Name.text, String.toList_ofList] <;>
      cases m <;> (rw [Name.text, String.toList_ofList]; decide)
  · intro h
    rw [h]
    exact (List.prefix_append _ _).isInfix

/-- What has no blank in it stands on one side of a blank. -/
theorem infix_blank_iff {w x y : List Char} (hw : ' ' ∉ w) :
    w <:+: x ++ ' ' :: y ↔ w <:+: x ∨ w <:+: y := by
  have hfront : ∀ {l}, l ⊆ w → l <+: ' ' :: y → l = [] := by
    intro l hl h
    cases l with
    | nil => rfl
    | cons c l =>
      obtain ⟨rfl, -⟩ := List.cons_prefix_cons.mp h
      exact absurd (hl List.mem_cons_self) hw
  constructor
  · intro h
    rcases List.infix_append_iff_ne_nil.mp h with hx | hy | ⟨l, l', -, hne, rfl, -, hl'⟩
    · exact Or.inl hx
    · rcases List.infix_cons_iff.mp hy with hy | hy
      · rw [hfront (List.Subset.refl w) hy]
        exact Or.inl List.nil_infix
      · exact Or.inr hy
    · exact absurd (hfront (List.subset_append_right l l') hl') hne
  · rintro (h | h)
    · exact h.trans (List.prefix_append _ _).isInfix
    · exact (List.infix_cons h).trans (List.suffix_append _ _).isInfix

theorem not_variableName_infix {n : Name} {w : List Char} (hw : '_' ∉ w) :
    ¬ n.variableName.toList <:+: w := by
  intro h
  exact hw (h.subset (underscore_mem_variableName n))

/-- A problem as it stands in the line. -/
def entry (e : Name × Problem) : List Char :=
  e.1.variableName.toList ++ ':' :: ' ' :: e.2.text.toList

theorem toList_problemsText (ps : Problems) :
    (problemsText ps).toList =
      "invalid configuration:".toList ++ ' ' :: [';', ' '].intercalate (ps.map entry) := by
  have hopening : "invalid configuration: ".toList = "invalid configuration:".toList ++ [' '] := by
    simp
  have hbetween : "; ".toList = [';', ' '] := by simp
  unfold problemsText
  rw [String.toList_append, String.toList_intercalate, List.map_map, hopening, hbetween,
    List.append_assoc, List.singleton_append]
  congr 3
  refine List.map_congr_left ?_
  rintro ⟨n, p⟩ -
  simp [entry]

theorem variableName_infix_entry_iff {n : Name} {e : Name × Problem} (tail : List Char) :
    n.variableName.toList <:+: entry e ++ tail ↔
      n = e.1 ∨ n.variableName.toList <:+: e.2.text.toList ++ tail := by
  have hentry : entry e ++ tail =
      (e.1.variableName.toList ++ [':']) ++ ' ' :: (e.2.text.toList ++ tail) := by
    simp [entry]
  rw [hentry, infix_blank_iff (blank_not_mem_variableName n), variableName_infix_colon_iff]

theorem variableName_infix_entries_iff {n : Name} {ps : Problems} :
    n.variableName.toList <:+: [';', ' '].intercalate (ps.map entry) ↔ n ∈ ps.map Prod.fst := by
  induction ps with
  | nil => simpa using not_variableName_infix List.not_mem_nil
  | cons e ps ih =>
    rw [List.map_cons, List.map_cons, List.mem_cons]
    cases ps with
    | nil =>
      have hlast : ¬ n.variableName.toList <:+: e.2.text.toList :=
        not_variableName_infix (underscore_not_mem_text e.2)
      simpa [hlast] using variableName_infix_entry_iff (n := n) (e := e) []
    | cons e' ps =>
      have hrest : [';', ' '].intercalate (entry e :: (e' :: ps).map entry) =
          entry e ++ ([';'] ++ ' ' :: [';', ' '].intercalate ((e' :: ps).map entry)) := by
        simp [List.intercalate_cons_cons]
      have hmiddle : ¬ n.variableName.toList <:+: e.2.text.toList ++ [';'] :=
        not_variableName_infix (by simp [underscore_not_mem_text])
      rw [hrest, variableName_infix_entry_iff, ← List.append_assoc,
        infix_blank_iff (blank_not_mem_variableName n), ih]
      simp [hmiddle]

/-- **The name of a variable stands in the line if and only if the variable is reported.** -/
theorem variableName_infix_iff {n : Name} {ps : Problems} :
    n.variableName.toList <:+: (problemsText ps).toList ↔ n ∈ ps.map Prod.fst := by
  have hopening : ¬ n.variableName.toList <:+: "invalid configuration:".toList :=
    not_variableName_infix (by simp)
  rw [toList_problemsText, infix_blank_iff (blank_not_mem_variableName n),
    variableName_infix_entries_iff]
  exact or_iff_right hopening

end SubstBot.Settings
