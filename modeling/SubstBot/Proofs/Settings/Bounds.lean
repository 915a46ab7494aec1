import SubstBot.Proofs.Number.Order
import SubstBot.Proofs.Settings.Reading
import SubstBot.Proofs.Settings.Report

/-!
# `SubstBot/Proofs/Settings/Bounds.lean` — settings within their bounds

What the six variables say is either loaded or reported: `Outcome` puts the two side by side, over
any `Assignment` of texts to the variables. What is loaded is what the texts stand for, with defaults
for what is not set, and is within the bounds; what is reported is every variable that is missing or
invalid, and no other.

Two of the settings are doubles, and a text can be read as a double that is not a number. Such a
setting is on neither side of its bound, and **it is reported**: a bound is an order that has to hold,
and not one that must not fail.

`settings_or_report` is stated over any validator that checks texts one at a time, as
`Validator.Documented` has it, and over whatever it reads the texts as.
-/

set_option autoImplicit false

namespace SubstBot.Settings

/-- Texts for the variables. A variable need not be set. -/
abbrev Assignment := Name → Option String

/-- The variables that are set. -/
def environment (a : Assignment) : Variables :=
  Name.all.filterMap fun n => (a n).map fun t => (n.variableName, t)

/-- What loading comes to when nothing else says anything: settings, or the line that is shown. -/
def loaded (V : Validator) (a : Assignment) : Except String Settings :=
  (load V { environment := environment a }).mapError problemsText

/-! ## What is good and what is loaded -/

def NotNegative (k : Int) : Prop := 0 ≤ k

/-- The time for matching is above zero. -/
def IsTimeout (x : Binary64) : Prop :=
  (Binary64.ofInt 0).less x = true

/-- The delay is zero or above. -/
def IsDelay (x : Binary64) : Prop :=
  (Binary64.ofInt 0).atMost x = true

/-- A text that stands for something of which `good` holds. -/
def Reads {α : Type} (read : List Char → Option α) (good : α → Prop) (t : String) : Prop :=
  ∃ x, read t.toList = some x ∧ good x

/-- What the text of a variable must be. -/
def Fits (R : Reading) : Name → String → Prop
  | .token => fun _ => True
  | .handle => fun _ => True
  | .pollTimeout => Reads R.integer NotNegative
  | .matchTimeout => Reads R.number IsTimeout
  | .maxFailuresPerMinute => Reads R.integer NotNegative
  | .restartDelay => Reads R.number IsDelay

/-- **A variable that is neither missing nor invalid.** Only the token must be set. -/
structure Valid (R : Reading) (a : Assignment) (n : Name) : Prop where
  present : n = .token → a n ≠ none
  fits : ∀ t, a n = some t → Fits R n t

/-- A setting is what the text of its variable stands for, or its default. -/
def Stands {α : Type} (default : α) (read : List Char → Option α) : Option String → α → Prop
  | none, x => x = default
  | some t, x => read t.toList = some x

/-- The settings that an assignment gives. -/
structure Given (R : Reading) (a : Assignment) (s : Settings) : Prop where
  token : a .token = some s.token
  handle : a .handle = s.handle
  pollTimeout : Stands 30 R.integer (a .pollTimeout) s.pollTimeout
  matchTimeout : Stands (.ofDecimal false 5 (-1)) R.number (a .matchTimeout) s.matchTimeout
  maxFailures : Stands 30 R.integer (a .maxFailuresPerMinute) s.maxFailuresPerMinute
  restartDelay : Stands (.ofInt 1) R.number (a .restartDelay) s.restartDelay

structure Within (s : Settings) : Prop where
  pollTimeout : NotNegative s.pollTimeout
  matchTimeout : IsTimeout s.matchTimeout
  maxFailures : NotNegative s.maxFailuresPerMinute
  restartDelay : IsDelay s.restartDelay

/-- **The line reports the variables that are not valid**, in the order of the names. It tells which
ones they are: the name of a variable stands in it just in case. -/
structure Report (R : Reading) (a : Assignment) (ps : Problems) (line : String) : Prop where
  line_eq : line = "invalid configuration: " ++
    "; ".intercalate (ps.map fun (n, p) => n.variableName ++ ": " ++ p.text)
  ne_nil : ps ≠ []
  sublist : (ps.map Prod.fst).Sublist Name.all
  mem_iff : ∀ n, n ∈ ps.map Prod.fst ↔ ¬ Valid R a n
  infix_iff : ∀ n : Name, n.variableName.toList <:+: line.toList ↔ ¬ Valid R a n

/-- **Settings, or a report.** -/
inductive Outcome (R : Reading) (a : Assignment) : Except String Settings → Prop where
  | settings {s : Settings} (valid : ∀ n, Valid R a n) (given : Given R a s) (within : Within s) :
      Outcome R a (.ok s)
  | report {ps : Problems} {line : String} (h : Report R a ps line) : Outcome R a (.error line)

/-- A variable whose text is read as a double that is not a number. -/
def NotANumber (R : Reading) (a : Assignment) (n : Name) : Prop :=
  (n = .matchTimeout ∨ n = .restartDelay) ∧ ∃ t, a n = some t ∧ R.number t.toList = some .nan

/-! ## The variables -/

theorem toUpper_variableName (n : Name) : n.variableName.toUpper = n.variableName := by
  rw [← String.toList_inj, String.toUpper, String.toList_map, toList_variableName]
  cases n <;> decide

theorem variableName_inj {n m : Name} : n.variableName = m.variableName ↔ n = m := by
  constructor
  · intro h
    rw [← variableName_infix_colon_iff, h]
    exact (List.prefix_append _ _).isInfix
  · intro h
    rw [h]

theorem find?_variable (a : Assignment) (n : Name) (ns : List Name) :
    ((ns.filterMap fun m => (a m).map fun t => (m.variableName, t)).find?
      fun (k, _) => k.toUpper == n.variableName).map Prod.snd = if n ∈ ns then a n else none := by
  induction ns with
  | nil => rfl
  | cons m ns ih =>
    by_cases hm : m = n
    · subst hm
      cases ht : a m with
      | some t => simp [ht, toUpper_variableName]
      | none => simpa [ht] using ih
    · cases ht : a m with
      | some t => simpa [ht, toUpper_variableName, variableName_inj, hm, Ne.symm hm] using ih
      | none => simpa [ht, Ne.symm hm] using ih

/-- A variable that is set has its text and no other has one. -/
theorem lookup_environment (a : Assignment) (n : Name) : lookup (environment a) n = a n := by
  unfold lookup environment
  rw [← List.filterMap_reverse, find?_variable]
  exact if_pos (List.mem_reverse.mpr n.mem_all)

theorem value_environment (a : Assignment) :
    Sources.value { environment := environment a } = fun n => (a n).map .text := by
  funext n
  have hfile : lookup [] n = none := rfl
  simp [Sources.value, lookup_environment, hfile]

/-! ## The bounds -/

theorem admitsInt_atLeast_zero_iff {k : Int} :
    (Bound.atLeast 0).admitsInt k = true ↔ NotNegative k := by
  rw [Bound.admitsInt, decide_eq_true_iff, NotNegative]

theorem not_isTimeout_nan : ¬ IsTimeout .nan := by
  simp [IsTimeout, Binary64.ofInt_zero, Binary64.less]

theorem not_isDelay_nan : ¬ IsDelay .nan := by
  simp [IsDelay, Binary64.ofInt_zero, Binary64.atMost, Binary64.less, Binary64.same]

theorem isTimeout_default : IsTimeout (.ofDecimal false 5 (-1)) := by
  unfold IsTimeout
  decide +kernel

theorem isDelay_default : IsDelay (.ofInt 1) := by
  unfold IsDelay
  decide +kernel

/-! ## The checks -/

/-- A check that takes the texts that are read as something good, and takes them for that. -/
def Checks {α : Type} (check : Value → Except Problem α) (read : List Char → Option α)
    (good : α → Prop) : Prop :=
  ∀ t x, check (.text t) = .ok x ↔ read t.toList = some x ∧ good x

section

variable {V : Validator} {R : Reading} (hV : V.Documented R)

include hV

theorem Validator.Documented.checks_notNegative :
    Checks (V.integer (.atLeast 0)) R.integer NotNegative := by
  intro t k
  rw [hV.integer, admitsInt_atLeast_zero_iff]

theorem Validator.Documented.checks_isTimeout :
    Checks (V.number (.above 0)) R.number IsTimeout :=
  fun t x => hV.number (.above 0) t x

theorem Validator.Documented.checks_isDelay :
    Checks (V.number (.atLeast 0)) R.number IsDelay :=
  fun t x => hV.number (.atLeast 0) t x

end

section

variable {α : Type} {check : Value → Except Problem α} {read : List Char → Option α}
  {good : α → Prop} {default x : α} {o : Option String}

/-- What a text stands for is good if the text is. -/
theorem Reads.good_of_eq {t : String} (h : Reads read good t) (hx : read t.toList = some x) :
    good x := by
  obtain ⟨y, hy, hgood⟩ := h
  obtain rfl := Option.some.inj (hy.symm.trans hx)
  exact hgood

theorem Checks.exists_ok_iff (h : Checks check read good) :
    (∃ x, orDefault default check (o.map .text) = .ok x) ↔ ∀ t, o = some t → Reads read good t := by
  cases o with
  | none => simp [orDefault]
  | some t => simp [orDefault, h t, Reads]

theorem Checks.stands (h : Checks check read good)
    (hx : orDefault default check (o.map .text) = .ok x) : Stands default read o x := by
  cases o with
  | none => exact (Except.ok.inj hx).symm
  | some t => exact ((h t x).mp hx).1

theorem Stands.holds (h : Stands default read o x) (hset : ∀ t, o = some t → Reads read good t)
    (hdefault : good default) : good x := by
  cases o with
  | none => exact h ▸ hdefault
  | some t => exact (hset t rfl).good_of_eq h

end

/-! ## The outcome -/

section

variable {V : Validator} {R : Reading} {a : Assignment} {s : Settings}

theorem Given.within (h : Given R a s) (hvalid : ∀ n, Valid R a n) : Within s where
  pollTimeout := h.pollTimeout.holds (hvalid .pollTimeout).fits (by decide : (0 : Int) ≤ 30)
  matchTimeout := h.matchTimeout.holds (hvalid .matchTimeout).fits isTimeout_default
  maxFailures :=
    h.maxFailures.holds (hvalid .maxFailuresPerMinute).fits (by decide : (0 : Int) ≤ 30)
  restartDelay := h.restartDelay.holds (hvalid .restartDelay).fits isDelay_default

theorem reason?_eq_none_iff (hV : V.Documented R) {n : Name} :
    reason? V (fun m => (a m).map .text) n = none ↔ Valid R a n := by
  have hfits : n ≠ .token → ((∀ t, a n = some t → Fits R n t) ↔ Valid R a n) := by
    intro hn
    exact ⟨fun h => ⟨fun htoken => absurd htoken hn, h⟩, Valid.fits⟩
  cases n with
  | token =>
    cases ht : a .token with
    | none =>
      have hnot : ¬ Valid R a .token := fun h => h.present rfl ht
      simp [reason?, requiredText, failure?, ht, hnot]
    | some t =>
      have hvalid : Valid R a .token := ⟨by simp [ht], fun _ _ => trivial⟩
      simp [reason?, requiredText, failure?, ht, hV.text, hvalid]
  | handle =>
    have hvalid : Valid R a .handle := (hfits (by decide)).mp fun _ _ => trivial
    simp only [hvalid, iff_true]
    cases h : a .handle <;> simp [reason?, optionalText, failure?, h, hV.text, Except.map]
  | pollTimeout =>
    rw [reason?, failure?_eq_none_iff, hV.checks_notNegative.exists_ok_iff]
    exact hfits (by decide)
  | matchTimeout =>
    rw [reason?, failure?_eq_none_iff, hV.checks_isTimeout.exists_ok_iff]
    exact hfits (by decide)
  | maxFailuresPerMinute =>
    rw [reason?, failure?_eq_none_iff, hV.checks_notNegative.exists_ok_iff]
    exact hfits (by decide)
  | restartDelay =>
    rw [reason?, failure?_eq_none_iff, hV.checks_isDelay.exists_ok_iff]
    exact hfits (by decide)

theorem Checked.given (hV : V.Documented R) (h : Checked V (fun n => (a n).map .text) (.ok s)) :
    Given R a s := by
  cases h with
  | passed htoken hhandle hpoll hmatch hfailures hdelay =>
    exact
      { token := by
          cases ht : a .token with
          | none => simp [requiredText, ht] at htoken
          | some t => simpa [requiredText, ht, hV.text] using htoken
        handle := by
          cases ht : a .handle with
          | none => simpa [optionalText, ht] using hhandle
          | some t => simpa [optionalText, ht, hV.text, Except.map] using hhandle
        pollTimeout := hV.checks_notNegative.stands hpoll
        matchTimeout := hV.checks_isTimeout.stands hmatch
        maxFailures := hV.checks_notNegative.stands hfailures
        restartDelay := hV.checks_isDelay.stands hdelay }

theorem report_problems (hV : V.Documented R) {n : Name} {p : Problem}
    (h : reason? V (fun m => (a m).map .text) n = some p) :
    Report R a (problems V fun m => (a m).map .text)
      (problemsText (problems V fun m => (a m).map .text)) where
  line_eq := by
    unfold problemsText
    rfl
  ne_nil := by
    intro hnil
    have hmem := mem_problems_iff.mpr (Option.ne_none_iff_exists'.mpr ⟨p, h⟩)
    rw [hnil] at hmem
    exact absurd hmem List.not_mem_nil
  sublist := problems_sublist _ _
  mem_iff m := by rw [mem_problems_iff, ne_eq, reason?_eq_none_iff hV]
  infix_iff m := by rw [variableName_infix_iff, mem_problems_iff, ne_eq, reason?_eq_none_iff hV]

theorem outcome_loaded (hV : V.Documented R) (a : Assignment) : Outcome R a (loaded V a) := by
  unfold loaded load
  rw [value_environment]
  cases hchecked : ofValues V fun n => (a n).map .text with
  | ok s =>
    have h := hchecked ▸ checked_ofValues V fun n => (a n).map .text
    have hvalid : ∀ n, Valid R a n := fun n =>
      (reason?_eq_none_iff hV).mp (h.reason?_eq_none n)
    have hgiven := h.given hV
    exact .settings hvalid hgiven (hgiven.within hvalid)
  | error ps =>
    have h := hchecked ▸ checked_ofValues V fun n => (a n).map .text
    cases h with
    | refused hn => exact .report (report_problems hV hn)

/-- No order holds of what is not a number. -/
theorem NotANumber.not_valid {n : Name} (h : NotANumber R a n) : ¬ Valid R a n := by
  obtain ⟨hn, t, ht, hread⟩ := h
  -- The text has one reading, so a good one would have to be the one that is not a number.
  intro hvalid
  have hfits := hvalid.fits t ht
  rcases hn with rfl | rfl
  · exact not_isTimeout_nan (Reads.good_of_eq hfits hread)
  · exact not_isDelay_nan (Reads.good_of_eq hfits hread)

theorem Outcome.exists_line {r : Except String Settings} (h : Outcome R a r) {n : Name}
    (hn : ¬ Valid R a n) : ∃ line, r = .error line ∧ n.variableName.toList <:+: line.toList := by
  cases h with
  | settings valid => exact absurd (valid n) hn
  | report h => exact ⟨_, rfl, (h.infix_iff n).mpr hn⟩

end

/-- **What the variables say is loaded or reported.** A variable whose text is read as what is not a
number is among those that are reported. -/
theorem settings_or_report {V : Validator} {R : Reading} (hV : V.Documented R) (a : Assignment) :
    Outcome R a (loaded V a) ∧
      ∀ n, NotANumber R a n →
        ∃ line, loaded V a = .error line ∧ n.variableName.toList <:+: line.toList := by
  have houtcome := outcome_loaded hV a
  exact ⟨houtcome, fun n hn => houtcome.exists_line hn.not_valid⟩

/-- A token, and a time for matching that is no number. -/
def nanTimeout : Assignment
  | .token => some "t"
  | .matchTimeout => some "nan"
  | _ => none

theorem settings_or_report_nan :
    lax.Documented laxReading ∧ Outcome laxReading nanTimeout (loaded lax nanTimeout) ∧
      ∃ line, loaded lax nanTimeout = .error line ∧
        Name.matchTimeout.variableName.toList <:+: line.toList := by
  have hnan : NotANumber laxReading nanTimeout .matchTimeout :=
    ⟨Or.inl rfl, "nan", rfl, by decide⟩
  obtain ⟨houtcome, hreported⟩ := settings_or_report lax_documented nanTimeout
  exact ⟨lax_documented, houtcome, hreported .matchTimeout hnan⟩

end SubstBot.Settings
