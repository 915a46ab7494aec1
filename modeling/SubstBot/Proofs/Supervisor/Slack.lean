import Mathlib.Data.Rat.Floor
import SubstBot.Proofs.Number.Order
import SubstBot.Proofs.Supervisor.Reckoning

/-!
# `SubstBot/Proofs/Supervisor/Slack.lean` — more slack never ends a supervision earlier

In every arithmetic of times that **keeps order** (`Reckoning.KeepsOrder`), a greater budget, a
longer delay and longer runs put off the end (`KeepsOrder.outlasts`): the clock of the second
supervision is never behind that of the first, so what is over its budget is over the other one.
Doubles keep order (`keepsOrder_doubles`), and so does every ordered field with any rounding that
does, exact arithmetic among them (`keepsOrder_rounded`).

**A budget that no double can hold** is where doubles part from the others: it cannot be compared,
so a supervision with it ends with an error at its first failure. It has not given up by then.
-/

set_option autoImplicit false

namespace SubstBot.Supervisor

open Binary64 (Rises Nonneg atMost)

variable {τ ε : Type}

namespace Reckoning

/-! ## Order -/

/-- **An arithmetic that keeps an order of times**: sums do, and what is over a greater budget after
a longer time is over the smaller one after the shorter. -/
structure KeepsOrder (c : Reckoning τ) (le : τ → τ → Prop) : Prop where
  start : le c.start c.start
  add : ∀ {x x' y y' : τ}, le x x' → le y y' → le (c.add x y) (c.add x' y')
  comparable : ∀ {budget budget' : Int}, 0 ≤ budget → budget ≤ budget' →
    c.comparable budget' = true → c.comparable budget = true
  exceeds : ∀ {budget budget' : Int} {failures : Nat} {now now' : τ}, 0 ≤ budget →
    budget ≤ budget' → c.comparable budget' = true → le now now' →
    c.exceeds budget' failures now' = true → c.exceeds budget failures now = true

theorem keepsOrder_doubles : doubles.KeepsOrder Rises where
  start := by
    rw [start_doubles]
    exact Binary64.rises_ofInt (Int.le_refl 0) (Int.le_refl 0)
  add hx hy := by
    rw [add_doubles, add_doubles]
    exact hx.add hy
  comparable hbudget hle := by
    have hrises := Binary64.rises_ofInt hbudget hle
    intro hc
    simp only [doubles, Binary64.isFinite_iff_magnitude] at hc ⊢
    exact ne_top_of_le_ne_top hc hrises.le
  exceeds := by
    intro budget budget' failures now now' hbudget hle hc hnow ho
    have hminute : Nonneg minute := (Binary64.rises_ofInt (b := 60) (by decide) le_rfl).left
    have hfloor : Rises (now.atLeast minute) (now'.atLeast minute) := hnow.atLeast hminute
    have hcount : ((failures * 60 : Nat) : Int) = failures * 60 := by push_cast; rfl
    simp only [doubles, ← hcount] at hc ho ⊢
    exact Binary64.exceededBy_mul_of_rises (Binary64.rises_ofInt hbudget hle) hfloor hc ho

theorem keepsOrder_rounded {K : Type} [Field K] [LinearOrder K] [IsStrictOrderedRing K]
    {round : K → K} (hround : Monotone round) : (rounded round).KeepsOrder (· ≤ ·) where
  start := le_refl _
  add hx hy := hround (add_le_add hx hy)
  comparable _ _ _ := rfl
  exceeds := by
    intro budget budget' failures now now' hbudget hle _ hnow ho
    have hminute : (0 : K) < 60 := by norm_num
    have hfloor : 0 < max now 60 := lt_of_lt_of_le hminute (le_max_right now 60)
    have hbudgets : round budget ≤ round budget' := hround (by exact_mod_cast hle)
    simp only [rounded, decide_eq_true_eq] at ho ⊢
    by_cases hsign : 0 ≤ round budget
    · have hproduct : round budget * max now 60 ≤ round budget' * max now' 60 :=
        mul_le_mul hbudgets (max_le_max hnow le_rfl) hfloor.le (hsign.trans hbudgets)
      exact lt_of_le_of_lt (hround hproduct) ho
    · -- a rounding that takes a budget below zero takes zero there too, and all below it
      have hnegative : round budget < 0 := not_le.mp hsign
      have hzero : round 0 ≤ round budget := hround (by exact_mod_cast hbudget)
      have hproduct : round (round budget * max now 60) ≤ round 0 :=
        hround (mul_nonpos_of_nonpos_of_nonneg hnegative.le hfloor.le)
      have hcount : (0 : K) ≤ failures * 60 := mul_nonneg (Nat.cast_nonneg failures) hminute.le
      exact lt_of_le_of_lt (hproduct.trans hzero) (lt_of_lt_of_le hnegative hcount)

/-! ## Two supervisions -/

/-- **The second supervision ends no earlier than the first.** -/
structure Outlasts (comparable : Bool) (r r' : Outcome ε) : Prop where
  gaveUp : r'.verdict = .gaveUp → r.verdict = .gaveUp ∧ r.failures ≤ r'.failures
  finished : r.verdict = .finished →
    r'.verdict = .finished ∧ r'.runs = r.runs ∨ comparable = false ∧ r'.verdict = .overflowed

theorem Outlasts.refl (comparable : Bool) (r : Outcome ε) : Outlasts comparable r r :=
  ⟨fun h => ⟨h, Nat.le_refl _⟩, fun h => Or.inl ⟨h, rfl⟩⟩

theorem Outlasts.overflowed (r : Outcome ε) (runs failures : Nat) :
    Outlasts false r ⟨.overflowed, runs, failures⟩ := by
  refine ⟨?_, fun _ => Or.inr ⟨rfl, rfl⟩⟩
  intro h
  cases h

theorem Outlasts.of_gaveUp {comparable : Bool} {failures : Nat} {r' : Outcome ε} (runs : Nat)
    (h : failures ≤ r'.failures) : Outlasts comparable ⟨.gaveUp, runs, failures⟩ r' := by
  refine ⟨fun _ => ⟨rfl, h⟩, ?_⟩
  intro hfinished
  cases hfinished

theorem Outlasts.behindRun {comparable : Bool} {r r' : Outcome ε} (h : Outlasts comparable r r') :
    Outlasts comparable r.behindRun r'.behindRun := by
  refine ⟨h.gaveUp, ?_⟩
  intro hfinished
  rcases h.finished hfinished with ⟨hverdict, hruns⟩ | hoverflowed
  · exact Or.inl ⟨hverdict, congrArg (· + 1) hruns⟩
  · exact Or.inr hoverflowed

theorem failures_le_supervise (c : Reckoning τ) (budget : Int) (delay : τ)
    (runs : List (TimedRun τ ε)) (failures : Nat) (now : τ) :
    failures ≤ (c.supervise budget delay runs failures now).failures := by
  induction runs generalizing failures now with
  | nil => exact Nat.le_refl _
  | cons r rs ih =>
    cases he : r.ending with
    | clean => rw [supervise_clean he]
    | escaped e => rw [supervise_escaped he]
    | failed kind message =>
      cases hc : c.comparable budget with
      | false =>
        rw [supervise_overflowed he hc]
        exact Nat.le_succ _
      | true =>
        cases ho : c.exceeds budget (failures + 1) (c.add now r.elapsed) with
        | true =>
          rw [supervise_gaveUp he hc ho]
          exact Nat.le_succ _
        | false =>
          rw [supervise_restarts he hc ho]
          exact Nat.le_trans (Nat.le_succ _) (ih _ _)

/-- The runs of two plans: the same outcomes, and the second ones take no less time. -/
def NoShorter (le : τ → τ → Prop) (r r' : TimedRun τ ε) : Prop :=
  le r.elapsed r'.elapsed ∧ r.ending = r'.ending

/-- **More slack never ends a supervision earlier**, in any arithmetic that keeps order. -/
theorem KeepsOrder.outlasts {c : Reckoning τ} {le : τ → τ → Prop} (hc : c.KeepsOrder le)
    {budget budget' : Int} {delay delay' : τ} (hbudget : 0 ≤ budget) (hle : budget ≤ budget')
    (hdelay : le delay delay') {runs runs' : List (TimedRun τ ε)}
    (hruns : List.Forall₂ (NoShorter le) runs runs') (failures : Nat) {now now' : τ}
    (hnow : le now now') :
    Outlasts (c.comparable budget') (c.supervise budget delay runs failures now)
      (c.supervise budget' delay' runs' failures now') := by
  -- along both plans at once: the clocks stay in order, and the failures before are as many
  induction hruns generalizing failures now now' with
  | nil => exact .refl _ _
  | @cons r r' rs rs' hhead _ ih =>
    obtain ⟨helapsed, hending⟩ := hhead
    cases he : r.ending with
    | clean =>
      rw [supervise_clean he, supervise_clean (hending.symm.trans he)]
      exact .refl _ _
    | escaped e =>
      rw [supervise_escaped he, supervise_escaped (hending.symm.trans he)]
      exact .refl _ _
    | failed kind message =>
      have he' : r'.ending = .failed kind message := hending.symm.trans he
      have htime : le (c.add now r.elapsed) (c.add now' r'.elapsed) := hc.add hnow helapsed
      cases hfits : c.comparable budget' with
      | false =>
        rw [supervise_overflowed he' hfits]
        exact .overflowed _ _ _
      | true =>
        have hfits' : c.comparable budget = true := hc.comparable hbudget hle hfits
        cases ho' : c.exceeds budget' (failures + 1) (c.add now' r'.elapsed) with
        | true =>
          have ho : c.exceeds budget (failures + 1) (c.add now r.elapsed) = true :=
            hc.exceeds hbudget hle hfits htime ho'
          rw [supervise_gaveUp he hfits' ho, supervise_gaveUp he' hfits ho']
          exact .refl _ _
        | false =>
          -- the second goes on, so it counts no fewer failures, whatever the first does here
          rw [supervise_restarts he' hfits ho']
          cases ho : c.exceeds budget (failures + 1) (c.add now r.elapsed) with
          | true =>
            rw [supervise_gaveUp he hfits' ho]
            exact .of_gaveUp 1 (failures_le_supervise c budget' delay' rs' _ _)
          | false =>
            have hlater := (ih (failures + 1) (hc.add htime hdelay)).behindRun
            rw [hfits] at hlater
            rw [supervise_restarts he hfits' ho]
            exact hlater

theorem KeepsOrder.outlasts_outcome {c : Reckoning τ} {le : τ → τ → Prop} (hc : c.KeepsOrder le)
    {budget budget' : Int} {delay delay' : τ} (hbudget : 0 ≤ budget) (hle : budget ≤ budget')
    (hdelay : le delay delay') {runs runs' : List (TimedRun τ ε)}
    (hruns : List.Forall₂ (NoShorter le) runs runs') :
    Outlasts (c.comparable budget') (c.outcome budget delay runs)
      (c.outcome budget' delay' runs') :=
  hc.outlasts hbudget hle hdelay hruns 0 hc.start

theorem Outlasts.not_gaveUpBy {comparable : Bool} {r r' : Outcome ε} (h : Outlasts comparable r r')
    {n : Nat} (hn : ¬ r.GaveUpBy n) : ¬ r'.GaveUpBy n := by
  rintro ⟨hverdict, hfailures⟩
  obtain ⟨hgaveUp, hle⟩ := h.gaveUp hverdict
  exact hn ⟨hgaveUp, Nat.le_trans hle hfailures⟩

end Reckoning

/-! ## The law -/

open Reckoning

/-- A time that is not negative, and one that is no shorter. -/
def Extends (x y : Binary64) : Prop :=
  atMost (.ofInt 0) x = true ∧ atMost x y = true

theorem rises_of_extends {x y : Binary64} (h : Extends x y) : Rises x y := by
  obtain ⟨hx, hxy⟩ := h
  rw [Binary64.ofInt_zero, ← Binary64.nonneg_iff_atMost] at hx
  exact Binary64.rises_of_atMost hx hxy

theorem outlasts_supervisePlan {s s' : Supervisor} {runs runs' : List (PlannedRun ε)}
    (hbudget : 0 ≤ s.maxFailuresPerMinute)
    (hle : s.maxFailuresPerMinute ≤ s'.maxFailuresPerMinute)
    (hdelay : Extends s.restartDelay s'.restartDelay)
    (hruns : List.Forall₂ (fun r r' => NoShorter Extends r.timed r'.timed) runs runs') :
    Outlasts s'.comparable (.ofSupervision (s.supervisePlan runs))
      (.ofSupervision (s'.supervisePlan runs')) := by
  have htimed : List.Forall₂ (NoShorter Rises) (runs.map PlannedRun.timed)
      (runs'.map PlannedRun.timed) := by
    rw [List.forall₂_map_left_iff, List.forall₂_map_right_iff]
    exact hruns.imp fun _ _ h => ⟨rises_of_extends h.1, h.2⟩
  rw [outcome_supervisePlan, outcome_supervisePlan, ← comparable_doubles]
  exact keepsOrder_doubles.outlasts_outcome hbudget hle (rises_of_extends hdelay) htimed

/-- **More slack never ends a supervision earlier**: with the same outcomes, a budget that is no
smaller, a delay that is no shorter and runs that take no less time, a supervisor has given up by no
failure by which the other one has not, and finishes after as many runs if the other one finishes.

* So it is in every ordered field, with any rounding that keeps order.
* So it is with doubles, save that a budget which no double can hold ends in an error.
* And it is the same supervision in both. -/
theorem more_slack_outlasts :
    (∀ (K ε : Type) [Field K] [LinearOrder K] [IsStrictOrderedRing K] (round : K → K),
      Monotone round →
      ∀ (budget budget' : Int) (delay delay' : K) (runs runs' : List (TimedRun K ε)),
        0 ≤ budget → budget ≤ budget' → delay ≤ delay' →
        List.Forall₂ (NoShorter (· ≤ ·)) runs runs' →
        let r := (rounded round).outcome budget delay runs
        let r' := (rounded round).outcome budget' delay' runs'
        (∀ n, ¬ r.GaveUpBy n → ¬ r'.GaveUpBy n) ∧
        (r.verdict = .finished → r'.verdict = .finished ∧ r'.runs = r.runs)) ∧
    (∀ (ε : Type) (s s' : Supervisor) (runs runs' : List (PlannedRun ε)),
        0 ≤ s.maxFailuresPerMinute → s.maxFailuresPerMinute ≤ s'.maxFailuresPerMinute →
        Extends s.restartDelay s'.restartDelay →
        List.Forall₂ (fun r r' => NoShorter Extends r.timed r'.timed) runs runs' →
        let r := Outcome.ofSupervision (s.supervisePlan runs)
        let r' := Outcome.ofSupervision (s'.supervisePlan runs')
        (∀ n, ¬ r.GaveUpBy n → ¬ r'.GaveUpBy n) ∧
        (r.verdict = .finished → r'.verdict = .finished ∧ r'.runs = r.runs ∨
          s'.comparable = false ∧ r'.verdict = .overflowed)) ∧
    (∀ (ε : Type) (s : Supervisor) (runs : List (PlannedRun ε)),
      Outcome.ofSupervision (s.supervisePlan runs) =
        doubles.outcome s.maxFailuresPerMinute s.restartDelay (runs.map PlannedRun.timed)) := by
  refine ⟨?rounded, ?doubles, fun ε s runs => outcome_supervisePlan s runs⟩
  case rounded =>
    intro K ε _ _ _ round hround budget budget' delay delay' runs runs' hbudget hle hdelay hruns
    have h := (keepsOrder_rounded hround).outlasts_outcome hbudget hle hdelay hruns
    refine ⟨fun n hn => h.not_gaveUpBy hn, ?_⟩
    intro hfinished
    rcases h.finished hfinished with hsame | ⟨hfits, -⟩
    · exact hsame
    · cases hfits
  case doubles =>
    intro ε s s' runs runs' hbudget hle hdelay hruns
    have h := outlasts_supervisePlan hbudget hle hdelay hruns
    exact ⟨fun n hn => h.not_gaveUpBy hn, h.finished⟩

/-- Two failures within a budget of two, and a clean run: so it goes too with a budget of three, a
longer delay and a longer second run, both in whole times, with the rest dropped, and in doubles. -/
theorem more_slack_outlasts_three :
    let whole : ℚ → ℚ := fun x => ⌊x⌋
    let runs (second : ℚ) : List (TimedRun ℚ Empty) :=
      [⟨1, .failed .receiver "x"⟩, ⟨second, .failed .receiver "x"⟩, ⟨1, .clean⟩]
    let r := (rounded whole).outcome 2 1 (runs 1)
    let r' := (rounded whole).outcome 3 (5 / 2) (runs 7)
    let plan (second : Int) : List (PlannedRun Empty) :=
      [⟨.ofInt 1, .failed .receiver "x"⟩, ⟨.ofInt second, .failed .receiver "x"⟩,
        ⟨.ofInt 1, .clean⟩]
    let s : Supervisor := { maxFailuresPerMinute := 2, restartDelay := .ofInt 1 }
    let s' : Supervisor := { maxFailuresPerMinute := 3, restartDelay := .ofInt 2 }
    let q := Outcome.ofSupervision (s.supervisePlan (plan 1))
    let q' := Outcome.ofSupervision (s'.supervisePlan (plan 7))
    (Monotone whole ∧ List.Forall₂ (NoShorter (· ≤ ·)) (runs 1) (runs 7) ∧
      ¬ r.GaveUpBy 2 ∧ r.verdict = .finished ∧
      ¬ r'.GaveUpBy 2 ∧ r'.verdict = .finished ∧ r'.runs = r.runs) ∧
    Extends s.restartDelay s'.restartDelay ∧
      List.Forall₂ (fun r r' => NoShorter Extends r.timed r'.timed) (plan 1) (plan 7) ∧
      ¬ q.GaveUpBy 2 ∧ q.verdict = .finished ∧
      ¬ q'.GaveUpBy 2 ∧ q'.verdict = .finished ∧ q'.runs = q.runs := by
  intro whole runs r r' plan s s' q q'
  have hwhole : Monotone whole := by
    intro x y h
    have hfloor : ⌊x⌋ ≤ ⌊y⌋ := Int.floor_mono h
    exact Int.cast_le.mpr hfloor
  have hruns : List.Forall₂ (NoShorter (· ≤ ·)) (runs 1) (runs 7) :=
    .cons ⟨le_rfl, rfl⟩ (.cons ⟨by norm_num, rfl⟩ (.cons ⟨le_rfl, rfl⟩ .nil))
  have hr : ¬ r.GaveUpBy 2 ∧ r.verdict = .finished := by
    unfold Outcome.GaveUpBy
    decide +kernel
  have hdelay : Extends s.restartDelay s'.restartDelay := by
    unfold Extends
    decide +kernel
  have hplan : List.Forall₂ (fun r r' => NoShorter Extends r.timed r'.timed) (plan 1) (plan 7) := by
    have hone : Extends (.ofInt 1) (.ofInt 1) := by
      unfold Extends
      decide +kernel
    have hseven : Extends (.ofInt 1) (.ofInt 7) := by
      unfold Extends
      decide +kernel
    have hrun : ∀ {x y : Binary64} (_ : Extends x y) (e : RunEnd Empty),
        NoShorter Extends (PlannedRun.timed ⟨x, e⟩) (PlannedRun.timed ⟨y, e⟩) :=
      fun h _ => ⟨h, rfl⟩
    exact .cons (hrun hone _) (.cons (hrun hseven _) (.cons (hrun hone _) .nil))
  have hq : ¬ q.GaveUpBy 2 ∧ q.verdict = .finished := by
    unfold Outcome.GaveUpBy
    decide +kernel
  have hfits : s'.comparable = true := by decide +kernel
  obtain ⟨hpatient, hsame⟩ := more_slack_outlasts.1 ℚ Empty whole hwhole 2 3 1 (5 / 2) (runs 1)
    (runs 7) (by decide) (by decide) (by norm_num) hruns
  obtain ⟨hpatient', hsame'⟩ := more_slack_outlasts.2.1 Empty s s' (plan 1) (plan 7) (by decide)
    (by decide) hdelay hplan
  have hfinished' : q'.verdict = .finished ∧ q'.runs = q.runs := by
    rcases hsame' hq.2 with h | ⟨h, -⟩
    · exact h
    · rw [hfits] at h
      cases h
  exact ⟨⟨hwhole, hruns, hr.1, hr.2, hpatient 2 hr.1, hsame hr.2⟩, hdelay, hplan, hq.1, hq.2,
    hpatient' 2 hq.1, hfinished'⟩

end SubstBot.Supervisor
