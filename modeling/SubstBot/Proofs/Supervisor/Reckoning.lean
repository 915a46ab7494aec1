import Mathlib.Algebra.Order.Field.Basic
import SubstBot.Proofs.Supervisor.Course

/-!
# `SubstBot/Proofs/Supervisor/Reckoning.lean` — supervision in any arithmetic of times

A supervision asks four things of the arithmetic of its times: where the clock starts, how times add
up, whether a budget can be compared with failures, and whether failures are over it after a time
(`Reckoning`). What becomes of planned runs is one function of these (`Reckoning.supervise`), with
an equation for each way in which its first run can go.

`supervisePlan` is that function for doubles (`outcome_supervisePlan`). Beside it stands the same
supervision with the numbers of an ordered field, rounded in any way or not at all (`rounded`).
-/

set_option autoImplicit false

namespace SubstBot.Supervisor

variable {τ ε : Type}

/-! ## Reckoning with times -/

/-- A run that is known beforehand, in any arithmetic of times. -/
structure TimedRun (τ ε : Type) where
  elapsed : τ
  ending : RunEnd ε

def PlannedRun.timed (r : PlannedRun ε) : TimedRun Binary64 ε :=
  ⟨r.elapsed, r.ending⟩

/-- What becomes of a supervision. -/
structure Outcome (ε : Type) where
  verdict : Verdict ε
  runs : Nat
  failures : Nat

def Outcome.ofSupervision {σ : Type} (r : Supervision σ ε) : Outcome ε :=
  ⟨r.verdict, r.runs, r.failures⟩

/-- The same, with one more run before it. -/
def Outcome.behindRun (r : Outcome ε) : Outcome ε :=
  { r with runs := r.runs + 1 }

/-- Whether the supervisor has given up by the `n`-th failure. -/
def Outcome.GaveUpBy (r : Outcome ε) (n : Nat) : Prop :=
  r.verdict = .gaveUp ∧ r.failures ≤ n

/-- **What a supervision asks of an arithmetic of times.** -/
structure Reckoning (τ : Type) where
  start : τ
  add : τ → τ → τ
  /-- Whether a budget can be compared with failures. -/
  comparable : Int → Bool
  /-- Whether there are more failures than a budget allows after a time. -/
  exceeds : (budget : Int) → (failures : Nat) → τ → Bool

namespace Reckoning

/-- The arithmetic of doubles. -/
def doubles : Reckoning Binary64 where
  start := .ofInt 0
  add now time := now + time
  comparable budget := (Binary64.ofInt budget).isFinite
  exceeds budget failures now :=
    (Binary64.ofInt budget * now.atLeast minute).exceededBy (failures * 60)

/-- The arithmetic of an ordered field in which the sums, the budget and its product with the time
are rounded. -/
def rounded {K : Type} [Field K] [LinearOrder K] (round : K → K) : Reckoning K where
  start := 0
  add now time := round (now + time)
  comparable _ := true
  exceeds budget failures now := round (round budget * max now 60) < failures * 60

/-- Supervise planned runs, after a number of failures, from a time since the start. -/
def supervise (c : Reckoning τ) (budget : Int) (delay : τ) :
    List (TimedRun τ ε) → (failures : Nat) → (now : τ) → Outcome ε
  | [], failures, _ => ⟨.finished, 1, failures⟩
  | r :: rs, failures, now =>
    match r.ending with
    | .clean => ⟨.finished, 1, failures⟩
    | .escaped e => ⟨.escaped e, 1, failures⟩
    | .failed _ _ =>
      if !c.comparable budget then ⟨.overflowed, 1, failures + 1⟩
      else if c.exceeds budget (failures + 1) (c.add now r.elapsed) then ⟨.gaveUp, 1, failures + 1⟩
      else
        (supervise c budget delay rs (failures + 1)
          (c.add (c.add now r.elapsed) delay)).behindRun

/-- Supervise planned runs from the start. -/
def outcome (c : Reckoning τ) (budget : Int) (delay : τ) (runs : List (TimedRun τ ε)) :
    Outcome ε :=
  c.supervise budget delay runs 0 c.start

/-! ## One run -/

section Step

variable {c : Reckoning τ} {budget : Int} {delay : τ} {r : TimedRun τ ε}
  {rs : List (TimedRun τ ε)} {failures : Nat} {now : τ}

theorem supervise_clean (he : r.ending = .clean) :
    c.supervise budget delay (r :: rs) failures now = ⟨.finished, 1, failures⟩ := by
  rw [supervise, he]

theorem supervise_escaped {e : ε} (he : r.ending = .escaped e) :
    c.supervise budget delay (r :: rs) failures now = ⟨.escaped e, 1, failures⟩ := by
  rw [supervise, he]

theorem supervise_overflowed {kind : FailureKind} {message : String}
    (he : r.ending = .failed kind message) (hc : c.comparable budget = false) :
    c.supervise budget delay (r :: rs) failures now = ⟨.overflowed, 1, failures + 1⟩ := by
  rw [supervise, he, hc]
  rfl

theorem supervise_gaveUp {kind : FailureKind} {message : String}
    (he : r.ending = .failed kind message) (hc : c.comparable budget = true)
    (ho : c.exceeds budget (failures + 1) (c.add now r.elapsed) = true) :
    c.supervise budget delay (r :: rs) failures now = ⟨.gaveUp, 1, failures + 1⟩ := by
  rw [supervise, he, hc, ho]
  rfl

theorem supervise_restarts {kind : FailureKind} {message : String}
    (he : r.ending = .failed kind message) (hc : c.comparable budget = true)
    (ho : c.exceeds budget (failures + 1) (c.add now r.elapsed) = false) :
    c.supervise budget delay (r :: rs) failures now =
      (c.supervise budget delay rs (failures + 1)
        (c.add (c.add now r.elapsed) delay)).behindRun := by
  rw [supervise, he, hc, ho]
  rfl

end Step

/-! ## The supervision in doubles -/

theorem ofSupervision_behind {σ : Type} (r : Supervision σ ε) (delay : Binary64)
    (logs : List LogRecord) :
    Outcome.ofSupervision (r.behind 1 delay logs) = (Outcome.ofSupervision r).behindRun := by
  unfold Outcome.ofSupervision Outcome.behindRun Supervision.behind
  rw [Nat.add_comm 1]

theorem comparable_doubles (s : Supervisor) :
    doubles.comparable s.maxFailuresPerMinute = s.comparable := by
  simp only [doubles, Supervisor.comparable]

theorem exceeds_doubles (s : Supervisor) (failures : Nat) (now : Binary64) :
    doubles.exceeds s.maxFailuresPerMinute failures now = s.overBudget failures now := by
  simp only [doubles, overBudget, allowance]

theorem start_doubles : doubles.start = .ofInt 0 := by
  simp only [doubles]

theorem add_doubles (now time : Binary64) : doubles.add now time = now + time := by
  simp only [doubles]

theorem supervise_doubles (s : Supervisor) (runs : List (PlannedRun ε)) (failures : Nat)
    (now : Binary64) :
    Outcome.ofSupervision (s.superviseFor planned (runs.length + 1) failures now runs) =
      doubles.supervise s.maxFailuresPerMinute s.restartDelay (runs.map PlannedRun.timed)
        failures now := by
  -- the first run ends both in the same way, or restarts both at the same time
  induction runs generalizing failures now with
  | nil => rfl
  | cons r rs ih =>
    have hrun : planned.run now (r :: rs) = ⟨r.ending, [], now + r.elapsed, rs⟩ := rfl
    rw [List.length_cons, List.map_cons]
    cases he : r.ending with
    | clean =>
      have hends : Ends s failures (planned.run now (r :: rs)) .finished failures _ := .finished he
      rw [superviseFor_of_ends _ hends, supervise_clean he]
      rfl
    | escaped e =>
      have hends : Ends s failures (planned.run now (r :: rs)) (.escaped e) failures _ :=
        .escaped he
      rw [superviseFor_of_ends _ hends, supervise_escaped he]
      rfl
    | failed kind message =>
      have htimed : r.timed.ending = .failed kind message := he
      have hcomparable := comparable_doubles s
      have hover := exceeds_doubles s (failures + 1) (now + r.elapsed)
      cases hc : s.comparable with
      | false =>
        have hends : Ends s failures (planned.run now (r :: rs)) .overflowed (failures + 1) _ :=
          .overflowed he hc
        rw [superviseFor_of_ends _ hends, supervise_overflowed htimed (hcomparable.trans hc)]
        rfl
      | true =>
        cases ho : s.overBudget (failures + 1 : Nat) (now + r.elapsed) with
        | true =>
          have hends : Ends s failures (planned.run now (r :: rs)) .gaveUp (failures + 1) _ :=
            .gaveUp he hc ho
          rw [superviseFor_of_ends _ hends,
            supervise_gaveUp htimed (hcomparable.trans hc) (hover.trans ho)]
          rfl
        | false =>
          have hrestarts : Restarts s (failures + 1) (planned.run now (r :: rs)) := by
            refine ⟨?_, hc, ho⟩
            rw [hrun, he]
            rfl
          rw [superviseFor_of_restarts _ hrestarts, ofSupervision_behind,
            supervise_restarts htimed (hcomparable.trans hc) (hover.trans ho)]
          exact congrArg Outcome.behindRun (ih _ _)

/-- **A supervision of planned runs is the one that doubles give.** -/
theorem outcome_supervisePlan (s : Supervisor) (runs : List (PlannedRun ε)) :
    Outcome.ofSupervision (s.supervisePlan runs) =
      doubles.outcome s.maxFailuresPerMinute s.restartDelay (runs.map PlannedRun.timed) := by
  rw [outcome, start_doubles, ← supervise_doubles, supervisePlan]

end Reckoning

end SubstBot.Supervisor
