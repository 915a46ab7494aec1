import Mathlib.Data.Nat.Find
import SubstBot.Proofs.Number.Rounding
import SubstBot.Supervisor

/-!
# `SubstBot/Proofs/Supervisor/Course.lean` — whole supervisions

A supervision is **a row of failures within the budget, and one run that ends it**. Between two runs
there is one wait, so when a run begins, and in which state, hangs on the runs before it alone
(`moment`). Whether it is followed by another is a matter of the budget (`Restarts`), and a run that
is not ends the supervision in one of four ways (`Ends`). `superviseFor_row` says so of the row and
`superviseFor_of_ends` of the end.

All that is counted follows (`Tally`): the runs, the waits and the failures, by the verdict.

**A budget can be too large.** One of `2^1024 - 2^970` failures or more allows any number that can
come, but it has no double near it. So the first failure is not compared with it: there is no
restart then, and the supervision ends with an error.
-/

set_option autoImplicit false

namespace SubstBot

/-- Whether a run failed in a way that a supervisor answers. -/
def RunEnd.isFailed {ε : Type} : RunEnd ε → Bool
  | .failed _ _ => true
  | _ => false

/-- A run that was made. -/
structure Attempt (σ ε : Type) where
  ending : RunEnd ε
  logs : List LogRecord
  /-- When it ended, counted from the start of the supervision. -/
  time : Binary64
  state : σ

variable {σ ε : Type}

def Supervised.run (what : Supervised σ ε) (now : Binary64) (state : σ) : Attempt σ ε :=
  match what.attempt now state with
  | (ending, logs, time, state) => ⟨ending, logs, time, state⟩

/-- What is told of a supervision that goes on for `n` runs before `r`. -/
def Supervision.behind (r : Supervision σ ε) (n : Nat) (delay : Binary64)
    (logs : List LogRecord) : Supervision σ ε :=
  { r with runs := n + r.runs, waits := List.replicate n delay ++ r.waits, logs := logs ++ r.logs }

namespace Supervisor

/-! ## The runs of a supervision -/

/-- When the run after `k` restarts begins, and in which state: one wait after the run before. -/
def moment (s : Supervisor) (what : Supervised σ ε) (state : σ) : Nat → Binary64 × σ
  | 0 => (.ofInt 0, state)
  | k + 1 =>
    let (now, state) := moment s what state k
    let a := what.run now state
    (a.time + s.restartDelay, what.wait s.restartDelay a.state)

/-- The run after `k` restarts. -/
def attempt (s : Supervisor) (what : Supervised σ ε) (state : σ) (k : Nat) : Attempt σ ε :=
  what.run (s.moment what state k).1 (s.moment what state k).2

/-- A run that is answered with a restart: it is the `n`-th failure, and within the budget. -/
structure Restarts (s : Supervisor) (n : Nat) (a : Attempt σ ε) : Prop where
  failed : a.ending.isFailed = true
  comparable : s.comparable = true
  within : s.overBudget n a.time = false

/-- **How a run ends the supervision** after `n` failures: the verdict, the failures then, and what
is logged at last. -/
inductive Ends (s : Supervisor) (n : Nat) (a : Attempt σ ε) :
    Verdict ε → Nat → List LogRecord → Prop where
  | finished (he : a.ending = .clean) : Ends s n a .finished n [finishedRecord]
  | escaped {e : ε} (he : a.ending = .escaped e) : Ends s n a (.escaped e) n []
  | gaveUp {kind : FailureKind} {message : String} (he : a.ending = .failed kind message)
      (hc : s.comparable = true) (ho : s.overBudget (n + 1 : Nat) a.time = true) :
      Ends s n a .gaveUp (n + 1) [failureRecord kind message, s.gaveUpRecord (n + 1)]
  | overflowed {kind : FailureKind} {message : String} (he : a.ending = .failed kind message)
      (hc : s.comparable = false) :
      Ends s n a .overflowed (n + 1) [failureRecord kind message]

/-- What is logged of a failure. -/
def report : RunEnd ε → List LogRecord
  | .failed kind message => [failureRecord kind message]
  | _ => []

/-- What is logged up to the `n`-th restart: what each run logs, its failure, and its restart. -/
def restartLogs (s : Supervisor) (what : Supervised σ ε) (state : σ) (n : Nat) :
    List LogRecord :=
  (List.range n).flatMap fun k =>
    (s.attempt what state k).logs ++ report (s.attempt what state k).ending ++
      [s.restartRecord (k + 1)]

variable {s : Supervisor} {what : Supervised σ ε} {state : σ} {n : Nat}

/-! ## One run -/

/-- A run that is not answered with a restart ends the supervision. -/
theorem exists_ends {a : Attempt σ ε} (h : ¬ Restarts s (n + 1) a) :
    ∃ verdict failures closing, Ends s n a verdict failures closing := by
  cases he : a.ending with
  | clean => exact ⟨_, _, _, .finished he⟩
  | escaped e => exact ⟨_, _, _, .escaped he⟩
  | failed kind message =>
    cases hc : s.comparable with
    | false => exact ⟨_, _, _, .overflowed he hc⟩
    | true =>
      cases ho : s.overBudget (n + 1 : Nat) a.time with
      | true => exact ⟨_, _, _, .gaveUp he hc ho⟩
      | false =>
        have hfailed : a.ending.isFailed = true := by
          rw [he]
          rfl
        exact absurd ⟨hfailed, hc, ho⟩ h

theorem superviseFor_of_restarts {now : Binary64} (bound : Nat)
    (h : Restarts s (n + 1) (what.run now state)) :
    s.superviseFor what (bound + 1) n now state =
      (s.superviseFor what bound (n + 1) ((what.run now state).time + s.restartDelay)
        (what.wait s.restartDelay (what.run now state).state)).behind 1 s.restartDelay
        ((what.run now state).logs ++ report (what.run now state).ending ++
          [s.restartRecord (n + 1)]) := by
  obtain ⟨hfailed, hc, ho⟩ := h
  unfold Supervised.run at hfailed ho ⊢
  rw [superviseFor]
  generalize what.attempt now state = attempted at hfailed ho ⊢
  obtain ⟨_ | ⟨kind, message⟩ | e, logs, now', state'⟩ := attempted
  · cases hfailed
  · dsimp only at ho ⊢
    rw [hc, ho, Supervision.behind, report]
    simp [Nat.add_comm]
  · cases hfailed

theorem superviseFor_of_ends {now : Binary64} {verdict : Verdict ε} {failures : Nat}
    {closing : List LogRecord} (bound : Nat)
    (h : Ends s n (what.run now state) verdict failures closing) :
    s.superviseFor what (bound + 1) n now state =
      { verdict, runs := 1, failures, waits := [], logs := (what.run now state).logs ++ closing
        state := (what.run now state).state } := by
  unfold Supervised.run at h ⊢
  rw [superviseFor]
  generalize what.attempt now state = attempted at h ⊢
  obtain ⟨ending, logs, now', state'⟩ := attempted
  cases h with
  | finished he =>
    cases he
    rfl
  | escaped he =>
    cases he
    simp
  | gaveUp he hc ho =>
    cases he
    dsimp only at ho ⊢
    rw [hc, ho]
    simp
  | overflowed he hc =>
    cases he
    dsimp only
    rw [hc]
    simp

/-! ## The row of restarts -/

theorem moment_succ (k : Nat) :
    s.moment what state (k + 1) =
      ((s.attempt what state k).time + s.restartDelay,
        what.wait s.restartDelay (s.attempt what state k).state) :=
  rfl

theorem restartLogs_succ (n : Nat) :
    s.restartLogs what state (n + 1) =
      s.restartLogs what state n ++ ((s.attempt what state n).logs ++
        report (s.attempt what state n).ending ++ [s.restartRecord (n + 1)]) := by
  rw [restartLogs, List.range_succ, List.flatMap_append, List.flatMap_singleton]
  rfl

theorem behind_zero (r : Supervision σ ε) (delay : Binary64) : r.behind 0 delay [] = r := by
  unfold Supervision.behind
  rw [Nat.zero_add]
  rfl

theorem behind_behind (r : Supervision σ ε) (n : Nat) (delay : Binary64)
    (logs logs' : List LogRecord) :
    (r.behind 1 delay logs').behind n delay logs = r.behind (n + 1) delay (logs ++ logs') := by
  unfold Supervision.behind
  simp only [List.replicate_succ', List.append_assoc, Nat.add_assoc]
  rfl

/-- **Failures within the budget are followed by restarts**, and then the supervision goes on from
the next moment. -/
theorem superviseFor_row (h : ∀ k < n, Restarts s (k + 1) (s.attempt what state k))
    (bound : Nat) :
    s.superviseFor what (bound + n) 0 (.ofInt 0) state =
      (s.superviseFor what bound n (s.moment what state n).1 (s.moment what state n).2).behind n
        s.restartDelay (s.restartLogs what state n) := by
  induction n generalizing bound with
  | zero =>
    have hlogs : s.restartLogs what state 0 = [] := rfl
    rw [hlogs, behind_zero, moment, Nat.add_zero]
  | succ n ih =>
    have hrow := ih (fun k hk => h k (Nat.lt_succ_of_lt hk)) (bound + 1)
    have hlast : Restarts s (n + 1) (s.attempt what state n) := h n (Nat.lt_succ_self n)
    rw [Nat.add_right_comm] at hrow
    rw [← Nat.add_assoc, hrow, superviseFor_of_restarts bound hlast, behind_behind,
      restartLogs_succ]
    rfl

/-! ## Whole supervisions -/

/-- **The course of a supervision** that ends, with `n` restarts. -/
structure Course (s : Supervisor) (what : Supervised σ ε) (state : σ) (n : Nat)
    (r : Supervision σ ε) : Prop where
  restarted : ∀ k < n, Restarts s (k + 1) (s.attempt what state k)
  runs : r.runs = n + 1
  /-- There is one wait before each restart, and no other. -/
  waits : r.waits = List.replicate n s.restartDelay
  ended : ∃ closing, Ends s n (s.attempt what state n) r.verdict r.failures closing ∧
    r.logs = s.restartLogs what state n ++ (s.attempt what state n).logs ++ closing
  state : r.state = (s.attempt what state n).state

/-- A supervision that has made `n` runs and is not at its end. -/
structure Unfinished (s : Supervisor) (what : Supervised σ ε) (state : σ) (n : Nat)
    (r : Supervision σ ε) : Prop where
  restarted : ∀ k < n, Restarts s (k + 1) (s.attempt what state k)
  runs : r.runs = n
  failures : r.failures = n
  waits : r.waits = List.replicate n s.restartDelay
  logs : r.logs = s.restartLogs what state n

theorem unfinished_superviseFor (h : ∀ k < n, Restarts s (k + 1) (s.attempt what state k)) :
    Unfinished s what state n (s.superviseFor what n 0 (.ofInt 0) state) := by
  have hrow := superviseFor_row h 0
  rw [Nat.zero_add] at hrow
  rw [hrow]
  exact ⟨h, rfl, rfl, List.append_nil _, List.append_nil _⟩

theorem course_superviseFor {bound : Nat}
    (h : ∀ k < n, Restarts s (k + 1) (s.attempt what state k))
    (hlast : ¬ Restarts s (n + 1) (s.attempt what state n)) (hn : n < bound) :
    Course s what state n (s.superviseFor what bound 0 (.ofInt 0) state) := by
  obtain ⟨verdict, failures, closing, hends⟩ := exists_ends hlast
  obtain ⟨rest, rfl⟩ : ∃ rest, bound = rest + 1 + n := ⟨bound - (n + 1), by omega⟩
  rw [superviseFor_row h, superviseFor_of_ends rest hends]
  exact ⟨h, rfl, List.append_nil _, ⟨closing, hends, (List.append_assoc _ _ _).symm⟩, rfl⟩

/-- A supervision comes to its end, unless every run that it may make is answered with a restart. -/
theorem superviseFor_course (s : Supervisor) (what : Supervised σ ε) (state : σ) (bound : Nat) :
    Unfinished s what state bound (s.superviseFor what bound 0 (.ofInt 0) state) ∨
      ∃ n < bound, Course s what state n (s.superviseFor what bound 0 (.ofInt 0) state) := by
  classical
  by_cases h : ∃ n, n < bound ∧ ¬ Restarts s (n + 1) (s.attempt what state n)
  · obtain ⟨hn, hlast⟩ := Nat.find_spec h
    have hbefore : ∀ k < Nat.find h, Restarts s (k + 1) (s.attempt what state k) := by
      intro k hk
      by_contra hnot
      exact Nat.find_min h hk ⟨Nat.lt_trans hk hn, hnot⟩
    exact Or.inr ⟨Nat.find h, hn, course_superviseFor hbefore hlast hn⟩
  · refine Or.inl (unfinished_superviseFor fun k hk => ?_)
    by_contra hnot
    exact h ⟨k, hk, hnot⟩

/-! ## What is counted -/

/-- **The tally of a supervision.** -/
structure Tally (s : Supervisor) (what : Supervised σ ε) (state : σ) (r : Supervision σ ε) :
    Prop where
  /-- The failures that are counted are those of the runs that were made. -/
  counted : (List.range r.runs).countP (fun k => (s.attempt what state k).ending.isFailed) =
    r.failures
  /-- A failure is followed by another run if and only if it is within the budget. -/
  restart : ∀ k < r.failures, (k + 1 < r.runs ↔
    s.comparable = true ∧ s.overBudget (k + 1 : Nat) (s.attempt what state k).time = false)
  balance : match r.verdict with
    | .gaveUp | .overflowed => r.runs = r.failures ∧ r.waits.length + 1 = r.failures
    | .finished | .escaped _ => r.runs = r.failures + 1 ∧ r.waits.length = r.failures
  /-- Only the first failure can be one that is not compared with the budget. -/
  overflowed : r.verdict = .overflowed ↔
    s.comparable = false ∧ (s.attempt what state 0).ending.isFailed = true

theorem countP_of_restarts (h : ∀ k < n, Restarts s (k + 1) (s.attempt what state k)) :
    (List.range n).countP (fun k => (s.attempt what state k).ending.isFailed) = n := by
  have hall := List.countP_eq_length.mpr fun k hk => (h k (List.mem_range.mp hk)).failed
  rwa [List.length_range] at hall

/-- The failures of a supervision are those of the runs made: all before the last, and the last one
if it failed. -/
theorem Ends.counted {a : Attempt σ ε} {verdict : Verdict ε} {failures : Nat}
    {closing : List LogRecord} (h : Ends s n a verdict failures closing) :
    failures = n + if a.ending.isFailed then 1 else 0 := by
  cases h with
  | finished he | escaped he => rw [he]; rfl
  | gaveUp he hc ho | overflowed he hc => rw [he]; rfl

/-- The last failure is one that is over budget or not compared with it. -/
theorem Ends.not_within {a : Attempt σ ε} {verdict : Verdict ε} {failures : Nat}
    {closing : List LogRecord} (h : Ends s n a verdict failures closing) :
    ¬ Restarts s (n + 1) a := by
  rintro ⟨hfailed, hcomparable, hwithin⟩
  cases h with
  | finished he | escaped he =>
    rw [he] at hfailed
    cases hfailed
  | gaveUp he hc ho =>
    rw [hwithin] at ho
    cases ho
  | overflowed he hc =>
    rw [hcomparable] at hc
    cases hc

namespace Course

variable {r : Supervision σ ε}

/-- A budget that is not compared leaves no room for a restart. -/
theorem eq_zero_of_incomparable (h : Course s what state n r) (hc : s.comparable = false) :
    n = 0 := by
  by_contra hn
  have hfirst := (h.restarted 0 (Nat.pos_of_ne_zero hn)).comparable
  rw [hc] at hfirst
  cases hfirst

theorem counted (h : Course s what state n r) :
    (List.range r.runs).countP (fun k => (s.attempt what state k).ending.isFailed) =
      r.failures := by
  obtain ⟨closing, hends, -⟩ := h.ended
  rw [h.runs, List.range_succ, List.countP_append, countP_of_restarts h.restarted,
    List.countP_singleton, hends.counted]

theorem restart (h : Course s what state n r) {k : Nat} (hk : k < r.failures) :
    k + 1 < r.runs ↔
      s.comparable = true ∧ s.overBudget (k + 1 : Nat) (s.attempt what state k).time = false := by
  obtain ⟨closing, hends, -⟩ := h.ended
  have hcount := hends.counted
  rw [h.runs]
  constructor
  · intro hlt
    have hrestarts := h.restarted k (by omega)
    exact ⟨hrestarts.comparable, hrestarts.within⟩
  · rintro ⟨hc, hwithin⟩
    by_contra hnot
    cases hfailed : (s.attempt what state n).ending.isFailed with
    | false =>
      rw [hfailed] at hcount
      simp only [Bool.false_eq_true, if_false] at hcount
      omega
    | true =>
      rw [hfailed, if_pos rfl] at hcount
      obtain rfl : k = n := by omega
      exact hends.not_within ⟨hfailed, hc, hwithin⟩

theorem overflowed_iff (h : Course s what state n r) :
    r.verdict = .overflowed ↔
      s.comparable = false ∧ (s.attempt what state 0).ending.isFailed = true := by
  obtain ⟨closing, hends, -⟩ := h.ended
  constructor
  · intro hv
    rw [hv] at hends
    generalize r.failures = failures at hends
    cases hends with
    | overflowed he hc =>
      obtain rfl := h.eq_zero_of_incomparable hc
      rw [he]
      exact ⟨hc, rfl⟩
  · rintro ⟨hc, hfailed⟩
    obtain rfl := h.eq_zero_of_incomparable hc
    generalize r.verdict = verdict, r.failures = failures at hends
    cases hends with
    | finished he | escaped he =>
      rw [he] at hfailed
      cases hfailed
    | gaveUp he hcomparable ho =>
      rw [hc] at hcomparable
      cases hcomparable
    | overflowed => rfl

/-- A last run that failed has been given up on. -/
theorem gaveUp_of_failed (h : Course s what state n r)
    (hfailed : (s.attempt what state n).ending.isFailed = true) (hc : s.comparable = true) :
    r.verdict = .gaveUp ∧ r.failures = n + 1 := by
  obtain ⟨closing, hends, -⟩ := h.ended
  generalize r.verdict = verdict, r.failures = failures at hends ⊢
  cases hends with
  | finished he | escaped he =>
    rw [he] at hfailed
    cases hfailed
  | gaveUp => exact ⟨rfl, rfl⟩
  | overflowed he hcomparable =>
    rw [hc] at hcomparable
    cases hcomparable

theorem tally (h : Course s what state n r) : Tally s what state r := by
  refine ⟨h.counted, fun k hk => h.restart hk, ?balance, h.overflowed_iff⟩
  case balance =>
    obtain ⟨closing, hends, -⟩ := h.ended
    rw [h.runs, h.waits, List.length_replicate]
    generalize r.verdict = verdict, r.failures = failures at hends
    cases hends <;> exact ⟨rfl, rfl⟩

end Course

/-! ## Plans -/

section Plans

variable {runs : List (PlannedRun ε)}

/-- When the `k`-th of planned runs begins: after what those before take, and a wait after each. -/
def beginning (s : Supervisor) (runs : List (PlannedRun ε)) (k : Nat) : Binary64 :=
  (runs.take k).foldl (fun now r => now + r.elapsed + s.restartDelay) (.ofInt 0)

theorem beginning_succ {k : Nat} (h : k < runs.length) :
    s.beginning runs (k + 1) = s.beginning runs k + runs[k].elapsed + s.restartDelay := by
  rw [beginning, List.take_add_one, List.getElem?_eq_getElem h, List.foldl_append]
  rfl

theorem moment_planned {k : Nat} (h : k ≤ runs.length) :
    s.moment planned runs k = (s.beginning runs k, runs.drop k) := by
  induction k with
  | zero => rw [moment, beginning, List.take_zero, List.foldl_nil, List.drop_zero]
  | succ k ih =>
    rw [moment_succ, attempt, ih (Nat.le_of_succ_le h), List.drop_eq_getElem_cons h,
      beginning_succ h]
    rfl

theorem attempt_planned {k : Nat} (h : k < runs.length) :
    s.attempt planned runs k =
      ⟨runs[k].ending, [], s.beginning runs k + runs[k].elapsed, runs.drop (k + 1)⟩ := by
  rw [attempt, moment_planned (Nat.le_of_lt h), List.drop_eq_getElem_cons h]
  rfl

theorem attempt_planned_length :
    s.attempt planned runs runs.length = ⟨.clean, [], s.beginning runs runs.length, []⟩ := by
  rw [attempt, moment_planned (Nat.le_refl _), List.drop_length]
  rfl

theorem supervisePlan_course (s : Supervisor) (runs : List (PlannedRun ε)) :
    ∃ n ≤ runs.length, Course s planned runs n (s.supervisePlan runs) := by
  rcases superviseFor_course s planned runs (runs.length + 1) with h | ⟨n, hn, h⟩
  · have hlast := (h.restarted runs.length (Nat.lt_succ_self _)).failed
    rw [attempt_planned_length] at hlast
    cases hlast
  · exact ⟨n, Nat.le_of_lt_succ hn, h⟩

/-- A supervisor gives up after a run that failed and is over budget. -/
theorem overBudget_of_gaveUp (h : (s.supervisePlan runs).verdict = .gaveUp) :
    ∃ n < runs.length, (s.supervisePlan runs).failures = n + 1 ∧
      s.overBudget (n + 1 : Nat) (s.attempt planned runs n).time = true := by
  obtain ⟨n, hn, hcourse⟩ := supervisePlan_course s runs
  obtain ⟨closing, hends, -⟩ := hcourse.ended
  rw [h] at hends
  generalize (s.supervisePlan runs).failures = failures at hends ⊢
  cases hends with
  | gaveUp he hc ho =>
    refine ⟨n, ?_, rfl, ho⟩
    rcases Nat.lt_or_eq_of_le hn with hlt | rfl
    · exact hlt
    · rw [attempt_planned_length] at he
      cases he

end Plans

/-! ## The law of supervision -/

/-- **The course of supervisions**, whatever is supervised and however long.

* As long as each run fails within the budget, the supervision goes on; else it ends with the first
  run that does not, in the way and with the tally that the tables say.
* For planned runs, a supervision always comes to its end, and the `k`-th run ends at the time that
  those before it and itself take, with a delay after each of those before.
* What a double cannot hold is a budget of `2^1024 - 2^970` or more. -/
theorem supervision_course (s : Supervisor) :
    (∀ (σ ε : Type) (what : Supervised σ ε) (state : σ) (bound : Nat),
      Unfinished s what state bound (s.superviseFor what bound 0 (.ofInt 0) state) ∨
        ∃ n < bound, Course s what state n (s.superviseFor what bound 0 (.ofInt 0) state) ∧
          Tally s what state (s.superviseFor what bound 0 (.ofInt 0) state)) ∧
    (∀ (ε : Type) (runs : List (PlannedRun ε)),
      (∃ n ≤ runs.length, Course s planned runs n (s.supervisePlan runs) ∧
        Tally s planned runs (s.supervisePlan runs)) ∧
      (∀ (k : Nat) (h : k < runs.length), s.attempt planned runs k =
        ⟨runs[k].ending, [], s.beginning runs k + runs[k].elapsed, runs.drop (k + 1)⟩) ∧
      s.attempt planned runs runs.length = ⟨.clean, [], s.beginning runs runs.length, []⟩) ∧
    (s.comparable = true ↔
      s.maxFailuresPerMinute.natAbs + Binary64.powerOfTwo 970 < Binary64.powerOfTwo 1024) := by
  refine ⟨?course, ?plans, Binary64.isFinite_ofInt_iff _⟩
  case course =>
    intro σ ε what state bound
    rcases superviseFor_course s what state bound with h | ⟨n, hn, h⟩
    · exact Or.inl h
    · exact Or.inr ⟨n, hn, h, h.tally⟩
  case plans =>
    intro ε runs
    obtain ⟨n, hn, h⟩ := supervisePlan_course s runs
    exact ⟨⟨n, hn, h, h.tally⟩, fun k hk => attempt_planned hk, attempt_planned_length⟩

/-- One failure is within a budget of `10^309`, and it ends the supervision, with no wait and no
second run. -/
theorem huge_budget_overflows :
    let s : Supervisor := { maxFailuresPerMinute := Binary64.powerOfTen 309 }
    let r := s.supervisePlan
      [({ elapsed := .ofInt 0, ending := .failed .receiver "x" } : PlannedRun Empty)]
    ¬ s.maxFailuresPerMinute * 60 < 1 * 60 ∧ s.overBudget 1 (.ofInt 0) = false ∧
      r.verdict = .overflowed ∧ r.runs = 1 ∧ r.failures = 1 ∧ r.waits = [] := by
  decide +kernel

end Supervisor

end SubstBot
