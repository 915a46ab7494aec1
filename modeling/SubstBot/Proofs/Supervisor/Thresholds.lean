import Mathlib.Data.Real.Basic
import Mathlib.Tactic.NormNum
import Mathlib.Tactic.Ring
import SubstBot.Proofs.Number.Whole
import SubstBot.Proofs.Supervisor.Course

/-!
# `SubstBot/Proofs/Supervisor/Thresholds.lean` — when a supervisor gives up

With whole seconds, and as long as nothing reaches `2^53`, a supervision reckons exactly: the clock
shows the seconds of the runs and of the delays between them (`attempt_whole`), and a failure is
over budget if and only if the budget times the elapsed time, or times a minute if that is longer,
is below sixty times the number of failures (`Exact.overBudget_iff`).

What follows of a budget of `m` failures a minute is

* a floor: the first `m` failures are within it, whatever the time;
* a ceiling: when failures come faster than one in `60 / m` seconds, the one after those is not;
* a delay that is long enough to stay within it forever. The `k` failures before one have taken `k`
  delays, and `m * m * delay ≥ 60 * (m + 1)` makes `m` times that at least `60 * (k + 1)` from
  `k = m` on, where the floor ends.
-/

set_option autoImplicit false

namespace SubstBot.Supervisor

open Binary64 (powerOfTwo)

variable {ε : Type}

/-- A run that takes whole seconds. -/
structure WholeRun (ε : Type) where
  seconds : Nat
  ending : RunEnd ε

def WholeRun.planned (r : WholeRun ε) : PlannedRun ε :=
  { elapsed := .ofInt r.seconds, ending := r.ending }

theorem WholeRun.planned_elapsed (r : WholeRun ε) : r.planned.elapsed = .ofInt r.seconds := by
  rw [WholeRun.planned]

/-- When the run after `k` others ends: all of them take their time, and there are `k` delays. -/
def finish (delay : Nat) (runs : List (WholeRun ε)) (k : Nat) : Nat :=
  ((runs.take (k + 1)).map WholeRun.seconds).sum + k * delay

/-- **Whole seconds**, and neither the clock nor the budget times it reaches `2^53`. -/
structure Exact (s : Supervisor) (delay : Nat) (runs : List (WholeRun ε)) : Prop where
  waits : s.restartDelay = .ofInt delay
  clock : ∀ k < runs.length, finish delay runs k < powerOfTwo 53
  product : ∀ k < runs.length,
    s.maxFailuresPerMinute * max (finish delay runs k) 60 < powerOfTwo 53

variable {s : Supervisor} {delay : Nat} {runs : List (WholeRun ε)}

/-! ## The clock -/

theorem finish_zero (h : 0 < runs.length) : finish delay runs 0 = runs[0].seconds := by
  rw [finish, List.take_add_one, List.getElem?_eq_getElem h]
  simp

theorem finish_succ {k : Nat} (h : k + 1 < runs.length) :
    finish delay runs (k + 1) = finish delay runs k + delay + runs[k + 1].seconds := by
  unfold finish
  rw [List.take_add_one, List.getElem?_eq_getElem h, List.map_append, List.sum_append]
  simp only [Option.toList_some, List.map_cons, List.map_nil, List.sum_cons, List.sum_nil]
  rw [Nat.succ_mul]
  omega

theorem delays_le_finish (k : Nat) : k * delay ≤ finish delay runs k :=
  Nat.le_add_left _ _

theorem Exact.beginning_add (hx : Exact s delay runs) {k : Nat} (h : k < runs.length) :
    s.beginning (runs.map WholeRun.planned) k + .ofInt runs[k].seconds =
      .ofInt (finish delay runs k) := by
  induction k with
  | zero =>
    have hclock := hx.clock 0 h
    rw [finish_zero h] at hclock ⊢
    have hsum : (.ofInt (0 : Nat) + .ofInt runs[0].seconds : Binary64) = _ :=
      Binary64.add_whole (by omega)
    rw [Nat.zero_add, Nat.cast_zero] at hsum
    rw [beginning, List.take_zero, List.foldl_nil, hsum]
  | succ k ih =>
    have hk : k < runs.length := Nat.lt_of_succ_lt h
    have hlength : k < (runs.map WholeRun.planned).length := by rwa [List.length_map]
    have hclock := hx.clock (k + 1) h
    rw [finish_succ h] at hclock ⊢
    rw [beginning_succ hlength, List.getElem_map, WholeRun.planned_elapsed, ih hk, hx.waits,
      Binary64.add_whole (by omega), Binary64.add_whole hclock]

theorem attempt_whole (hx : Exact s delay runs) {k : Nat} (h : k < runs.length) :
    (s.attempt planned (runs.map WholeRun.planned) k).ending = runs[k].ending ∧
      (s.attempt planned (runs.map WholeRun.planned) k).time = .ofInt (finish delay runs k) := by
  have hlength : k < (runs.map WholeRun.planned).length := by rwa [List.length_map]
  rw [attempt_planned hlength, List.getElem_map]
  dsimp only
  rw [WholeRun.planned_elapsed, hx.beginning_add h]
  exact ⟨rfl, rfl⟩

/-! ## The budget -/

/-- A budget times a minute is exact, so the budget is. -/
theorem Exact.exists_budget (hx : Exact s delay runs) (hmax : 0 ≤ s.maxFailuresPerMinute)
    {k : Nat} (h : k < runs.length) :
    ∃ m : Nat, s.maxFailuresPerMinute = m ∧ m < powerOfTwo 53 ∧
      m * max (finish delay runs k) 60 < powerOfTwo 53 := by
  have hproduct := hx.product k h
  obtain ⟨m, hm⟩ := Int.eq_ofNat_of_zero_le hmax
  rw [hm] at hproduct
  have hexact : m * max (finish delay runs k) 60 < powerOfTwo 53 := by exact_mod_cast hproduct
  have hle : m * 1 ≤ m * max (finish delay runs k) 60 := Nat.mul_le_mul_left m (by omega)
  exact ⟨m, hm, by omega, hexact⟩

theorem Exact.comparable (hx : Exact s delay runs) (hmax : 0 ≤ s.maxFailuresPerMinute)
    {k : Nat} (h : k < runs.length) : s.comparable = true := by
  obtain ⟨m, hm, hsmall, -⟩ := hx.exists_budget hmax h
  rw [Supervisor.comparable, hm, Binary64.ofInt_whole hsmall]
  rfl

/-- **The budget is reckoned exactly.** -/
theorem Exact.overBudget_iff (hx : Exact s delay runs) (hmax : 0 ≤ s.maxFailuresPerMinute)
    {k : Nat} (h : k < runs.length) (n : Nat) :
    s.overBudget n (.ofInt (finish delay runs k)) = true ↔
      s.maxFailuresPerMinute * max (finish delay runs k) 60 < n * 60 := by
  obtain ⟨m, hm, hsmall, hproduct⟩ := hx.exists_budget hmax h
  have hclock := hx.clock k h
  have hminute : 60 < powerOfTwo 53 := by decide
  have hfloor : max (finish delay runs k) 60 < powerOfTwo 53 := max_lt hclock hminute
  have hatLeast : (Binary64.ofInt (finish delay runs k)).atLeast minute =
      .ofInt (max (finish delay runs k) 60 : Nat) :=
    Binary64.atLeast_whole hclock hminute
  rw [overBudget, allowance, hm, hatLeast, Binary64.mul_whole hsmall hfloor hproduct,
    Binary64.exceededBy_whole hproduct]
  push_cast
  rfl

/-- A supervisor gives up at a failure that is over its budget. -/
theorem Exact.exists_of_gaveUp (hx : Exact s delay runs)
    (h : (s.supervisePlan (runs.map WholeRun.planned)).verdict = .gaveUp) :
    ∃ n < runs.length, (s.supervisePlan (runs.map WholeRun.planned)).failures = n + 1 ∧
      s.overBudget (n + 1 : Nat) (.ofInt (finish delay runs n)) = true := by
  obtain ⟨n, hn, hfailures, hover⟩ := overBudget_of_gaveUp h
  rw [List.length_map] at hn
  rw [(attempt_whole hx hn).2] at hover
  exact ⟨n, hn, hfailures, hover⟩

/-! ## The floor -/

/-- **The first failures are within the budget**, whatever the time: a minute counts from the
start. -/
theorem Exact.within_of_le (hx : Exact s delay runs) {k : Nat} (h : k < runs.length) {n : Nat}
    (hn : n ≤ s.maxFailuresPerMinute) :
    s.overBudget n (.ofInt (finish delay runs k)) = false := by
  have hmax : 0 ≤ s.maxFailuresPerMinute := by omega
  have hfloor : (60 : Int) ≤ (max (finish delay runs k) 60 : Nat) := by omega
  have hminute : s.maxFailuresPerMinute * 60 ≤
      s.maxFailuresPerMinute * (max (finish delay runs k) 60 : Nat) :=
    Int.mul_le_mul_of_nonneg_left hfloor hmax
  rw [← Bool.not_eq_true, hx.overBudget_iff hmax h]
  omega

theorem Exact.lt_failures (hx : Exact s delay runs)
    (h : (s.supervisePlan (runs.map WholeRun.planned)).verdict = .gaveUp) :
    s.maxFailuresPerMinute + 1 ≤ (s.supervisePlan (runs.map WholeRun.planned)).failures := by
  obtain ⟨n, hn, hfailures, hover⟩ := hx.exists_of_gaveUp h
  rw [hfailures]
  by_contra hlow
  have hwithin := hx.within_of_le hn (n := n + 1) (by omega)
  rw [hover] at hwithin
  cases hwithin

/-! ## Fast failures -/

theorem finish_lt {m k : Nat} (hk : k < runs.length)
    (hfast : ∀ i (h : i < runs.length), i ≤ k → m * (runs[i].seconds + delay) < 60) :
    m * finish delay runs k < (k + 1) * 60 := by
  -- each run is counted with the delay behind it; the last delay is to spare
  induction k with
  | zero =>
    have hfirst := hfast 0 hk (Nat.le_refl 0)
    rw [finish_zero hk]
    rw [Nat.mul_add] at hfirst
    omega
  | succ k ih =>
    have hbefore := ih (Nat.lt_of_succ_lt hk) fun i h hi => hfast i h (Nat.le_succ_of_le hi)
    have hlast := hfast (k + 1) hk (Nat.le_refl _)
    rw [finish_succ hk, Nat.add_assoc, Nat.mul_add, Nat.add_comm delay]
    omega

/-- **With fast failures, a supervisor gives up at the first failure that it can give up at.** -/
theorem Exact.course_of_fast (hx : Exact s delay runs) {m : Nat}
    (hm : s.maxFailuresPerMinute = m) (hlength : m < runs.length)
    (hfailed : ∀ k (h : k < runs.length), k ≤ m → runs[k].ending.isFailed = true)
    (hfast : ∀ k (h : k < runs.length), k ≤ m → m * (runs[k].seconds + delay) < 60) :
    Course s planned (runs.map WholeRun.planned) m
      (s.supervisePlan (runs.map WholeRun.planned)) := by
  have hmax : 0 ≤ s.maxFailuresPerMinute := by omega
  have hover : s.overBudget (m + 1 : Nat)
      (s.attempt planned (runs.map WholeRun.planned) m).time = true := by
    have hfinish := finish_lt hlength hfast
    have hproduct : m * max (finish delay runs m) 60 < (m + 1) * 60 := by
      rcases max_choice (finish delay runs m) 60 with h | h <;> rw [h] <;> omega
    rw [(attempt_whole hx hlength).2, hx.overBudget_iff hmax hlength, hm]
    exact_mod_cast hproduct
  refine course_superviseFor ?restarts ?last ?bound
  case restarts =>
    intro k hk
    have hlt : k < runs.length := Nat.lt_trans hk hlength
    obtain ⟨hending, htime⟩ := attempt_whole hx hlt
    refine ⟨?_, hx.comparable hmax hlt, ?_⟩
    · rw [hending]
      exact hfailed k hlt (Nat.le_of_lt hk)
    · rw [htime]
      exact hx.within_of_le hlt (by omega)
  case last =>
    rintro ⟨-, -, hwithin⟩
    rw [hover] at hwithin
    cases hwithin
  case bound =>
    rw [List.length_map]
    omega

theorem Exact.gaveUp_of_fast (hx : Exact s delay runs) {m : Nat}
    (hm : s.maxFailuresPerMinute = m) (hlength : m < runs.length)
    (hfailed : ∀ k (h : k < runs.length), k ≤ m → runs[k].ending.isFailed = true)
    (hfast : ∀ k (h : k < runs.length), k ≤ m → m * (runs[k].seconds + delay) < 60) :
    (s.supervisePlan (runs.map WholeRun.planned)).verdict = .gaveUp ∧
      (s.supervisePlan (runs.map WholeRun.planned)).failures = m + 1 ∧
      (s.supervisePlan (runs.map WholeRun.planned)).runs = m + 1 := by
  have hcourse := hx.course_of_fast hm hlength hfailed hfast
  have hlast : (s.attempt planned (runs.map WholeRun.planned) m).ending.isFailed = true := by
    rw [(attempt_whole hx hlength).1]
    exact hfailed m hlength (Nat.le_refl m)
  obtain ⟨hverdict, hfailures⟩ := hcourse.gaveUp_of_failed hlast (hx.comparable (by omega) hlength)
  exact ⟨hverdict, hfailures, hcourse.runs⟩

/-! ## A long delay -/

/-- After `k` delays the next failure is within the budget: from `k = m` on because of them, and
before because of the floor. -/
theorem within_of_delay {m delay k t : Nat} (hm : 1 ≤ m) (hdelay : 60 * (m + 1) ≤ delay * m * m)
    (ht : k * delay ≤ t) : (k + 1) * 60 ≤ m * max t 60 := by
  by_cases hk : k < m
  · calc (k + 1) * 60
        ≤ m * 60 := Nat.mul_le_mul_right 60 hk
      _ ≤ m * max t 60 := Nat.mul_le_mul_left m (le_max_right t 60)
  · -- multiplied by `m`, so that the bound on the delay can be used as it is
    have hrow : m * (60 * (k + 1)) ≤ m * (m * (k * delay)) := by
      calc m * (60 * (k + 1))
          = 60 * (m * k + m) := by ring
        _ ≤ 60 * (m * k + k) := by omega
        _ = k * (60 * (m + 1)) := by ring
        _ ≤ k * (delay * m * m) := Nat.mul_le_mul_left k hdelay
        _ = m * (m * (k * delay)) := by ring
    calc (k + 1) * 60
        = 60 * (k + 1) := Nat.mul_comm _ _
      _ ≤ m * (k * delay) := Nat.le_of_mul_le_mul_left hrow hm
      _ ≤ m * max t 60 := Nat.mul_le_mul_left m (Nat.le_trans ht (le_max_left t 60))

/-- **With a delay that is long enough, a supervisor never gives up.** -/
theorem Exact.ne_gaveUp (hx : Exact s delay runs) (hmax : 1 ≤ s.maxFailuresPerMinute)
    (hdelay : 60 * (s.maxFailuresPerMinute + 1) ≤
      delay * s.maxFailuresPerMinute * s.maxFailuresPerMinute) :
    (s.supervisePlan (runs.map WholeRun.planned)).verdict ≠ .gaveUp := by
  intro h
  obtain ⟨n, hn, -, hover⟩ := hx.exists_of_gaveUp h
  obtain ⟨m, hm, -, -⟩ := hx.exists_budget (by omega) hn
  rw [hx.overBudget_iff (by omega) hn, hm] at hover
  rw [hm] at hmax hdelay
  have hdelays : (n + 1) * 60 ≤ m * max (finish delay runs n) 60 :=
    within_of_delay (by omega) (by exact_mod_cast hdelay) (delays_le_finish n)
  have hover' : m * max (finish delay runs n) 60 < (n + 1) * 60 := by exact_mod_cast hover
  omega

/-! ## The law -/

/-- **When a supervisor gives up**, in whole seconds.

* Never before the failure after as many as the budget allows in a minute.
* At just that failure, if each run up to it fails and takes, with the delay behind it, no more than
  `c` seconds, of which the budget times `c` does not make a minute.
* Never, if the delay times the square of the budget is sixty times one more than the budget. -/
theorem gaveUp_thresholds (hx : Exact s delay runs) :
    let r := s.supervisePlan (runs.map WholeRun.planned)
    (r.verdict = .gaveUp → s.maxFailuresPerMinute + 1 ≤ r.failures) ∧
    (∀ c : ℝ, 0 ≤ s.maxFailuresPerMinute → s.maxFailuresPerMinute * c < 60 →
      s.maxFailuresPerMinute < runs.length →
      (∀ k (h : k < runs.length), k ≤ s.maxFailuresPerMinute →
        runs[k].ending.isFailed = true ∧ runs[k].seconds + delay ≤ c) →
      r.verdict = .gaveUp ∧ r.failures = s.maxFailuresPerMinute + 1 ∧
        r.runs = s.maxFailuresPerMinute + 1) ∧
    (1 ≤ s.maxFailuresPerMinute → 60 * (s.maxFailuresPerMinute + 1) ≤
        delay * s.maxFailuresPerMinute * s.maxFailuresPerMinute →
      r.verdict ≠ .gaveUp) := by
  intro r
  refine ⟨hx.lt_failures, ?fast, hx.ne_gaveUp⟩
  case fast =>
    intro c hmax hc hlength hruns
    obtain ⟨m, hm⟩ := Int.eq_ofNat_of_zero_le hmax
    rw [hm] at hc hlength hruns ⊢
    have hfast : ∀ k (h : k < runs.length), k ≤ m → m * (runs[k].seconds + delay) < 60 := by
      intro k h hk
      have hle := (hruns k h (by omega)).2
      have hreal : (m : ℝ) * (runs[k].seconds + delay) < 60 := by
        calc (m : ℝ) * (runs[k].seconds + delay)
            ≤ m * c := mul_le_mul_of_nonneg_left hle (Nat.cast_nonneg m)
          _ < 60 := by exact_mod_cast hc
      exact_mod_cast hreal
    obtain ⟨hverdict, hfailures, hcount⟩ := hx.gaveUp_of_fast hm (by omega)
      (fun k h hk => (hruns k h (by omega)).1) hfast
    exact ⟨hverdict, by exact_mod_cast hfailures, by exact_mod_cast hcount⟩

/-- Three failures, each after ten seconds: a budget of two is spent at the third if the delay is 19
seconds, and is not if it is 45. -/
theorem gaveUp_thresholds_two :
    let runs : List (WholeRun Empty) := List.replicate 3 ⟨10, .failed .receiver "x"⟩
    let short : Supervisor := { maxFailuresPerMinute := 2, restartDelay := .ofInt (19 : Nat) }
    let long : Supervisor := { maxFailuresPerMinute := 2, restartDelay := .ofInt (45 : Nat) }
    Exact short 19 runs ∧ Exact long 45 runs ∧ (short.maxFailuresPerMinute : ℝ) * 29 < 60 ∧
      60 * (long.maxFailuresPerMinute + 1) ≤
        (45 : Nat) * long.maxFailuresPerMinute * long.maxFailuresPerMinute ∧
      (short.supervisePlan (runs.map WholeRun.planned)).verdict = .gaveUp ∧
      (short.supervisePlan (runs.map WholeRun.planned)).failures =
        short.maxFailuresPerMinute + 1 ∧
      (long.supervisePlan (runs.map WholeRun.planned)).verdict ≠ .gaveUp := by
  intro runs short long
  have hshort : Exact short 19 runs := ⟨by simp only [short], by decide, by decide⟩
  have hlong : Exact long 45 runs := ⟨by simp only [long], by decide, by decide⟩
  have hc : (short.maxFailuresPerMinute : ℝ) * 29 < 60 := by
    simp only [short]
    norm_num
  have hruns : ∀ k (h : k < runs.length), k ≤ short.maxFailuresPerMinute →
      runs[k].ending.isFailed = true ∧ (runs[k].seconds + (19 : Nat) : ℝ) ≤ 29 := by
    intro k h _
    have hget : runs[k] = ⟨10, .failed .receiver "x"⟩ := List.getElem_replicate _
    rw [hget]
    exact ⟨rfl, by norm_num⟩
  obtain ⟨hverdict, hfailures, -⟩ :=
    (gaveUp_thresholds hshort).2.1 29 (by decide) hc (by decide) hruns
  exact ⟨hshort, hlong, hc, by decide, hverdict, hfailures,
    (gaveUp_thresholds hlong).2.2 (by decide) (by decide)⟩

end SubstBot.Supervisor
