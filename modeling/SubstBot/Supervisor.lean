import SubstBot.Log
import SubstBot.Number.Decimal

/-!
# `SubstBot/Supervisor.lean` — restarting within a budget of failures

A run that ends with a failure of the transport is followed by another one after a delay, until
there have been more failures than the budget allows. The budget is a number of failures for each
minute since the start; the first minute has its full budget from the beginning. A run that ends
regularly ends the supervision, and so does one that ends in any other way.

**Failures are compared with the budget exactly.** Sixty times their number is an integer, and so
is compared as it is; the allowance is a product of doubles, rounded once. A budget that no double
can hold allows no comparison, and ends the supervision with the first failure.
-/

set_option autoImplicit false

namespace SubstBot

/-- The failures that a supervisor answers with a restart. -/
inductive FailureKind where
  | dispatch
  | receiver
  | handler
  | transport
  | channel
  deriving DecidableEq, Repr

def FailureKind.name : FailureKind → String
  | dispatch => "AppError"
  | receiver => "ReceiverError"
  | handler => "HandlerError"
  | transport => "TransportError"
  | channel => "ChannelError"

/-- How a supervised run ended; `ε` is whatever no supervisor answers. -/
inductive RunEnd (ε : Type) where
  | clean
  | failed (kind : FailureKind) (message : String)
  | escaped (e : ε)
  deriving DecidableEq, Repr

/-- What is supervised: how a run from a state goes, given the time at which it begins. -/
structure Supervised (σ ε : Type) where
  /-- How the run ends, what is logged, when it ends, and the state it leaves. -/
  attempt : Binary64 → σ → RunEnd ε × List LogRecord × Binary64 × σ
  /-- Tell the state that time is spent waiting. -/
  wait : Binary64 → σ → σ

/-- A budget of failures and the delay before a restart, in seconds. -/
structure Supervisor where
  maxFailuresPerMinute : Int := 30
  restartDelay : Binary64 := .ofInt 1
  deriving DecidableEq, Repr

inductive Verdict (ε : Type) where
  | finished
  | gaveUp
  | escaped (e : ε)
  /-- The budget is too large for a double, so the failures could not be compared with it. -/
  | overflowed
  deriving DecidableEq, Repr

structure Supervision (σ ε : Type) where
  verdict : Verdict ε
  runs : Nat
  failures : Nat
  waits : List Binary64
  logs : List LogRecord
  state : σ

namespace Supervisor

/-- A minute, in seconds: elapsed time counts as no less. -/
def minute : Binary64 := .ofInt 60

/-- The failures that `elapsed` seconds allow, times sixty. -/
def allowance (s : Supervisor) (elapsed : Binary64) : Binary64 :=
  Binary64.ofInt s.maxFailuresPerMinute * elapsed.atLeast minute

/-- Whether there have been more failures than `elapsed` seconds allow. -/
def overBudget (s : Supervisor) (failures : Int) (elapsed : Binary64) : Bool :=
  (s.allowance elapsed).exceededBy (failures * 60)

/-- Whether a double can hold the budget, as it must to be multiplied by a time. -/
def comparable (s : Supervisor) : Bool :=
  (Binary64.ofInt s.maxFailuresPerMinute).isFinite

/-- What is reported of a budget that is too large. -/
def overflowText : String := "int too large to convert to float"

def failureRecord (kind : FailureKind) (message : String) : LogRecord :=
  ⟨.error, .supervisor, "Run failed (" ++ kind.name ++ "): " ++ message⟩

def gaveUpRecord (s : Supervisor) (failures : Nat) : LogRecord :=
  ⟨.critical, .supervisor, "Exiting: " ++ toString failures ++ " failures exceed " ++
    toString s.maxFailuresPerMinute ++ " per minute"⟩

def restartRecord (s : Supervisor) (failures : Nat) : LogRecord :=
  ⟨.warning, .supervisor, "Restarting in " ++ s.restartDelay.text ++ "s (failure #" ++
    toString failures ++ ")..."⟩

def finishedRecord : LogRecord :=
  ⟨.info, .supervisor, "Disconnected without errors."⟩

/-- Supervise at most `bound` runs, after a number of failures, from a time since the start. -/
def superviseFor {σ ε : Type} (s : Supervisor) (what : Supervised σ ε) :
    (bound failures : Nat) → Binary64 → σ → Supervision σ ε
  | 0, failures, _, state =>
    { verdict := .finished, runs := 0, failures, waits := [], logs := [], state }
  | bound + 1, failures, now, state =>
    match what.attempt now state with
    | (.clean, logs, _, state) =>
      { verdict := .finished, runs := 1, failures, waits := []
        logs := logs ++ [finishedRecord], state }
    | (.escaped e, logs, _, state) =>
      { verdict := .escaped e, runs := 1, failures, waits := [], logs, state }
    | (.failed kind message, logs, now, state) =>
      let failures := failures + 1
      let logs := logs ++ [failureRecord kind message]
      if !s.comparable then
        { verdict := .overflowed, runs := 1, failures, waits := [], logs, state }
      else if s.overBudget failures now then
        { verdict := .gaveUp, runs := 1, failures, waits := []
          logs := logs ++ [s.gaveUpRecord failures], state }
      else
        let r := superviseFor s what bound failures (now + s.restartDelay)
          (what.wait s.restartDelay state)
        { r with
          runs := r.runs + 1
          waits := s.restartDelay :: r.waits
          logs := logs ++ s.restartRecord failures :: r.logs }

/-- A run that is known beforehand: how long it takes and how it ends. -/
structure PlannedRun (ε : Type) where
  elapsed : Binary64
  ending : RunEnd ε

/-- Runs that are known beforehand, one after another; when there are no more, they end regularly
at once. -/
def planned {ε : Type} : Supervised (List (PlannedRun ε)) ε where
  attempt now runs :=
    match runs with
    | [] => (.clean, [], now, [])
    | r :: rs => (r.ending, [], now + r.elapsed, rs)
  wait _ runs := runs

def supervisePlan {ε : Type} (s : Supervisor) (runs : List (PlannedRun ε)) :
    Supervision (List (PlannedRun ε)) ε :=
  s.superviseFor planned (runs.length + 1) 0 (.ofInt 0) runs

end Supervisor

end SubstBot
