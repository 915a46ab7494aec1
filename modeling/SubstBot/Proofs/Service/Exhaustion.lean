import SubstBot.Proofs.Dispatch.Answers
import SubstBot.Proofs.Telegram.Mishaps
import SubstBot.Service

/-!
# `SubstBot/Proofs/Service/Exhaustion.lean` — a life runs to its end

Runs are given a number of messages to ask for, and a life a number of runs, and both are more than
can be used up. A run asks for no more messages than are queued, and once more. **A run that fails has
its price**, since neither handler fails with a failure of the transport by itself: a call failed, or
polling broke off, and of these there are only so many to come.

Two things follow. With more runs than that, the life is the same (`supervised_of_le`). And a life
that ends regularly has come to the end of the queue (`supervised_finished`).
-/

set_option autoImplicit false

namespace SubstBot

/-! ## Supervision -/

namespace Supervisor

variable {σ ε : Type}

/-- What an attempt comes to: it reaches its goal, or it fails at a price and can be made again, or
it ends in a way that no supervisor answers. -/
def Priced (credit : σ → Nat) (ready goal : σ → Prop) (s : σ) : RunEnd ε → σ → Prop
  | .clean, s' => goal s'
  | .failed _ _, s' => ready s' ∧ credit s' < credit s
  | .escaped _, _ => True

variable {s : Supervisor} {what : Supervised σ ε} {credit : σ → Nat} {ready goal : σ → Prop}

/-- As long as there are more attempts than failures to come, one more makes no difference. -/
theorem superviseFor_succ
    (hattempt : ∀ now state, ready state → Priced credit ready goal state
      (what.attempt now state).1 (what.attempt now state).2.2.2)
    (hwait : ∀ d state, ready state →
      ready (what.wait d state) ∧ credit (what.wait d state) = credit state)
    (bound failures : Nat) (now : Binary64) {state : σ} (hready : ready state)
    (hbound : credit state < bound) :
    s.superviseFor what (bound + 1) failures now state =
      s.superviseFor what bound failures now state := by
  induction bound generalizing failures now state with
  | zero => exact absurd hbound (Nat.not_lt_zero _)
  | succ bound ih =>
    have hnext := hattempt now state hready
    rw [superviseFor, superviseFor]
    generalize what.attempt now state = attempted at hnext ⊢
    obtain ⟨_ | ⟨kind, message⟩ | e, logs, now', state'⟩ := attempted
    · rfl
    · obtain ⟨hready', hlt⟩ := hnext
      obtain ⟨hwaited, hsame⟩ := hwait s.restartDelay state' hready'
      dsimp only at hlt ⊢
      rw [ih (failures + 1) (now' + s.restartDelay) hwaited (by omega)]
    · rfl

theorem superviseFor_of_le
    (hattempt : ∀ now state, ready state → Priced credit ready goal state
      (what.attempt now state).1 (what.attempt now state).2.2.2)
    (hwait : ∀ d state, ready state →
      ready (what.wait d state) ∧ credit (what.wait d state) = credit state)
    {bound bound' failures : Nat} {now : Binary64} {state : σ} (hready : ready state)
    (hbound : credit state < bound) (hle : bound ≤ bound') :
    s.superviseFor what bound' failures now state =
      s.superviseFor what bound failures now state := by
  induction bound', hle using Nat.le_induction with
  | base => rfl
  | succ n hn ih =>
    rw [superviseFor_succ hattempt hwait n failures now hready (Nat.lt_of_lt_of_le hbound hn), ih]

/-- With more attempts than failures to come, a supervision finishes by reaching its goal. -/
theorem superviseFor_finished
    (hattempt : ∀ now state, ready state → Priced credit ready goal state
      (what.attempt now state).1 (what.attempt now state).2.2.2)
    (hwait : ∀ d state, ready state →
      ready (what.wait d state) ∧ credit (what.wait d state) = credit state)
    {bound failures : Nat} {now : Binary64} {state : σ} (hready : ready state)
    (hbound : credit state < bound)
    (h : (s.superviseFor what bound failures now state).verdict = .finished) :
    goal (s.superviseFor what bound failures now state).state := by
  induction bound generalizing failures now state with
  | zero => exact absurd hbound (Nat.not_lt_zero _)
  | succ bound ih =>
    have hnext := hattempt now state hready
    rw [superviseFor] at h ⊢
    generalize what.attempt now state = attempted at hnext h ⊢
    obtain ⟨_ | ⟨kind, message⟩ | e, logs, now', state'⟩ := attempted
    · exact hnext
    · obtain ⟨hready', hlt⟩ := hnext
      obtain ⟨hwaited, hsame⟩ := hwait s.restartDelay state' hready'
      dsimp only at hlt h ⊢
      by_cases hbudget : (!s.comparable) = true
      · rw [if_pos hbudget] at h
        exact absurd h (by simp)
      · rw [if_neg hbudget] at h ⊢
        by_cases hover : s.overBudget (failures + 1 : Nat) now' = true
        · rw [if_pos hover] at h
          exact absurd h (by simp)
        · rw [if_neg hover] at h ⊢
          exact ih hwaited (by omega) h
    · exact absurd h (by simp)

end Supervisor

namespace Service

open Telegram (Channel)
open Dispatch (Ending Settled offer runFor)
open Command (Limits)

/-! ## One run -/

/-- What the end of a run says of the channel, when there were `c` failures to come. -/
def Paid (c : Nat) : Ending → Channel → Prop
  | .disconnected, ch => ch.updater.queue = []
  | .crashed _, _ => True
  | _, ch => ch.closed = false ∧ ch.updater.credit < c

/-- A request to a channel that is open and has kept within the credit. -/
theorem World.receive_paid {c : Nat} {w : World} (hopen : w.channel.closed = false)
    (hc : w.channel.updater.Within c) {r : Receipt} {logs : List LogRecord} {w' : World}
    (hr : w.receive = (r, logs, w')) :
    match r with
    | .message _ => w'.channel.closed = false ∧ w'.channel.updater.Within c ∧
        w'.channel.updater.queue.length < w.channel.updater.queue.length
    | .failed e => Paid c (.receiverFailed e) w'.channel
    | .disconnected => Paid c .disconnected w'.channel := by
  obtain ⟨hclosed, hserved⟩ := Channel.receive_served hopen hc
  rw [World.receive] at hr
  generalize w.channel.receive = received at hclosed hserved hr
  obtain ⟨_ | _ | _ | e, logs', ch⟩ := received
  all_goals
    simp only [Prod.mk.injEq] at hr
    obtain ⟨rfl, -, rfl⟩ := hr
  · exact hserved
  · exact ⟨hclosed.trans hopen, hserved⟩
  · exact hserved
  · exact ⟨hclosed.trans hopen, hserved⟩

theorem offer_paid {c : Nat} {w : World} (hopen : w.channel.closed = false)
    (hc : w.channel.updater.Within c) (bot : Identity) (m : Message) (E : Regex.Engine)
    (limits : Limits) {o : Dispatch.Offering World}
    (ho : offer World.transport bot m [Handler.help, Handler.substitution E limits] w = o) :
    match o.ending with
    | none => o.state.channel.closed = false ∧ o.state.channel.updater.Within c ∧
        o.state.channel.updater.queue = w.channel.updater.queue
    | some e => Paid c e o.state.channel := by
  have hset := Dispatch.offer_settled World.transport bot m
    [Handler.help, Handler.substitution E limits] w
  have hstate := Dispatch.offer_state_eq World.transport bot m
    [Handler.help, Handler.substitution E limits] w
  rw [ho] at hset hstate
  have hkept : o.step.delivery = none → o.state = w := fun hd => by rw [hstate, hd]
  generalize hstep : o.step = step at hset hstate hkept
  generalize hending : o.ending = ending at hset
  cases hset with
  | dropped | claimed =>
    rw [hkept rfl]
    exact ⟨hopen, hc, rfl⟩
  | @delivered _ _ _ _ answer _ _ _ hsend =>
    rw [show o.state = (w.send answer).2 from hstate]
    exact ⟨hopen, hc.next .sendMessage, rfl⟩
  | @undelivered _ _ _ _ answer e _ _ _ hsend =>
    have hfailed : (w.channel.send answer).1.isSome = true := by
      rw [show (w.channel.send answer).1 = some e from hsend]
      rfl
    have hlt := (Channel.send_tried answer w.channel).lt_of_failed hfailed
    rw [show o.state = (w.send answer).2 from hstate]
    exact ⟨hopen, Nat.lt_of_lt_of_le hlt hc.le⟩
  | failed hs hd hr =>
    obtain ⟨-, -, n, rfl⟩ := Dispatch.failure_of_split hs hd hr
    trivial

/-- **A run ends with an empty queue, or at a price**, if it may ask for one message more than are
queued. -/
theorem runFor_paid {c bound : Nat} {w : World} (hopen : w.channel.closed = false)
    (hc : w.channel.updater.Within c) (hbound : w.channel.updater.queue.length < bound)
    (bot : Identity) (E : Regex.Engine) (limits : Limits) {run : Dispatch.Run World}
    (hrun : runFor World.transport bot [Handler.help, Handler.substitution E limits] bound w =
      run) : Paid c run.ending run.state.channel := by
  induction bound generalizing w run with
  | zero => exact absurd hbound (Nat.not_lt_zero _)
  | succ bound ih =>
    have hreceive : World.transport.receive w = w.receive := rfl
    rw [runFor, hreceive] at hrun
    rcases hr : w.receive with ⟨_ | _ | e, logs, w'⟩
    all_goals
      have hpaid := World.receive_paid hopen hc hr
      rw [hr] at hrun
    case message m =>
      obtain ⟨hopen', hc', hshorter⟩ := hpaid
      dsimp only at hrun
      generalize ho : offer World.transport bot m [Handler.help, Handler.substitution E limits] w' =
        o at hrun
      have hoffered := offer_paid hopen' hc' bot m E limits ho
      cases hending : o.ending with
      | some e =>
        rw [hending] at hrun hoffered
        rw [← hrun]
        exact hoffered
      | none =>
        rw [hending] at hrun hoffered
        obtain ⟨hopen'', hc'', hqueue⟩ := hoffered
        have hlater := ih hopen'' hc'' (by rw [hqueue]; omega) rfl
        rw [← hrun]
        exact hlater
    case disconnected | failed =>
      rw [← hrun]
      exact hpaid

/-! ## Whole lives -/

/-- A world whose channel has not been closed. -/
def World.Open (w : World) : Prop :=
  w.channel.closed = false

/-- A world with nothing left in the queue. -/
def World.Drained (w : World) : Prop :=
  w.channel.updater.queue = []

def World.credit (w : World) : Nat :=
  w.channel.updater.credit

theorem oneRun_priced (E : Regex.Engine) (settings : Settings) (now : Binary64) {w : World}
    (h : w.Open) :
    Supervisor.Priced World.credit World.Open World.Drained w (oneRun E settings now w).1
      (oneRun E settings now w).2.2.2 := by
  obtain ⟨htried, hwithin⟩ := Channel.start_tried w.channel
  rw [oneRun]
  generalize w.channel.start = started at htried hwithin ⊢
  obtain ⟨_ | e, done, ch⟩ := started
  · dsimp only
    generalize hrun : Dispatch.run World.transport (identity settings ch.updater.username)
      (Handler.standard E settings.matchTimeout) (w.after done ch) = run
    have hpaid := runFor_paid (htried.closed.trans h) (hwithin rfl) (Nat.lt_succ_self _) _ _ _ hrun
    obtain ⟨steps, ending, w'⟩ := run
    cases ending with
    | disconnected => exact hpaid
    | receiverFailed e => exact hpaid
    | handlerFailed e => exact hpaid
    | crashed n => trivial
  · exact ⟨htried.closed.trans h, htried.lt_of_failed rfl⟩

section Lives

variable (E : Regex.Engine) (settings : Settings) {w : World} {bound failures : Nat}
  {now : Binary64}

theorem supervised_of_le {bound' : Nat} (h : w.Open) (hbound : w.credit < bound)
    (hle : bound ≤ bound') :
    (supervisor settings).superviseFor (supervised E settings) bound' failures now w =
      (supervisor settings).superviseFor (supervised E settings) bound failures now w :=
  Supervisor.superviseFor_of_le (fun now _ => oneRun_priced E settings now)
    (fun _ _ h => ⟨h, rfl⟩) h hbound hle

theorem supervised_finished (h : w.Open) (hbound : w.credit < bound)
    (hfinished : ((supervisor settings).superviseFor (supervised E settings) bound failures now
      w).verdict = .finished) :
    ((supervisor settings).superviseFor (supervised E settings) bound failures now
      w).state.Drained :=
  Supervisor.superviseFor_finished (fun now _ => oneRun_priced E settings now)
    (fun _ _ h => ⟨h, rfl⟩) h hbound hfinished

end Lives

end Service

end SubstBot
