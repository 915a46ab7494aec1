import Mathlib.Data.List.Basic
import SubstBot.Proofs.Service.Exhaustion
import SubstBot.Proofs.Service.Ledger

/-!
# `SubstBot/Proofs/Service/Restarts.lean` — updates across restarts

The bot is restarted after every failure, and a run can end at any call that it makes. The channel
stays the same through all of it, and this is why no update is lost and none is handled twice: a run
begins with the stream of updates that the run before has left.

The life of the bot is looked at in the middle as well as at its end. `after` is the world after so
many runs, and `dispatching` the world in the middle of the next one; **at each of these moments
there is a ledger in which every update that was taken is accounted for** (`Balanced`). The whole
life comes down to the same: it ends in one of these worlds, and only then is the channel stopped.
-/

set_option autoImplicit false

namespace SubstBot

/-- What every attempt and every wait keep, a whole supervision keeps. -/
theorem Supervisor.superviseFor_keeps {σ ε : Type} {s : Supervisor} {what : Supervised σ ε}
    {P : σ → Prop} (hattempt : ∀ now state, P state → P (what.attempt now state).2.2.2)
    (hwait : ∀ d state, P state → P (what.wait d state)) (bound failures : Nat) (now : Binary64)
    {state : σ} (h : P state) : P (s.superviseFor what bound failures now state).state := by
  induction bound generalizing failures now state with
  | zero => exact h
  | succ bound ih =>
    have hnext := hattempt now state h
    rw [superviseFor]
    generalize what.attempt now state = attempted at hnext ⊢
    obtain ⟨_ | ⟨kind, message⟩ | e, logs, now', state'⟩ := attempted
    · exact hnext
    · dsimp only
      split
      · exact hnext
      · split
        · exact hnext
        · exact ih _ _ (hwait _ _ hnext)
    · exact hnext

namespace Service

open Telegram (Channel Updater Update Call CallRecord)
open Dispatch (Step Delivery Outcome runFor)

/-! ## Moments -/

/-- The world after at most `attempts` supervised runs, the wait before the next one included. -/
def after (E : Regex.Engine) (settings : Settings) (updater : Updater) (attempts : Nat) : World :=
  ((supervisor settings).superviseFor (supervised E settings) attempts 0 (.ofInt 0)
    (opened settings updater)).state

/-- The world in the middle of a run that begins in `w`: the channel has been started, and unless
this failed, at most `asked` messages have been asked for. -/
def dispatching (E : Regex.Engine) (settings : Settings) (asked : Nat) (w : World) : World :=
  match w.channel.start with
  | (some _, done, ch) => w.after done ch
  | (none, done, ch) =>
    let run := runFor World.transport (identity settings ch.updater.username)
      (Handler.standard E settings.matchTimeout) asked (w.after done ch)
    { run.state with runs := run.state.runs ++ [run.steps] }

/-- A whole run is one that has asked for as many messages as can come and once more. -/
theorem oneRun_state (E : Regex.Engine) (settings : Settings) (now : Binary64) (w : World) :
    (oneRun E settings now w).2.2.2 =
      dispatching E settings (w.channel.start.2.2.updater.queue.length + 1) w := by
  rw [oneRun, dispatching]
  rcases w.channel.start with ⟨_ | e, done, ch⟩ <;> rfl

/-! ## Ledgers of a world -/

/-- A ledger leads to the world from the one in which the channel has just been opened. -/
def HasLedger (E : Regex.Engine) (settings : Settings) (updater : Updater) (w : World) : Prop :=
  ∃ ledger, Progress (identity settings updater.username)
    (Handler.standard E settings.matchTimeout) (opened settings updater) w.runs.flatten ledger w

variable {E : Regex.Engine} {settings : Settings} {updater : Updater} {w : World}

theorem dispatching_hasLedger (h : HasLedger E settings updater w) (asked : Nat) :
    HasLedger E settings updater (dispatching E settings asked w) := by
  obtain ⟨ledger, h⟩ := h
  have hstart := h.trans (start_progress w)
  rw [dispatching]
  generalize w.channel.start = started at hstart ⊢
  obtain ⟨_ | e, done, ch⟩ := started
  · -- The name that Telegram knows the bot by is the one from the beginning.
    have hname : ch.updater.username = updater.username := hstart.took.username
    obtain ⟨⟨ledger', hrun⟩, hruns⟩ := runFor_progress (identity settings updater.username)
      (Handler.standard E settings.matchTimeout) asked (w.after done ch)
    have hall := hstart.trans hrun
    dsimp only
    rw [hname]
    generalize runFor World.transport (identity settings updater.username)
      (Handler.standard E settings.matchTimeout) asked (w.after done ch) = run at hruns hall ⊢
    have hflat : (run.state.runs ++ [run.steps]).flatten = w.runs.flatten ++ [] ++ run.steps := by
      rw [hruns, List.flatten_concat, List.append_nil]
      rfl
    refine ⟨ledger ++ [] ++ ledger', ?_⟩
    rw [hflat]
    exact ⟨hall.took, hall.steps, hall.accounted, hall.calls⟩
  · rw [List.append_nil] at hstart
    exact ⟨_, hstart⟩

theorem after_hasLedger (E : Regex.Engine) (settings : Settings) (updater : Updater)
    (attempts : Nat) : HasLedger E settings updater (after E settings updater attempts) := by
  refine Supervisor.superviseFor_keeps ?attempt ?wait _ _ _ ⟨[], .refl _⟩
  case attempt =>
    intro now w h
    have hrun : ((supervised E settings).attempt now w).2.2.2 = _ := oneRun_state E settings now w
    rw [hrun]
    exact dispatching_hasLedger h _
  case wait =>
    rintro d w ⟨ledger, h⟩
    have hsleep : ∀ c ∈ [({ call := .sleep d } : CallRecord)], c.call.isStarting = true := by
      intro c hc
      rw [List.mem_singleton.mp hc]
      rfl
    have hall := h.trans (.of_starting (.refl w.channel) hsleep)
    rw [List.append_nil] at hall
    exact ⟨_, hall⟩

/-! ## Balanced ledgers -/

/-- What an entry of a ledger says of its update: without a text it was passed over; with a text the
message in it was dispatched in one step, and the step tells what became of it. -/
inductive Entry.Told (E : Regex.Engine) (settings : Settings) (bot : Identity) : Entry → Prop where
  | passedOver {u : Update} (hu : u.toMessage? = none) : Told E settings bot ⟨u, none⟩
  | dispatched {u : Update} {m : Message} {step : Step} (hu : u.toMessage? = some m)
      (hm : step.message? = some m)
      (ho : Outcome E { timeout := settings.matchTimeout } bot m step) :
      Told E settings bot ⟨u, some step⟩

/-- **The account of a world.** The updates of the ledger followed by those still to come are the
ones from the beginning. The messages that were offered, over all runs so far, are the ones in the
updates of the ledger; the step of each is in the ledger once, and it tells what became of its own
update. The calls to send are the deliveries in the ledger, so there is at most one for each update,
and the channel has not been stopped. -/
structure Balanced (E : Regex.Engine) (settings : Settings) (updater : Updater) (w : World)
    (ledger : List Entry) : Prop where
  taken : ledger.map Entry.update ++ w.channel.updater.stream = updater.stream
  offered : w.runs.flatten.filterMap Step.message? =
    (ledger.map Entry.update).filterMap Update.toMessage?
  steps : w.runs.flatten.filter (fun s => s.message?.isSome) = ledger.filterMap Entry.step
  told : ∀ e ∈ ledger, e.Told E settings (identity settings updater.username)
  sent : w.calls.filterMap CallRecord.sent? =
    (ledger.filterMap Entry.delivery?).map Delivery.sent
  unstopped : ∀ c ∈ w.calls, c.call.isStopping = false

theorem Entry.Accounted.told {e : Entry} {bot : Identity}
    (h : e.Accounted bot (Handler.standard E settings.matchTimeout)) : e.Told E settings bot := by
  cases h with
  | passedOver hu => exact .passedOver hu
  | @dispatched u m send step ending logs hu hs =>
    refine .dispatched hu hs.message? ?_
    -- What was logged while the message was asked for does not bear on its outcome.
    cases Dispatch.Settled.outcome hs with
    | dropped hr hp hd ho => exact .dropped hr hp hd ho
    | replied ha hd ho => exact .replied ha hd ho
    | unsent ha hd ho => exact .unsent ha hd ho
    | crashed h hd ho => exact .crashed h hd ho

/-- The message of an entry's step is the one in its update. -/
theorem Entry.Told.message? {e : Entry} {bot : Identity} (h : e.Told E settings bot) :
    e.step.bind Step.message? = e.update.toMessage? := by
  cases h with
  | passedOver hu => exact hu.symm
  | dispatched hu hm ho => exact hm.trans hu.symm

theorem HasLedger.balanced (h : HasLedger E settings updater w) :
    ∃ ledger, Balanced E settings updater w ledger := by
  obtain ⟨ledger, h⟩ := h
  have htold : ∀ e ∈ ledger, e.Told E settings (identity settings updater.username) :=
    fun e he => (h.accounted e he).told
  obtain ⟨calls, hcalls, hsent, hopen⟩ := h.calls
  refine ⟨ledger, h.took.stream.symm, ?offered, h.steps, htold, ?sent, ?unstopped⟩
  case offered =>
    calc w.runs.flatten.filterMap Step.message?
        = (w.runs.flatten.filter fun s => s.message?.isSome).filterMap Step.message? := by
          rw [List.filterMap_filter]
          congr 1
          funext s
          cases s.message? <;> rfl
      _ = ledger.filterMap fun e => e.step.bind Step.message? := by
          rw [h.steps, List.filterMap_filterMap]
      _ = ledger.filterMap fun e => e.update.toMessage? :=
          List.filterMap_congr fun e he => (htold e he).message?
      _ = (ledger.map Entry.update).filterMap Update.toMessage? := by
          rw [List.filterMap_map]
          rfl
  case sent =>
    rw [hcalls, List.filterMap_append, hsent]
    rfl
  case unstopped =>
    rw [hcalls]
    intro c hc
    rcases List.mem_append.mp hc with hc | hc
    · rw [List.mem_singleton.mp hc]
      rfl
    · exact hopen c hc

/-! ## The whole life -/

/-- A connection that has not polled yet: what is queued, and all that will come from outside. -/
def fresh (username : String) (queue : List Update) (outcomes : Telegram.Outcomes)
    (sessions : List Telegram.Session) : Updater :=
  { username, queue, outcomes, sessions }

theorem fresh_credit (settings : Settings) (username : String) (queue : List Update)
    (outcomes : Telegram.Outcomes) (sessions : List Telegram.Session) :
    (opened settings (fresh username queue outcomes sessions)).credit =
      (fresh username queue outcomes sessions).mishaps :=
  Nat.add_zero _

/-- A life is over after `attempts` runs: it is the same however many more it is given. When it ends
regularly, nothing is left in the queue. However it ends, the channel is stopped then. -/
structure Over (E : Regex.Engine) (settings : Settings) (updater : Updater) (attempts : Nat) :
    Prop where
  same : ∀ n, attempts ≤ n → after E settings updater n = after E settings updater attempts
  runs : (run E settings updater).runs = (after E settings updater attempts).runs
  stopped : ∃ closing,
    (run E settings updater).calls = (after E settings updater attempts).calls ++ closing ∧
      closing.map CallRecord.call = (after E settings updater attempts).channel.stopCalls
  drained : (run E settings updater).verdict = .finished →
    (after E settings updater attempts).channel.updater.queue = []

theorem fresh_over (E : Regex.Engine) (settings : Settings) (username : String)
    (queue : List Update) (outcomes : Telegram.Outcomes) (sessions : List Telegram.Session) :
    Over E settings (fresh username queue outcomes sessions)
      ((fresh username queue outcomes sessions).mishaps + 1) := by
  have hcredit := fresh_credit settings username queue outcomes sessions
  generalize fresh username queue outcomes sessions = updater at hcredit ⊢
  have hopen : (opened settings updater).Open := rfl
  have hbound : (opened settings updater).credit < updater.mishaps + 1 := by omega
  refine ⟨fun n hn => ?same, rfl, ⟨_, rfl, ?closing⟩, fun hfinished => ?drained⟩
  case same => rw [after, supervised_of_le E settings hopen hbound hn, after]
  case closing => exact Channel.stop_calls (after E settings updater (updater.mishaps + 1)).channel
  case drained => exact supervised_finished E settings hopen hbound hfinished

/-- **Updates across restarts.** Whatever the queue holds and however the calls end, at every moment
of every run there is a ledger in which each update that was taken is accounted for. The life of the
bot comes to an end in one of these worlds, with whichever verdict, and the calls that stop the
channel are made there and nowhere before. -/
theorem updates_across_restarts (E : Regex.Engine) (settings : Settings) (username : String)
    (queue : List Update) (outcomes : Telegram.Outcomes) (sessions : List Telegram.Session) :
    (∀ attempts,
      (∃ ledger, Balanced E settings (fresh username queue outcomes sessions)
        (after E settings (fresh username queue outcomes sessions) attempts) ledger) ∧
      ∀ asked, ∃ ledger, Balanced E settings (fresh username queue outcomes sessions)
        (dispatching E settings asked
          (after E settings (fresh username queue outcomes sessions) attempts)) ledger) ∧
    ∃ attempts, Over E settings (fresh username queue outcomes sessions) attempts := by
  refine ⟨fun attempts => ⟨?between, fun asked => ?during⟩, _, fresh_over E settings _ _ _ _⟩
  case between => exact (after_hasLedger E settings _ attempts).balanced
  case during =>
    exact (dispatching_hasLedger (after_hasLedger E settings _ attempts) asked).balanced

end Service

end SubstBot
