import SubstBot.Proofs.Service.Restarts
import SubstBot.Proofs.Telegram.History

/-!
# `SubstBot/Proofs/Service/Closing.lean` — a request to end is not lost

The bot is asked to end by closing its channel, and this can happen at any time: before the first
start, while someone waits, between two supervised runs. **Nothing opens a closed channel again**, and
a closed channel answers each request at once, without a look at what is queued or at whether it is
polling.

So a run over it is one step, in which nothing is offered and nothing sent (`runFor_of_closed`), and a
supervision over it is one attempt, unless starting fails (`superviseFor_of_closed`). What is queued
stays queued.
-/

set_option autoImplicit false

namespace SubstBot

namespace Service

open Telegram (Attended Channel Operation Updater)
open Dispatch (Step runFor)

/-! ## Runs over a closed channel -/

/-- The step in which a run is told that no message will come. -/
def farewell : Step where
  receipt := .disconnected
  logs := [Dispatch.disconnectedRecord]

theorem World.receive_of_closed {w : World} (hclosed : w.channel.closed = true) :
    w.receive = (.disconnected, [], w) := by
  rw [World.receive, Channel.receive, if_pos hclosed]

/-- A run over a closed channel offers nothing and sends nothing, and it changes nothing. -/
theorem runFor_of_closed {ε : Type} (bot : Identity) (handlers : List (Handler ε)) (bound : Nat)
    {w : World} (hclosed : w.channel.closed = true) :
    runFor World.transport bot handlers (bound + 1) w =
      { steps := [farewell], ending := .disconnected, state := w } := by
  have hreceive : World.transport.receive w = (.disconnected, [], w) :=
    World.receive_of_closed hclosed
  rw [runFor, hreceive]
  rfl

/-- What is left of a world when only starts have been tried on its channel: nothing has been taken
and nothing sent, and the channel is closed. -/
structure Idled (w w' : World) : Prop where
  closed : w'.channel.closed = true
  took : w.channel.Took [] w'.channel
  calls : ∃ calls, w'.calls = w.calls ++ calls ∧ ∀ c ∈ calls, c.call.isStarting = true

theorem Idled.trans {w w' w'' : World} (h : Idled w w') (h' : Idled w' w'') : Idled w w'' where
  closed := h'.closed
  took := h.took.trans h'.took
  calls := by
    obtain ⟨calls, hcalls, hstarting⟩ := h.calls
    obtain ⟨calls', hcalls', hstarting'⟩ := h'.calls
    refine ⟨calls ++ calls', ?_, ?_⟩
    · rw [hcalls', hcalls, List.append_assoc]
    · intro c hc
      exact (List.mem_append.mp hc).elim (hstarting c) (hstarting' c)

theorem idled_wait {w : World} (hclosed : w.channel.closed = true) (E : Regex.Engine)
    (settings : Settings) (d : Binary64) : Idled w ((supervised E settings).wait d w) where
  closed := hclosed
  took := .refl w.channel
  calls := by
    refine ⟨[{ call := .sleep d }], rfl, ?_⟩
    intro c hc
    rw [List.mem_singleton.mp hc]
    rfl

/-- **One run over a closed channel**: its start fails, at a price, or it says farewell and ends
regularly. -/
theorem oneRun_of_closed (E : Regex.Engine) (settings : Settings) (now : Binary64) {w : World}
    (hclosed : w.channel.closed = true) :
    Idled w (oneRun E settings now w).2.2.2 ∧
      ((∃ e, w.channel.start.1 = some e ∧ (oneRun E settings now w).1 = .failed .channel e.message ∧
          (oneRun E settings now w).2.2.2.runs = w.runs ∧
          (oneRun E settings now w).2.2.2.credit < w.credit) ∨
        w.channel.start.1 = none ∧ (oneRun E settings now w).1 = .clean ∧
          (oneRun E settings now w).2.2.2.runs = w.runs ++ [[farewell]]) := by
  have htried := (Channel.start_tried w.channel).1
  have hstart : w.channel.start.2.2.closed = true := htried.closed.trans hclosed
  have hprice := htried.lt_of_failed
  have htook := Channel.start_took w.channel
  have hcalls := Channel.start_calls w.channel
  rw [oneRun]
  generalize w.channel.start = started at hstart hprice htook hcalls ⊢
  obtain ⟨_ | e, done, ch⟩ := started
  · have hstarted : (w.after done ch).channel.closed = true := hstart
    dsimp only
    rw [Dispatch.run, runFor_of_closed _ _ _ hstarted]
    exact ⟨⟨hstart, htook, done.calls, rfl, hcalls⟩, .inr ⟨rfl, rfl, rfl⟩⟩
  · exact ⟨⟨hstart, htook, done.calls, rfl, hcalls⟩, .inl ⟨e, rfl, rfl, rfl, hprice rfl⟩⟩

/-- A supervised run whose start succeeds is the last one, and the supervision finishes. -/
theorem superviseFor_of_started (E : Regex.Engine) (settings : Settings) (bound failures : Nat)
    (now : Binary64) {w : World} (hclosed : w.channel.closed = true)
    (hstart : w.channel.start.1 = none) {s : Supervision World Rule.NumeralTooLong}
    (hs : (supervisor settings).superviseFor (supervised E settings) (bound + 1) failures now w =
      s) :
    s.verdict = .finished ∧ s.runs = 1 ∧ s.failures = failures ∧ s.waits = [] ∧
      s.state.runs = w.runs ++ [[farewell]] ∧ Idled w s.state := by
  obtain ⟨hidled, ⟨e, he, -⟩ | ⟨-, hend, hruns⟩⟩ := oneRun_of_closed E settings now hclosed
  · rw [hstart] at he
    cases he
  · subst hs
    have hattempt : (supervised E settings).attempt now w = oneRun E settings now w := rfl
    rw [Supervisor.superviseFor, hattempt]
    generalize oneRun E settings now w = attempted at hidled hend hruns ⊢
    obtain ⟨ending, logs, now', w'⟩ := attempted
    cases hend
    exact ⟨rfl, rfl, rfl, rfl, hruns, hidled⟩

/-- **A supervision over a closed channel.** It finishes with the first run whose start succeeds, or
it gives up before there is one, by its budget, unless no double can hold that. -/
theorem superviseFor_of_closed (E : Regex.Engine) (settings : Settings) {bound : Nat}
    (failures : Nat) (now : Binary64) {w : World} (hclosed : w.channel.closed = true)
    (hbound : w.credit < bound) {s : Supervision World Rule.NumeralTooLong}
    (hs : (supervisor settings).superviseFor (supervised E settings) bound failures now w = s) :
    Idled w s.state ∧
      (s.verdict = .finished ∧ s.state.runs = w.runs ++ [[farewell]] ∨
        (s.verdict = .gaveUp ∨
            s.verdict = .overflowed ∧ (supervisor settings).comparable = false) ∧
          s.state.runs = w.runs) := by
  induction bound generalizing failures now w s with
  | zero => exact absurd hbound (Nat.not_lt_zero _)
  | succ bound ih =>
    have hattempt : (supervised E settings).attempt now w = oneRun E settings now w := rfl
    obtain ⟨hidled, hend⟩ := oneRun_of_closed E settings now hclosed
    rw [Supervisor.superviseFor, hattempt] at hs
    generalize oneRun E settings now w = attempted at hidled hend hs
    obtain ⟨ending, logs, now', w'⟩ := attempted
    dsimp only at hidled hend
    rcases hend with ⟨e, -, rfl, hruns, hprice⟩ | ⟨-, rfl, hruns⟩
    · dsimp only at hs
      by_cases hbudget : (!(supervisor settings).comparable) = true
      · rw [if_pos hbudget] at hs
        rw [Bool.not_eq_true'] at hbudget
        rw [← hs]
        exact ⟨hidled, .inr ⟨.inr ⟨rfl, hbudget⟩, hruns⟩⟩
      rw [if_neg hbudget] at hs
      split at hs
      case isTrue =>
        rw [← hs]
        exact ⟨hidled, .inr ⟨.inl rfl, hruns⟩⟩
      case isFalse =>
        -- The failed start has lowered the credit, so the attempts that are left are enough.
        have hwait := idled_wait hidled.closed E settings
          (supervisor settings).restartDelay
        obtain ⟨hlater, hverdict⟩ := ih (failures + 1) _ hwait.closed
          (Nat.lt_of_lt_of_le hprice (Nat.le_of_lt_succ hbound)) rfl
        rw [← hs, ← hruns]
        exact ⟨(hidled.trans hwait).trans hlater, hverdict⟩
    · rw [← hs]
      exact ⟨hidled, .inl ⟨rfl, hruns⟩⟩

/-! ## Closing at any time -/

/-- **A channel at which the bot comes to its end**, whatever is queued and whether or not it is
polling. -/
structure Final (ch : Channel) : Prop where
  /-- Who asks for a message is told at once that none will come, and nothing is changed by it. -/
  receive : (⟨ch, false⟩ : Attended).perform .receive =
    ({ reception := some (.ended .disconnected) }, ⟨ch, false⟩)
  /-- A run of the dispatch loop, or the rest of one, ends regularly and in one step: nothing is
  offered and nothing sent, and the world is left as it was. -/
  dispatch : ∀ {ε : Type} (bot : Identity) (handlers : List (Handler ε)) (bound : Nat) (w : World),
    w.channel = ch →
      runFor World.transport bot handlers (bound + 1) w =
        { steps := [farewell], ending := .disconnected, state := w }
  /-- A supervised run whose start succeeds is the last one of its supervision, which finishes with
  no update taken and nothing sent. -/
  started : ∀ (E : Regex.Engine) (settings : Settings) (bound failures : Nat) (now : Binary64)
    (w : World) (s : Supervision World Rule.NumeralTooLong), w.channel = ch → ch.start.1 = none →
      (supervisor settings).superviseFor (supervised E settings) (bound + 1) failures now w = s →
      s.verdict = .finished ∧ s.runs = 1 ∧ s.failures = failures ∧ s.waits = [] ∧
        s.state.runs = w.runs ++ [[farewell]] ∧ Idled w s.state
  /-- Where starts fail first, the supervision finishes with the first that succeeds, or its budget
  is spent before, unless no double can hold that. -/
  supervised : ∀ (E : Regex.Engine) (settings : Settings) (bound failures : Nat) (now : Binary64)
    (w : World) (s : Supervision World Rule.NumeralTooLong), w.channel = ch → w.credit < bound →
      (supervisor settings).superviseFor (supervised E settings) bound failures now w = s →
      Idled w s.state ∧
        (s.verdict = .finished ∧ s.state.runs = w.runs ++ [[farewell]] ∨
          (s.verdict = .gaveUp ∨
              s.verdict = .overflowed ∧ (supervisor settings).comparable = false) ∧
            s.state.runs = w.runs)

theorem final_of_closed {ch : Channel} (hclosed : ch.closed = true) : Final ch where
  receive := Attended.perform_receive_of_closed hclosed
  dispatch := by
    rintro ε bot handlers bound w rfl
    exact runFor_of_closed bot handlers bound hclosed
  started := by
    rintro E settings bound failures now w s rfl hstart hs
    exact superviseFor_of_started E settings bound failures now hclosed hstart hs
  supervised := by
    rintro E settings bound failures now w s rfl hbound hs
    exact superviseFor_of_closed E settings failures now hclosed hbound hs

/-- **A request to end is never lost.** Whatever has been done with a channel before, closing it
answers whoever waits, and does nothing else. Whatever is done with a closed channel from then on, it
remains one at which the bot comes to its end, and all that was queued or comes in is still queued. -/
theorem close_final (updater : Updater) (pollTimeout : Int) (history : List Operation) :
    (∃ ch waiting, (Attended.created updater pollTimeout).after history = ⟨ch, waiting⟩ ∧
      (⟨ch, waiting⟩ : Attended).perform .close =
        ({ reception := if waiting then some (.ended .disconnected) else none },
          ⟨ch.close, false⟩)) ∧
    ∀ (ch : Channel) (later : List Operation), ∃ ch',
      (⟨ch.close, false⟩ : Attended).after later = ⟨ch', false⟩ ∧ Final ch' ∧
        ch'.updater.queue =
          ch.updater.queue ++ (⟨ch.close, false⟩ : Attended).arrivals later := by
  constructor
  · have hpatient := Attended.patient_after updater pollTimeout history
    generalize (Attended.created updater pollTimeout).after history = a at hpatient ⊢
    exact ⟨a.channel, a.waiting, rfl, Attended.perform_close hpatient⟩
  · intro ch later
    have hclose : ch.close.closed = true := rfl
    obtain ⟨ch', hafter, hclosed, hqueue⟩ := Attended.after_of_closed hclose later
    exact ⟨ch', hafter, final_of_closed hclosed, hqueue⟩

/-- A bot that is asked to end before it has started, with an update queued. -/
def unstarted : World where
  channel :=
    { updater :=
        { username := "sedbot"
          queue := [{ id := 1, message := some (.plain (.number 7) (.number 42) (some "one")) }] }
      closed := true }

/-- It finishes by its first run, and the update stays where it is. -/
theorem close_final_unstarted :
    let s := (supervisor { token := "token" }).superviseFor
      (supervised Backtracking.engine { token := "token" }) 1 0 (.ofInt 0) unstarted
    s.verdict = .finished ∧ s.state.runs = [[farewell]] ∧
      s.state.channel.updater.stream = unstarted.channel.updater.queue := by
  intro s
  obtain ⟨ch, hafter, hfinal, -⟩ :=
    (close_final unstarted.channel.updater 30 []).2 unstarted.channel []
  cases hafter
  obtain ⟨hverdict, -, -, -, hruns, hidled⟩ :=
    hfinal.started Backtracking.engine { token := "token" } 0 0 (.ofInt 0) unstarted s rfl rfl rfl
  exact ⟨hverdict, hruns, hidled.took.stream.symm⟩

end Service

end SubstBot
