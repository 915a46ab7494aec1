import SubstBot.Proofs.Dispatch.Offer
import SubstBot.Proofs.Telegram.Queue
import SubstBot.Service

/-!
# `SubstBot/Proofs/Service/Ledger.lean` — every update accounted for

What happens to the updates that are taken from a channel is kept in a **ledger**: one entry for each
update, in the order in which they were taken, with the step of the run in which its message was
dispatched. `Progress` says of two worlds that a ledger leads from the one to the other: its updates
are those taken in between, the steps in it are the ones recorded, each step settles the message of
its own update, and the calls to send are the deliveries of the steps and no others.

Progress composes. So it is shown for one message and then for a run of the dispatch loop, over any
handlers, by induction on how many messages are asked for.
-/

set_option autoImplicit false

namespace SubstBot

namespace Telegram

/-- A call to send, with whether it failed. -/
def CallRecord.sent? : CallRecord → Option (Call × Bool)
  | ⟨.sendMessage chat text reply, failure⟩ => some (.sendMessage chat text reply, failure.isSome)
  | _ => none

/-- The calls that stop a channel. -/
def Call.isStopping : Call → Bool
  | .stop => true
  | .shutdown => true
  | _ => false

theorem CallRecord.sent?_of_isStarting {c : CallRecord} (h : c.call.isStarting = true) :
    c.sent? = none := by
  obtain ⟨call, failure⟩ := c
  cases call <;> first | rfl | exact absurd h Bool.false_ne_true

theorem Call.isStopping_of_isStarting {c : Call} (h : c.isStarting = true) :
    c.isStopping = false := by
  cases c <;> first | rfl | exact absurd h Bool.false_ne_true

end Telegram

/-- A delivery as the call that was made for it, with whether it failed. -/
def Dispatch.Delivery.sent (d : Dispatch.Delivery) : Telegram.Call × Bool :=
  (Telegram.Channel.sendCall d.answer, d.failure.isSome)

namespace Service

open Telegram (Channel Update CallRecord)
open Dispatch (Step Delivery Ending Settled offer runFor)

/-! ## Entries -/

/-- An update that was taken, and the step in which its message was dispatched. -/
structure Entry where
  update : Update
  step : Option Step

/-- The answer to the message of an update that was handed over for sending, if there is one. -/
def Entry.delivery? (e : Entry) : Option Delivery :=
  e.step.bind Step.delivery

/-- An update without a message has no step, and any other has one in which its own message is
settled. -/
inductive Entry.Accounted {ε : Type} (bot : Identity) (handlers : List (Handler ε)) : Entry → Prop
  where
  | passedOver {u : Update} (hu : u.toMessage? = none) : Accounted bot handlers ⟨u, none⟩
  | dispatched {u : Update} {m : Message} {send : Outgoing → Option TransportError} {step : Step}
      {e : Option (Ending ε)} {logs : List LogRecord} (hu : u.toMessage? = some m)
      (hs : Settled bot m send handlers step e) :
      Accounted bot handlers ⟨u, some { step with logs := logs ++ step.logs }⟩

/-- The entries of updates that were taken for one step. -/
def entriesOf (us : List Update) (step : Step) : List Entry :=
  us.map fun u => ⟨u, u.toMessage?.map fun _ => step⟩

theorem update_entriesOf (us : List Update) (step : Step) :
    (entriesOf us step).map Entry.update = us := by
  rw [entriesOf, List.map_map]
  exact List.map_id us

theorem step_entriesOf (us : List Update) (step : Step) :
    (entriesOf us step).filterMap Entry.step =
      (us.filterMap Update.toMessage?).map fun _ => step := by
  rw [entriesOf, List.filterMap_map, List.map_filterMap]
  rfl

theorem delivery?_entries (ledger : List Entry) :
    ledger.filterMap Entry.delivery? = (ledger.filterMap Entry.step).filterMap Step.delivery := by
  rw [List.filterMap_filterMap]
  rfl

/-! ## Progress -/

section Progress

variable {ε : Type} {bot : Identity} {handlers : List (Handler ε)}

/-- The ledger leads from the world `w` to the world `w'`, with the steps that are recorded on the
way. -/
structure Progress (bot : Identity) (handlers : List (Handler ε)) (w : World) (steps : List Step)
    (ledger : List Entry) (w' : World) : Prop where
  took : w.channel.Took (ledger.map Entry.update) w'.channel
  steps : steps.filter (fun s => s.message?.isSome) = ledger.filterMap Entry.step
  accounted : ∀ e ∈ ledger, e.Accounted bot handlers
  calls : ∃ calls, w'.calls = w.calls ++ calls ∧
    calls.filterMap CallRecord.sent? = (ledger.filterMap Entry.delivery?).map Delivery.sent ∧
    ∀ c ∈ calls, c.call.isStopping = false

theorem Progress.refl (w : World) : Progress bot handlers w [] [] w where
  took := .refl w.channel
  steps := rfl
  accounted _ he := absurd he List.not_mem_nil
  calls := ⟨[], (List.append_nil w.calls).symm, rfl, fun _ hc => absurd hc List.not_mem_nil⟩

theorem Progress.trans {w w' w'' : World} {steps steps' : List Step} {ledger ledger' : List Entry}
    (h : Progress bot handlers w steps ledger w')
    (h' : Progress bot handlers w' steps' ledger' w'') :
    Progress bot handlers w (steps ++ steps') (ledger ++ ledger') w'' where
  took := by
    rw [List.map_append]
    exact h.took.trans h'.took
  steps := by rw [List.filter_append, h.steps, h'.steps, List.filterMap_append]
  accounted e he := (List.mem_append.mp he).elim (h.accounted e) (h'.accounted e)
  calls := by
    obtain ⟨cs, hcs, hsent, hopen⟩ := h.calls
    obtain ⟨cs', hcs', hsent', hopen'⟩ := h'.calls
    refine ⟨cs ++ cs', ?_, ?_, ?_⟩
    · rw [hcs', hcs, List.append_assoc]
    · rw [List.filterMap_append, List.filterMap_append, List.map_append, hsent, hsent']
    · exact fun c hc => (List.mem_append.mp hc).elim (hopen c) (hopen' c)

/-- Nothing is taken by calls that start the channel or wait. -/
theorem Progress.of_starting {w : World} {ch : Channel} {calls : List CallRecord}
    (htook : w.channel.Took [] ch) (hcalls : ∀ c ∈ calls, c.call.isStarting = true) :
    Progress bot handlers w [] [] { w with channel := ch, calls := w.calls ++ calls } where
  took := htook
  steps := rfl
  accounted _ he := absurd he List.not_mem_nil
  calls := by
    refine ⟨calls, rfl, ?_, fun c hc => Telegram.Call.isStopping_of_isStarting (hcalls c hc)⟩
    rw [List.filterMap_eq_nil_iff.mpr fun c hc => CallRecord.sent?_of_isStarting (hcalls c hc)]
    rfl

theorem start_progress (w : World) :
    Progress bot handlers w [] [] (w.after w.channel.start.2.1 w.channel.start.2.2) :=
  .of_starting (Channel.start_took w.channel) (Channel.start_calls w.channel)

/-! ## One message -/

/-- Asking for a message changes nothing but the channel. -/
theorem World.receive_took (w : World) :
    ∃ us ch, w.receive.2.2 = { w with channel := ch } ∧ w.channel.Took us ch ∧
      us.filterMap Update.toMessage? = w.receive.1.message?.toList := by
  obtain ⟨us, htook, hmsgs⟩ := Channel.receive_took w.channel
  rw [World.receive]
  generalize w.channel.receive = r at htook hmsgs ⊢
  obtain ⟨_ | r, logs, ch⟩ := r
  · exact ⟨us, ch.close, rfl, ⟨htook.stream, htook.username⟩, hmsgs⟩
  · exact ⟨us, ch, rfl, htook, hmsgs⟩

/-- A request that brings no message takes what has none. -/
theorem Progress.of_no_message {w : World} {ch : Channel} {us : List Update} {step : Step}
    (htook : w.channel.Took us ch) (hmsgs : us.filterMap Update.toMessage? = [])
    (hstep : step.message? = none) :
    Progress bot handlers w [step] (entriesOf us step) { w with channel := ch } := by
  have hsteps : (entriesOf us step).filterMap Entry.step = [] := by
    rw [step_entriesOf, hmsgs, List.map_nil]
  refine ⟨?took, ?steps, ?accounted, [], ?calls, ?sent, fun _ hc => absurd hc List.not_mem_nil⟩
  case took =>
    rw [update_entriesOf]
    exact htook
  case steps =>
    rw [hsteps, List.filter_eq_nil_iff]
    intro s hs
    rw [List.mem_singleton.mp hs, hstep]
    exact Bool.false_ne_true
  case accounted =>
    intro e he
    obtain ⟨u, hu, rfl⟩ := List.mem_map.mp he
    have hnone := List.filterMap_eq_nil_iff.mp hmsgs u hu
    rw [hnone]
    exact .passedOver hnone
  case calls => exact (List.append_nil w.calls).symm
  case sent =>
    rw [delivery?_entries, hsteps]
    rfl

/-- An offer makes one call for the delivery of its step, or no call. -/
theorem offer_calls (bot : Identity) (m : Message) (handlers : List (Handler ε)) (w : World) :
    ∃ ch calls, (offer World.transport bot m handlers w).state =
        { w with channel := ch, calls := w.calls ++ calls } ∧
      w.channel.Took [] ch ∧
      calls.filterMap CallRecord.sent? =
        (offer World.transport bot m handlers w).step.delivery.toList.map Delivery.sent ∧
      ∀ c ∈ calls, c.call.isStopping = false := by
  have hset := Dispatch.offer_settled World.transport bot m handlers w
  rw [Dispatch.offer_state_eq]
  cases hd : (offer World.transport bot m handlers w).step.delivery with
  | none =>
    refine ⟨w.channel, [], ?_, .refl w.channel, rfl, fun _ hc => absurd hc List.not_mem_nil⟩
    rw [List.append_nil]
  | some d =>
    have hfailure : (w.channel.send d.answer).1 = d.failure := hset.send_answer hd
    obtain ⟨outcome, hcalls, hout⟩ := Channel.send_eq d.answer w.channel
    refine ⟨(w.channel.send d.answer).2.2, (w.channel.send d.answer).2.1.calls, rfl,
      Channel.send_took d.answer w.channel, ?_, ?_⟩
    · rw [hcalls, Option.toList_some, List.map_singleton, Delivery.sent, ← hfailure, hout]
      rfl
    · rw [hcalls]
      intro c hc
      rw [List.mem_singleton.mp hc]
      rfl

/-- A message that came is offered around in one step, and this step is the entry of its update. -/
theorem Progress.of_message {w : World} {ch : Channel} {us : List Update} {m : Message}
    (htook : w.channel.Took us ch) (hmsgs : us.filterMap Update.toMessage? = [m])
    (logs : List LogRecord) {o : Dispatch.Offering World ε}
    (ho : offer World.transport bot m handlers { w with channel := ch } = o) {step : Step}
    (hstep : { o.step with logs := logs ++ o.step.logs } = step) :
    Progress bot handlers w [step] (entriesOf us step) o.state := by
  have hset := Dispatch.offer_settled World.transport bot m handlers { w with channel := ch }
  obtain ⟨ch', calls, hstate, htook', hsent, hopen⟩ :=
    offer_calls bot m handlers { w with channel := ch }
  rw [ho] at hset hstate hsent
  have hsteps : (entriesOf us step).filterMap Entry.step = [step] := by
    rw [step_entriesOf, hmsgs]
    rfl
  refine ⟨?took, ?steps, ?accounted, calls, ?calls, ?sent, hopen⟩
  case took =>
    rw [update_entriesOf, hstate, ← List.append_nil us]
    exact htook.trans htook'
  case steps =>
    have hmessage : step.message? = some m := by
      rw [← hstep]
      exact hset.message?
    rw [hsteps, List.filter_eq_self]
    intro s hs
    rw [List.mem_singleton.mp hs, hmessage]
    rfl
  case accounted =>
    intro e he
    obtain ⟨u, hu, rfl⟩ := List.mem_map.mp he
    cases hum : u.toMessage? with
    | none => exact .passedOver hum
    | some m' =>
      have hmem : m' ∈ us.filterMap Update.toMessage? := List.mem_filterMap.mpr ⟨u, hu, hum⟩
      rw [hmsgs] at hmem
      rw [List.mem_singleton.mp hmem] at hum
      rw [← hstep]
      exact .dispatched hum hset
  case calls => rw [hstate]
  case sent =>
    rw [delivery?_entries, hsteps, hsent, ← hstep]
    cases hd : o.step.delivery <;> simp [hd]

/-! ## Runs -/

/-- **Every update that a run takes is accounted for**, however many messages it asks for and however
it ends. -/
theorem runFor_progress (bot : Identity) (handlers : List (Handler ε)) (bound : Nat) (w : World) :
    (∃ ledger, Progress bot handlers w (runFor World.transport bot handlers bound w).steps ledger
      (runFor World.transport bot handlers bound w).state) ∧
    (runFor World.transport bot handlers bound w).state.runs = w.runs := by
  induction bound generalizing w with
  | zero => exact ⟨⟨[], .refl w⟩, rfl⟩
  | succ bound ih =>
    obtain ⟨us, ch, hstate, htook, hmsgs⟩ := World.receive_took w
    have hreceive : World.transport.receive w = w.receive := rfl
    rw [runFor, hreceive]
    generalize w.receive = received at hstate hmsgs ⊢
    obtain ⟨r, logs, w'⟩ := received
    dsimp only at hstate hmsgs ⊢
    rw [hstate]
    cases r with
    | failed e => exact ⟨⟨_, .of_no_message htook hmsgs rfl⟩, rfl⟩
    | disconnected => exact ⟨⟨_, .of_no_message htook hmsgs rfl⟩, rfl⟩
    | message m =>
      have hruns : (offer World.transport bot m handlers { w with channel := ch }).state.runs =
          w.runs := by
        obtain ⟨_, _, ho, -⟩ := offer_calls bot m handlers { w with channel := ch }
        rw [ho]
      dsimp only
      generalize ho : offer World.transport bot m handlers { w with channel := ch } = o at hruns ⊢
      have hfirst := Progress.of_message htook hmsgs logs ho rfl
      cases o.ending with
      | some e => exact ⟨⟨_, hfirst⟩, hruns⟩
      | none =>
        obtain ⟨⟨ledger, hlater⟩, hruns'⟩ := ih o.state
        exact ⟨⟨_, hfirst.trans hlater⟩, hruns'.trans hruns⟩

end Progress

end Service

end SubstBot
