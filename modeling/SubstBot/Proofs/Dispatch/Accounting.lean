import SubstBot.Proofs.Dispatch.Course

/-!
# `SubstBot/Proofs/Dispatch/Accounting.lean` — every message is accounted for

A handler made of a parser and a command has three places from which it answers: the request cannot
be parsed, the command fails, the command gives a result. If parser and command fail with words for
the author and in no other way, these are all the ways in which such a handler takes a message, and
each hands over one answer. So **a message that is taken has one answer handed over, and any other
is recorded as dropped**. `Account` is the table of the two cases. It names the handler that took
the message with those before it, which were asked, and those after it, which were not.

The accounts of the steps add up over a run: what comes is what is answered and what is dropped,
wherever the run breaks off and whatever happens to the answers (`messages_accounted`).
-/

set_option autoImplicit false

namespace SubstBot

/-! ## Handlers that fail with words only -/

namespace Handler

/-- A parser and a command, each of which can fail with words for the author and in no other way. -/
structure Binding where
  Request : Type
  parse : Identity → Message → Except String (Option Request)
  execute : Request → Except String Outgoing

namespace Binding

def handler (b : Binding) : Handler :=
  ofCommand (fun bot m => (b.parse bot m).mapError .told) b.execute

/-- What a binding answers to a message, unless there is no request in it. -/
def answer? (b : Binding) (bot : Identity) (m : Message) : Option Outgoing :=
  match b.parse bot m with
  | .error words => some (replyTo m words)
  | .ok none => none
  | .ok (some request) =>
    match b.execute request with
    | .ok answer => some answer
    | .error words => some (replyTo m words)

/-- No request of any of these bindings is in the message. -/
def NoneAsked (bot : Identity) (m : Message) (bs : List Binding) : Prop :=
  ∀ b ∈ bs, b.parse bot m = .ok none

end Binding

end Handler

namespace Dispatch

open Handler (Binding)
open Handler.Binding (NoneAsked)

variable {bot : Identity} {m : Message}

/-! ## Records of dropped messages -/

/-- The words that a record of a dropped message begins with. -/
def dropWords : String :=
  "No handler claimed message "

/-- Whether a record says that a message was dropped. -/
def reportsDrop (r : LogRecord) : Bool :=
  r.level == .debug && r.logger == .dispatch && dropWords.toList.isPrefixOf r.text.toList

theorem reportsDrop_of_text {r : LogRecord} {rest : String} (hlevel : r.level = .debug)
    (hlogger : r.logger = .dispatch) (htext : r.text = dropWords ++ rest) :
    reportsDrop r = true := by
  have hprefix : dropWords.toList.isPrefixOf r.text.toList = true := by
    rw [htext, String.toList_append, List.isPrefixOf_iff_prefix]
    exact List.prefix_append _ _
  rw [reportsDrop, hprefix, hlevel, hlogger]
  rfl

theorem reportsDrop_droppedRecord (m : Message) : reportsDrop (droppedRecord m) = true := by
  have htext : (droppedRecord m).text = dropWords ++ (m.id.show ++ ", dropped.") :=
    String.append_assoc
  exact reportsDrop_of_text rfl rfl htext

/-- The number of drops recorded in a log. -/
def drops (logs : List LogRecord) : Nat :=
  logs.countP reportsDrop

theorem drops_append (logs logs' : List LogRecord) :
    drops (logs ++ logs') = drops logs + drops logs' :=
  List.countP_append

theorem drops_droppedRecord (m : Message) : drops [droppedRecord m] = 1 := by
  rw [drops, List.countP_singleton, reportsDrop_droppedRecord]
  rfl

/-! ## One handler -/

/-- What a binding makes of a message: it declines what is no request, and answers the rest. -/
inductive BindingResponse (b : Binding) (bot : Identity) (m : Message) : Response → Prop where
  | declined (hp : b.parse bot m = .ok none) : BindingResponse b bot m .declined
  | answered {logs : List LogRecord} {answer : Outgoing} (hp : b.parse bot m ≠ .ok none)
      (ha : b.answer? bot m = some answer) (hl : drops logs = 0) :
      BindingResponse b bot m (.answered logs answer)

theorem binding_respond (b : Binding) (bot : Identity) (m : Message) :
    BindingResponse b bot m (b.handler.respond bot m) := by
  simp only [Binding.handler, Handler.ofCommand]
  cases hp : b.parse bot m with
  | error words =>
    have ha : b.answer? bot m = some (Handler.replyTo m words) := by
      rw [Binding.answer?, hp]
    exact .answered (by simp [hp]) ha rfl
  | ok request? =>
    cases request? with
    | none => exact .declined hp
    | some request =>
      show BindingResponse b bot m
        (match b.execute request with
        | .ok answer => .answered [] answer
        | .error _ => .answered [_] _)
      cases hx : b.execute request with
      | ok answer =>
        have ha : b.answer? bot m = some answer := by
          simp only [Binding.answer?, hp, hx]
        exact .answered (by simp [hp]) ha rfl
      | error words =>
        have ha : b.answer? bot m = some (Handler.replyTo m words) := by
          simp only [Binding.answer?, hp, hx]
        exact .answered (by simp [hp]) ha rfl

theorem parse_of_declined {b : Binding} (h : b.handler.respond bot m = .declined) :
    b.parse bot m = .ok none := by
  have hresponse := binding_respond b bot m
  rw [h] at hresponse
  cases hresponse with
  | declined hp => exact hp

/-! ## One message -/

/-- **The account of a message** that is offered to handlers of bindings. -/
inductive Account (bindings : List Binding) (bot : Identity) (m : Message) (step : Step) :
    Prop where
  /-- No binding finds a request in it. It is recorded as dropped, and nothing is handed over. -/
  | dropped (hd : NoneAsked bot m bindings)
      (ho : step.offers = bindings.map fun _ => .declined)
      (hs : step.delivery = none) (hl : step.logs = [droppedRecord m])
  /-- A binding finds one, and those before it do not. Its answer is handed over, those after it are
  not asked, and no drop is recorded. -/
  | attempted {before after : List Binding} {b : Binding} {answer : Outgoing}
      {failure : Option TransportError} (hb : bindings = before ++ b :: after)
      (hd : NoneAsked bot m before) (hp : b.parse bot m ≠ .ok none)
      (ha : b.answer? bot m = some answer)
      (ho : step.offers = (before.map fun _ => .declined) ++
        [if failure.isSome then .raised else .claimed])
      (hs : step.delivery = some ⟨answer, failure⟩) (hl : drops step.logs = 0)

/-- Handlers of bindings that all decline have found no request. -/
theorem noneAsked_of_allDecline {bs : List Binding}
    (h : AllDecline bot m (bs.map Binding.handler)) : NoneAsked bot m bs := by
  intro b hb
  exact parse_of_declined (h b.handler (List.mem_map_of_mem hb))

theorem declines_map (bs : List Binding) :
    declines (bs.map Binding.handler) = bs.map fun _ => .declined := by
  rw [declines, List.map_map]
  rfl

/-- The handler that decides, among those of bindings. -/
theorem exists_binding {bindings : List Binding} {before after : List Handler} {h : Handler}
    (hs : bindings.map Binding.handler = before ++ h :: after) :
    ∃ bs b bs', bindings = bs ++ b :: bs' ∧ before = bs.map Binding.handler ∧ h = b.handler := by
  obtain ⟨bs, rest, rfl, hbefore, hrest⟩ := List.map_eq_append_iff.mp hs
  obtain ⟨b, bs', rfl, hb, -⟩ := List.map_eq_cons_iff.mp hrest
  exact ⟨bs, b, bs', rfl, hbefore.symm, hb.symm⟩

/-- The deciding handler answers, and by itself it does nothing else. -/
theorem Settled.account {bindings : List Binding} {send : Outgoing → Option TransportError}
    {step : Step} {e : Option Ending}
    (h : Settled bot m send (bindings.map Binding.handler) step e) :
    Account bindings bot m step := by
  cases h with
  | dropped hd => exact .dropped (noneAsked_of_allDecline hd) (declines_map bindings) rfl rfl
  | claimed hs hd hr | failed hs hd hr =>
    obtain ⟨bs, b, bs', -, -, rfl⟩ := exists_binding hs
    have hresponse := binding_respond b bot m
    rw [hr] at hresponse
    nomatch hresponse
  | delivered hs hd hr hsend | undelivered hs hd hr hsend =>
    obtain ⟨bs, b, bs', hbindings, rfl, rfl⟩ := exists_binding hs
    have hresponse := binding_respond b bot m
    rw [hr] at hresponse
    cases hresponse with
    | answered hp ha hl =>
      refine .attempted hbindings (noneAsked_of_allDecline hd) hp ha ?_ rfl hl
      rw [declines_map]
      rfl

/-- Each message is on one side of the account, once. -/
theorem Account.once {bindings : List Binding} {step : Step} (h : Account bindings bot m step) :
    step.delivery.toList.length + drops step.logs = 1 := by
  cases h with
  | dropped hd ho hs hl =>
    rw [hs, hl, drops_droppedRecord]
    rfl
  | attempted hb hd hp ha ho hs hl =>
    rw [hs, hl]
    rfl

/-! ## One handler's run -/

namespace Script

/-- **One handler is given a message**, when `k` answers have been handed over before, and `f` says
which fail. At most one more is handed over. -/
structure Ran (b : Binding) (bot : Identity) (m : Message) (k : Nat)
    (f : Nat → Option TransportError) (o : Offering Script) : Prop where
  attempts : o.state.tried = k ∨ o.state.tried = k + 1
  declined : o.step.offers = [.declined] ↔ o.state.tried = k
  unasked : o.step.offers = [.declined] ↔ b.parse bot m = .ok none
  claimed : o.step.offers = [.claimed] ↔ o.state.tried = k + 1 ∧ f (k + 1) = none
  raised : o.step.offers = [.raised] ↔ o.state.tried = k + 1 ∧ ∃ e, f (k + 1) = some e
  /-- What it raises is what the attempt raised. -/
  failure : ∀ e, o.ending = some e ↔
    o.state.tried = k + 1 ∧ ∃ t, f (k + 1) = some t ∧ e = .handlerFailed t

theorem ran_offer (b : Binding) (bot : Identity) (m : Message) (rs : List Receipt) (k : Nat)
    (f : Nat → Option TransportError) :
    Ran b bot m k f (offer transport bot m [b.handler] ⟨rs, k, f⟩) := by
  have hresponse := binding_respond b bot m
  rw [offer]
  generalize b.handler.respond bot m = response at hresponse ⊢
  cases hresponse with
  | declined hp =>
    refine ⟨Or.inl rfl, ?_, ?_, ?_, ?_, ?_⟩ <;> simp [hp, offer, Offering.afterDecline]
  | answered hp ha hl =>
    refine ⟨Or.inr rfl, ?_, ?_, ?_, ?_, ?_⟩ <;>
      cases hf : f (k + 1) <;> simp [hp, hf, deliver, transport, eq_comm]

/-! ## Runs -/

variable {ε : Type} {handlers : List (Handler ε)} {f : Nat → Option TransportError}

theorem Passed.settled {k k' : Nat} {ms : List Message} {steps : List Step}
    (h : Passed bot handlers f k ms steps k') {step : Step} (hs : step ∈ steps) :
    ∃ m k'', Settled bot m (fun _ => f (k'' + 1)) handlers step none := by
  induction h with
  | nil => exact absurd hs (by simp)
  | @cons k k' m ms first steps hm hms ih =>
    rcases List.mem_cons.mp hs with rfl | hs
    · exact ⟨m, k, hm⟩
    · exact ih hs

/-- A step of a run is one of a message that was settled, or it ends the run without a message. -/
theorem run_step_cases {rs : List Receipt} {k : Nat} {step : Step}
    (h : step ∈ (run bot handlers ⟨rs, k, f⟩).steps) :
    step = disconnectedStep ∨ (∃ e, step = { receipt := .failed e }) ∨
      ∃ m k' e, Settled bot m (fun _ => f (k' + 1)) handlers step e := by
  obtain ⟨ms, rest, steps, k', last, -, hpassed, hstop, hsteps, -⟩ :=
    (course_run bot handlers f rs k).shape
  rw [hsteps] at h
  rcases List.mem_append.mp h with h | h
  · obtain ⟨m, k'', hm⟩ := hpassed.settled h
    exact Or.inr (Or.inr ⟨m, k'', none, hm⟩)
  · rw [List.mem_singleton] at h
    subst h
    -- The ending is one of the run's own, so it is named before the cases of where the run stops.
    generalize next rest = r, (run bot handlers ⟨rs, k, f⟩).ending = ending at hstop
    cases hstop with
    | disconnected => exact Or.inl rfl
    | receiver => exact Or.inr (Or.inl ⟨_, rfl⟩)
    | handler hm => exact Or.inr (Or.inr ⟨_, _, _, hm⟩)

/-- What comes in a step is answered or dropped in it, and where nothing comes, neither is done. -/
theorem step_accounted {bindings : List Binding} {rs : List Receipt} {k : Nat} {step : Step}
    (h : step ∈ (run bot (bindings.map Binding.handler) ⟨rs, k, f⟩).steps) :
    step.delivery.toList.length + drops step.logs = step.message?.toList.length := by
  rcases run_step_cases h with rfl | ⟨e, rfl⟩ | ⟨m, k', e, hm⟩
  · rfl
  · rfl
  · rw [hm.message?]
    exact hm.account.once

/-- Steps whose accounts are settled one by one are settled together. -/
theorem length_messages_eq {steps : List Step}
    (h : ∀ step ∈ steps,
      step.delivery.toList.length + drops step.logs = step.message?.toList.length) :
    (steps.filterMap Step.message?).length =
      (steps.flatMap fun step => step.delivery.toList).length +
        drops (steps.flatMap Step.logs) := by
  induction steps with
  | nil => rfl
  | cons step steps ih =>
    have hstep := h step List.mem_cons_self
    have hsteps := ih fun s hs => h s (List.mem_cons_of_mem step hs)
    have hmessages : ((step :: steps).filterMap Step.message?).length =
        step.message?.toList.length + (steps.filterMap Step.message?).length := by
      cases hm : step.message? with
      | none => rw [List.filterMap_cons_none hm, Option.toList_none, List.length_nil, Nat.zero_add]
      | some m =>
        rw [List.filterMap_cons_some hm, List.length_cons, Option.toList_some,
          List.length_singleton, Nat.add_comm]
    rw [hmessages, List.flatMap_cons, List.flatMap_cons, List.length_append, drops_append]
    omega

/-- **The accounts of a run** over a script. -/
structure Accounts (bindings : List Binding) (bot : Identity) (script : Script)
    (r : Run Script) : Prop where
  /-- What is received is what the script gives, in order, as far as the run goes. -/
  received : r.steps.map Step.receipt <+: script.receipts ++ [.disconnected]
  /-- The answers handed over are the calls to send that were made. -/
  attempts : r.state.tried = script.tried + r.deliveries.length
  total : (r.steps.filterMap Step.message?).length = r.deliveries.length + drops r.logs
  /-- Nothing is both answered and dropped. -/
  apart : ∀ step ∈ r.steps, step.delivery = none ∨ drops step.logs = 0
  account : ∀ step ∈ r.steps, ∀ m, step.message? = some m → Account bindings bot m step

/-- **Every message is accounted for once.** A handler of a binding that is given a message hands
over one answer or none: none if and only if it finds no request, and then it declines; else it
claims the message or raises, as the answer is delivered or not. Over a run of any such handlers,
the messages that come are as many as the answers handed over and the drops recorded; no message has
both; and the handlers behind the one that hands over an answer are not asked. -/
theorem messages_accounted (bindings : List Binding) (bot : Identity) (script : Script) :
    (∀ (b : Binding) (m : Message),
      Ran b bot m script.tried script.failure (offer transport bot m [b.handler] script)) ∧
    Accounts bindings bot script (run bot (bindings.map Binding.handler) script) := by
  obtain ⟨rs, k, f⟩ := script
  refine ⟨fun b m => ran_offer b bot m rs k f, ⟨?received, ?attempts, ?total, ?apart, ?account⟩⟩
  case received => exact run_receipts rs k f
  case attempts => exact run_tried rs k f
  case total => exact length_messages_eq fun step hstep => step_accounted hstep
  case apart =>
    intro step hstep
    have hone := step_accounted hstep
    cases hd : step.delivery with
    | none => exact Or.inl rfl
    | some d =>
      rw [hd, Option.toList_some, List.length_singleton] at hone
      have hle : step.message?.toList.length ≤ 1 := Option.length_toList_le
      exact Or.inr (by omega)
  case account =>
    intro step hstep m hm
    rcases run_step_cases hstep with rfl | ⟨e, rfl⟩ | ⟨m', k', e, hset⟩
    · exact absurd hm (by simp [Step.message?, Receipt.message?, disconnectedStep])
    · exact absurd hm (by simp [Step.message?, Receipt.message?])
    · obtain rfl : m' = m := Option.some.inj (hset.message?.symm.trans hm)
      exact hset.account

end Script

end Dispatch

end SubstBot
