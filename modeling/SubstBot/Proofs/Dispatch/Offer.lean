import SubstBot.Dispatch.Run

/-!
# `SubstBot/Proofs/Dispatch/Offer.lean` — what becomes of one message

A message is offered to the handlers in their order until one of them claims it or fails. What that
comes to depends on the first handler that does not decline and, where this one answers, on whether
the answer is delivered. `Settled` is the table of the cases. It names the handlers in front of the
one that decides and the one itself, so the list of offers in it can be read off: **declined by each
handler of a prefix, and then claimed or raised by the next, or declined by all**.

`settled_iff` says that the loop over the handlers does this and nothing else, for any handlers and
over any transport. Whoever asks what a message can do asks `Settled` and does not look at the loop.
-/

set_option autoImplicit false

namespace SubstBot.Dispatch

variable {σ ε : Type} {bot : Identity} {m : Message}

/-- Every one of these handlers declines the message. -/
def AllDecline (bot : Identity) (m : Message) (hs : List (Handler ε)) : Prop :=
  ∀ h ∈ hs, h.respond bot m = .declined

/-- One declined offer for each of these handlers. -/
def declines (hs : List (Handler ε)) : List Offer :=
  hs.map fun _ => .declined

/-- **What becomes of a message** offered to `handlers`, where `send` tells what handing an answer to
the transport would give: the step that is recorded and, if the run ends with it, how. -/
inductive Settled (bot : Identity) (m : Message) (send : Outgoing → Option TransportError)
    (handlers : List (Handler ε)) : Step → Option (Ending ε) → Prop where
  /-- No handler takes the message. -/
  | dropped (hd : AllDecline bot m handlers) :
      Settled bot m send handlers
        { receipt := .message m, offers := declines handlers, logs := [droppedRecord m] } none
  /-- A handler takes it without an answer. -/
  | claimed {before after : List (Handler ε)} {h : Handler ε}
      (hs : handlers = before ++ h :: after) (hd : AllDecline bot m before)
      (hr : h.respond bot m = .claimed) :
      Settled bot m send handlers
        { receipt := .message m, offers := declines before ++ [.claimed] } none
  /-- A handler takes it and answers. -/
  | delivered {before after : List (Handler ε)} {h : Handler ε} {logs : List LogRecord}
      {answer : Outgoing} (hs : handlers = before ++ h :: after) (hd : AllDecline bot m before)
      (hr : h.respond bot m = .answered logs answer) (hsend : send answer = none) :
      Settled bot m send handlers
        { receipt := .message m, offers := declines before ++ [.claimed]
          delivery := some ⟨answer, none⟩, logs } none
  /-- A handler takes it, and its answer is not delivered. -/
  | undelivered {before after : List (Handler ε)} {h : Handler ε} {logs : List LogRecord}
      {answer : Outgoing} {e : TransportError} (hs : handlers = before ++ h :: after)
      (hd : AllDecline bot m before) (hr : h.respond bot m = .answered logs answer)
      (hsend : send answer = some e) :
      Settled bot m send handlers
        { receipt := .message m, offers := declines before ++ [.raised]
          delivery := some ⟨answer, some e⟩, logs } (some (.handlerFailed e))
  /-- A handler fails before it has anything to send. -/
  | failed {before after : List (Handler ε)} {h : Handler ε} {f : HandlerFailure ε}
      (hs : handlers = before ++ h :: after) (hd : AllDecline bot m before)
      (hr : h.respond bot m = .failed f) :
      Settled bot m send handlers
        { receipt := .message m, offers := declines before ++ [.raised] }
        (some (.ofFailure f))

/-! ## The loop over the handlers -/

theorem AllDecline.cons {h : Handler ε} {hs : List (Handler ε)} (hr : h.respond bot m = .declined)
    (hd : AllDecline bot m hs) : AllDecline bot m (h :: hs) := by
  intro b hb
  rcases List.mem_cons.mp hb with rfl | hb
  · exact hr
  · exact hd b hb

/-- One more handler in front that declines changes the offers and nothing else. -/
theorem Settled.cons_declined {send : Outgoing → Option TransportError} {h : Handler ε}
    {hs : List (Handler ε)} {step : Step} {e : Option (Ending ε)} (hr : h.respond bot m = .declined)
    (hset : Settled bot m send hs step e) :
    Settled bot m send (h :: hs) { step with offers := .declined :: step.offers } e := by
  cases hset with
  | dropped hd => exact .dropped (hd.cons hr)
  | claimed hs hd hc => exact .claimed (congrArg (h :: ·) hs) (hd.cons hr) hc
  | delivered hs hd hc hsend => exact .delivered (congrArg (h :: ·) hs) (hd.cons hr) hc hsend
  | undelivered hs hd hc hsend => exact .undelivered (congrArg (h :: ·) hs) (hd.cons hr) hc hsend
  | failed hs hd hc => exact .failed (congrArg (h :: ·) hs) (hd.cons hr) hc

theorem offer_settled (t : Transport σ) (bot : Identity) (m : Message)
    (handlers : List (Handler ε)) (s : σ) :
    Settled bot m (fun answer => (t.send answer s).1) handlers (offer t bot m handlers s).step
      (offer t bot m handlers s).ending := by
  induction handlers with
  | nil => exact .dropped fun h hh => absurd hh (by simp)
  | cons h hs ih =>
    have hd : AllDecline bot m ([] : List (Handler ε)) := fun b hb => absurd hb (by simp)
    have hfirst : h :: hs = [] ++ h :: hs := rfl
    rw [offer]
    cases hr : h.respond bot m with
    | declined => exact ih.cons_declined hr
    | claimed => exact .claimed hfirst hd hr
    | failed f => exact .failed hfirst hd hr
    | answered logs answer =>
      simp only [deliver]
      cases hsend : (t.send answer s).1 with
      | none => exact .delivered hfirst hd hr hsend
      | some e => exact .undelivered hfirst hd hr hsend

/-- Handlers in front that all decline are passed by. -/
theorem offer_append (t : Transport σ) {before : List (Handler ε)} (hd : AllDecline bot m before)
    (hs : List (Handler ε)) (s : σ) :
    offer t bot m (before ++ hs) s =
      { offer t bot m hs s with
        step :=
          { (offer t bot m hs s).step with
            offers := declines before ++ (offer t bot m hs s).step.offers } } := by
  induction before with
  | nil => rfl
  | cons h before ih =>
    have hr : h.respond bot m = .declined := hd h List.mem_cons_self
    rw [List.cons_append, offer, hr]
    simp only [ih fun b hb => hd b (List.mem_cons_of_mem h hb)]
    rfl

/-- **The loop over the handlers settles a message, and in one way only.** -/
theorem settled_iff (t : Transport σ) (handlers : List (Handler ε)) (s : σ) {step : Step}
    {e : Option (Ending ε)} :
    Settled bot m (fun answer => (t.send answer s).1) handlers step e ↔
      step = (offer t bot m handlers s).step ∧ e = (offer t bot m handlers s).ending := by
  constructor
  · intro hset
    cases hset with
    | dropped hd =>
      have ho := offer_append t hd [] s
      rw [List.append_nil] at ho
      rw [ho]
      exact ⟨by simp [offer], rfl⟩
    | claimed hs hd hr =>
      rw [hs, offer_append t hd, offer, hr]
      exact ⟨rfl, rfl⟩
    | delivered hs hd hr hsend =>
      rw [hs, offer_append t hd, offer, hr]
      simp only [deliver, hsend]
      exact ⟨rfl, rfl⟩
    | undelivered hs hd hr hsend =>
      rw [hs, offer_append t hd, offer, hr]
      simp only [deliver, hsend]
      exact ⟨rfl, rfl⟩
    | failed hs hd hr =>
      rw [hs, offer_append t hd, offer, hr]
      exact ⟨rfl, rfl⟩
  · rintro ⟨rfl, rfl⟩
    exact offer_settled t bot m handlers s

/-- The only change to the transport is that an answer was handed to it. -/
theorem offer_state_eq (t : Transport σ) (bot : Identity) (m : Message)
    (handlers : List (Handler ε)) (s : σ) :
    (offer t bot m handlers s).state =
      match (offer t bot m handlers s).step.delivery with
      | none => s
      | some d => (t.send d.answer s).2 := by
  induction handlers with
  | nil => rfl
  | cons h hs ih =>
    rw [offer]
    cases h.respond bot m with
    | declined => exact ih
    | claimed => rfl
    | answered logs answer => rfl
    | failed f => rfl

/-- The message of a step, if one came. -/
def Step.message? (s : Step) : Option Message :=
  s.receipt.message?

theorem Settled.receipt {send : Outgoing → Option TransportError} {handlers : List (Handler ε)}
    {step : Step} {e : Option (Ending ε)} (h : Settled bot m send handlers step e) :
    step.receipt = .message m := by
  cases h <;> rfl

theorem Settled.message? {send : Outgoing → Option TransportError} {handlers : List (Handler ε)}
    {step : Step} {e : Option (Ending ε)} (h : Settled bot m send handlers step e) :
    step.message? = some m := by
  rw [Step.message?, h.receipt]
  rfl

/-- A delivery is recorded with what handing over its answer gave. -/
theorem Settled.send_answer {send : Outgoing → Option TransportError} {handlers : List (Handler ε)}
    {step : Step} {e : Option (Ending ε)} (h : Settled bot m send handlers step e) {d : Delivery}
    (hd : step.delivery = some d) : send d.answer = d.failure := by
  cases h with
  | dropped | claimed | failed => exact absurd hd (by simp)
  | delivered hs hall hr hsend | undelivered hs hall hr hsend =>
    rw [Option.some.injEq] at hd
    rw [← hd]
    exact hsend

/-! ## How a handler ends a run -/

/-- The first handler that does not decline a message fails: of itself, or because its answer is not
delivered. -/
def Fails (bot : Identity) (m : Message) (handlers : List (Handler ε))
    (send : Outgoing → Option TransportError) (x : HandlerFailure ε) : Prop :=
  ∃ before h after, handlers = before ++ h :: after ∧ AllDecline bot m before ∧
    (h.respond bot m = .failed x ∨
      ∃ logs answer e, h.respond bot m = .answered logs answer ∧ send answer = some e ∧
        x = .transport e)

theorem Settled.fails {send : Outgoing → Option TransportError} {handlers : List (Handler ε)}
    {step : Step} {e : Ending ε} (h : Settled bot m send handlers step (some e)) :
    ∃ x, e = .ofFailure x ∧ Fails bot m handlers send x := by
  cases h with
  | undelivered hs hd hr hsend =>
    exact ⟨.transport _, rfl, _, _, _, hs, hd, Or.inr ⟨_, _, _, hr, hsend, rfl⟩⟩
  | failed hs hd hr => exact ⟨_, rfl, _, _, _, hs, hd, Or.inl hr⟩

theorem Fails.settled {send : Outgoing → Option TransportError} {handlers : List (Handler ε)}
    {x : HandlerFailure ε} (h : Fails bot m handlers send x) :
    ∃ step, Settled bot m send handlers step (some (.ofFailure x)) := by
  obtain ⟨before, g, after, hs, hd, hr | ⟨logs, answer, e, hr, hsend, rfl⟩⟩ := h
  · exact ⟨_, .failed hs hd hr⟩
  · exact ⟨_, .undelivered hs hd hr hsend⟩

/-- No failure of a handler is lost or taken for another. -/
theorem ofFailure_injective {x y : HandlerFailure ε} (h : Ending.ofFailure x = .ofFailure y) :
    x = y := by
  cases x with
  | transport e =>
    cases y with
    | transport e' =>
      rw [Ending.ofFailure, Ending.ofFailure, Ending.handlerFailed.injEq] at h
      rw [h]
    | other e' => exact absurd h (by simp [Ending.ofFailure])
  | other e =>
    cases y with
    | transport e' => exact absurd h (by simp [Ending.ofFailure])
    | other e' =>
      rw [Ending.ofFailure, Ending.ofFailure, Ending.crashed.injEq] at h
      rw [h]

end SubstBot.Dispatch
