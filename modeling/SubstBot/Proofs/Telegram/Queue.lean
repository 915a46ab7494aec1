import SubstBot.Telegram.Channel

/-!
# `SubstBot/Proofs/Telegram/Queue.lean` — what a channel does with its updates

A channel gives its updates away one after another, and there are two sources for them: the queue,
and the periods of polling that are still to begin. `Updater.stream` puts them in the one order in
which they will be taken, and **`Took` says that a row of updates was taken from the front of the
stream and that nothing else happened to it**. Starting moves updates from one source to the other
and takes none; a call takes none; a request for a message takes those up to the first with a text.

The second half is about calls: which ones starting and stopping make, and the one that a message
sent makes.
-/

set_option autoImplicit false

namespace SubstBot.Telegram

/-! ## The stream of updates -/

namespace Updater

/-- The updates to come: those in the queue, and then those of the periods of polling to come. -/
def stream (u : Updater) : List Update :=
  u.queue ++ u.sessions.flatMap Session.updates

/-- Whether polling has broken off makes no difference to what is queued. -/
theorem settle_eq (u : Updater) :
    ∃ running dies, u.settle = { u with running, dies } := by
  rw [settle]
  split
  · exact ⟨_, _, rfl⟩
  · exact ⟨u.running, u.dies, rfl⟩

theorem stream_started (u : Updater) : u.started.stream = u.stream := by
  rw [started]
  split
  case h_1 => rfl
  case h_2 s rest hs =>
    obtain ⟨running, dies, h⟩ := settle_eq
      { u with running := true, queue := u.queue ++ s.updates, sessions := rest, dies := s.dies }
    rw [h, stream, stream, hs, List.flatMap_cons, List.append_assoc]

theorem username_started (u : Updater) : u.started.username = u.username := by
  rw [started]
  split
  case h_1 => rfl
  case h_2 s rest hs =>
    obtain ⟨running, dies, h⟩ := settle_eq
      { u with running := true, queue := u.queue ++ s.updates, sessions := rest, dies := s.dies }
    rw [h]

end Updater

namespace Channel

/-- Between the two channels the updates `us` were taken from the front of the stream. -/
structure Took (ch : Channel) (us : List Update) (ch' : Channel) : Prop where
  stream : ch.updater.stream = us ++ ch'.updater.stream
  username : ch'.updater.username = ch.updater.username

theorem Took.refl (ch : Channel) : Took ch [] ch :=
  ⟨rfl, rfl⟩

theorem Took.trans {ch ch' ch'' : Channel} {us vs : List Update} (h : Took ch us ch')
    (h' : Took ch' vs ch'') : Took ch (us ++ vs) ch'' where
  stream := by rw [h.stream, h'.stream, List.append_assoc]
  username := h'.username.trans h.username

theorem next_took (ch : Channel) (m : Method) : Took ch [] (ch.next m).2 :=
  ⟨rfl, rfl⟩

/-! ## Starting takes nothing -/

theorem contactFrom_took (ch : Channel) (attempt : Nat) (delays : List Nat) :
    Took ch [] (ch.contactFrom attempt delays).2.2 := by
  induction delays generalizing ch attempt with
  | nil =>
    have hnext := next_took ch .contact
    rw [contactFrom]
    generalize ch.next .contact = r at hnext ⊢
    obtain ⟨_ | e, ch'⟩ := r
    · exact ⟨hnext.stream, hnext.username⟩
    · exact hnext
  | cons delay delays ih =>
    have hnext := next_took ch .contact
    rw [contactFrom]
    generalize ch.next .contact = r at hnext ⊢
    obtain ⟨_ | e, ch'⟩ := r
    · exact ⟨hnext.stream, hnext.username⟩
    · dsimp only
      split
      · exact hnext.trans (ih _ _)
      · exact hnext

theorem contact_took (ch : Channel) : Took ch [] ch.contact.2.2 := by
  rw [contact]
  split
  · exact .refl ch
  · exact contactFrom_took ch 1 initDelays

theorem startPolling_took (ch : Channel) : Took ch [] ch.startPolling.2.2 := by
  have hnext := next_took ch .startPolling
  rw [startPolling]
  generalize ch.next .startPolling = r at hnext ⊢
  obtain ⟨_ | e, ch'⟩ := r
  · exact hnext.trans ⟨(Updater.stream_started _).symm, Updater.username_started _⟩
  · exact hnext

theorem start_took (ch : Channel) : Took ch [] ch.start.2.2 := by
  rw [start]
  split
  · exact .refl ch
  · have hc := contact_took ch
    generalize ch.contact = r at hc
    obtain ⟨_ | e, done, ch'⟩ := r
    · exact hc.trans (startPolling_took ch')
    · exact hc

/-! ## Asking for a message -/

theorem taken_took {ch : Channel} {u : Update} {rest : List Update}
    (h : ch.updater.queue = u :: rest) : Took ch [u] (ch.taken rest) := by
  obtain ⟨running, dies, hs⟩ := Updater.settle_eq { ch.updater with queue := rest }
  constructor
  · rw [taken, Updater.taken, hs, Updater.stream, Updater.stream, h]
    rfl
  · rw [taken, Updater.taken, hs]

theorem queue_taken (ch : Channel) (rest : List Update) : (ch.taken rest).updater.queue = rest := by
  obtain ⟨running, dies, hs⟩ := Updater.settle_eq { ch.updater with queue := rest }
  rw [taken, Updater.taken, hs]

/-- **What is taken for a receipt.** Of the updates that are taken, the last becomes the message and
those in front of it none; with no message to give, all that are queued are taken, and none of them
has one. -/
theorem takeFrom_took {ch : Channel} {queue : List Update} (h : ch.updater.queue = queue) :
    ∃ us, Took ch us (ch.takeFrom queue).2.2 ∧
      us.filterMap Update.toMessage? =
        ((ch.takeFrom queue).1.bind Receipt.message?).toList := by
  induction queue generalizing ch with
  | nil =>
    refine ⟨[], .refl ch, ?_⟩
    rw [takeFrom, whenEmpty]
    split <;> rfl
  | cons u rest ih =>
    have hu := taken_took h
    obtain ⟨us, htook, hmsgs⟩ := ih (queue_taken ch rest)
    rw [takeFrom]
    cases hp : u.post? with
    | none =>
      have hm : u.toMessage? = none := by rw [Update.toMessage?, hp]; rfl
      refine ⟨u :: us, hu.trans htook, ?_⟩
      rw [List.filterMap_cons_none hm]
      exact hmsgs
    | some p =>
      have hup : u.toMessage? = p.toMessage? := by rw [Update.toMessage?, hp]; rfl
      dsimp only
      cases hm : p.toMessage? with
      | none =>
        refine ⟨u :: us, hu.trans htook, ?_⟩
        rw [List.filterMap_cons_none (hup.trans hm)]
        exact hmsgs
      | some m =>
        refine ⟨[u], hu, ?_⟩
        rw [List.filterMap_cons_some (hup.trans hm)]
        rfl

theorem receive_took (ch : Channel) :
    ∃ us, Took ch us ch.receive.2.2 ∧
      us.filterMap Update.toMessage? = (ch.receive.1.bind Receipt.message?).toList := by
  rw [receive]
  split
  · exact ⟨[], .refl ch, rfl⟩
  · exact takeFrom_took rfl

/-! ## Calls -/

/-- The call that sends a message. -/
def sendCall (m : Outgoing) : Call :=
  .sendMessage m.chat m.content (m.reply.messageId?.map fun i => ⟨i, true⟩)

/-- Sending is one call, and it fails if and only if the call does. -/
theorem send_eq (m : Outgoing) (ch : Channel) :
    ∃ outcome, (ch.send m).2.1.calls = [⟨sendCall m, outcome⟩] ∧
      (ch.send m).1.isSome = outcome.isSome :=
  ⟨(ch.next .sendMessage).1, rfl, Option.isSome_map⟩

theorem send_took (m : Outgoing) (ch : Channel) : Took ch [] (ch.send m).2.2 :=
  next_took ch .sendMessage

end Channel

/-- The calls that start a channel, waits between them included. -/
def Call.isStarting : Call → Bool
  | .contact => true
  | .startPolling _ _ _ => true
  | .sleep _ => true
  | _ => false

namespace Channel

theorem calls_append (a b : Activity) : (a ++ b).calls = a.calls ++ b.calls :=
  rfl

theorem contactFrom_calls (ch : Channel) (attempt : Nat) (delays : List Nat) :
    ∀ c ∈ (ch.contactFrom attempt delays).2.1.calls, c.call.isStarting = true := by
  have hcontact : ∀ outcome, ∀ c ∈ [(⟨.contact, outcome⟩ : CallRecord)],
      c.call.isStarting = true := by
    intro outcome c hc
    rw [List.mem_singleton.mp hc]
    rfl
  induction delays generalizing ch attempt with
  | nil =>
    rw [contactFrom]
    rcases ch.next .contact with ⟨_ | e, ch'⟩
    · exact hcontact none
    · exact hcontact (some e)
  | cons delay delays ih =>
    rw [contactFrom]
    rcases ch.next .contact with ⟨_ | e, ch'⟩
    · exact hcontact none
    · dsimp only
      split
      · intro c hc
        rw [calls_append, calls_append, List.mem_append, List.mem_append] at hc
        rcases hc with (hc | hc) | hc
        · exact hcontact (some e) c hc
        · rw [List.mem_singleton.mp hc]
          rfl
        · exact ih _ _ c hc
      · exact hcontact (some e)

theorem contact_calls (ch : Channel) : ∀ c ∈ ch.contact.2.1.calls, c.call.isStarting = true := by
  rw [contact]
  split
  · exact fun c hc => absurd hc List.not_mem_nil
  · exact contactFrom_calls ch 1 initDelays

theorem startPolling_calls (ch : Channel) :
    ∀ c ∈ ch.startPolling.2.1.calls, c.call.isStarting = true := by
  rw [startPolling]
  rcases ch.next .startPolling with ⟨_ | e, ch'⟩
  all_goals
    intro c hc
    rw [List.mem_singleton.mp hc]
    rfl

theorem start_calls (ch : Channel) : ∀ c ∈ ch.start.2.1.calls, c.call.isStarting = true := by
  rw [start]
  split
  · exact fun c hc => absurd hc List.not_mem_nil
  · have hc := contact_calls ch
    generalize ch.contact = r at hc
    obtain ⟨_ | e, done, ch'⟩ := r
    · intro c hmem
      rw [calls_append, List.mem_append] at hmem
      exact hmem.elim (hc c) (startPolling_calls ch' c)
    · exact hc

theorem shutdown_calls (ch : Channel) :
    ch.shutdown.1.calls.map CallRecord.call = if ch.initialized then [Call.shutdown] else [] := by
  rw [shutdown]
  split
  · rcases ch.next .shutdown with ⟨_ | e, ch'⟩ <;> rfl
  · rfl

/-- The calls that stop a channel: the end of polling if it goes on, and then, unless that fails, the
end of the contact if it was made. -/
def stopCalls (ch : Channel) : List Call :=
  (if ch.updater.running then [Call.stop] else []) ++
    if ch.initialized ∧ ¬ (ch.updater.running ∧ (ch.next .stop).1.isSome) then [Call.shutdown]
    else []

theorem stop_calls (ch : Channel) : ch.stop.1.calls.map CallRecord.call = ch.stopCalls := by
  have hout : (ch.close.next .stop).1 = (ch.next .stop).1 := rfl
  have hinit : (ch.close.next .stop).2.initialized = ch.initialized := rfl
  rw [stop, stopCalls]
  cases hrun : ch.updater.running with
  | true =>
    rw [if_pos (show ch.close.updater.running = true from hrun)]
    rw [← hout, ← hinit]
    rcases ch.close.next .stop with ⟨_ | e, ch'⟩
    · rw [calls_append, List.map_append, shutdown_calls]
      simp
    · simp [stopFailed]
  | false =>
    have hclosed : ch.close.updater.running = false := hrun
    rw [hclosed, if_neg Bool.false_ne_true, shutdown_calls]
    cases hi : ch.initialized <;> simp [close, hi]

end Channel

end SubstBot.Telegram
