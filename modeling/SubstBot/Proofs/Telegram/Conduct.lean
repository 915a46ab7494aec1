import SubstBot.Proofs.Telegram.Mishaps

/-!
# `SubstBot/Proofs/Telegram/Conduct.lean` — what the operations of a channel come to

Each operation of a channel calls others, and any of these can fail. What it can come to is said here
once for each: `Started` lists the outcomes of starting with the calls that were made and the channel
that is left, `Stopped` those of stopping. **A request comes to one of two things**: the first update
with a text is given and those in front of it are passed over (`takeFrom_text`), or all that is queued
is passed over (`takeFrom_no_text`).

What is proved about channels elsewhere goes by these cases.
-/

set_option autoImplicit false

namespace SubstBot.Telegram

namespace Channel

/-! ## What a request takes

The updates up to the first with a text, and all of them if none has one. -/

/-- What is logged of updates that are passed over: those that hold something. -/
def skippedRecords (us : List Update) : List LogRecord :=
  us.filterMap fun u => u.post?.map fun _ => skippedRecord u

theorem taken_cons (ch : Channel) (u : Update) (rest : List Update) :
    ch.taken (u :: rest) = { ch with updater := { ch.updater with queue := u :: rest } } := by
  simp [taken, Updater.taken, Updater.settle]

/-- Only the last of several takings counts. -/
theorem taken_taken (ch : Channel) (u : Update) (us rest : List Update) :
    (ch.taken (u :: us)).taken rest = ch.taken rest := by
  rw [taken_cons]
  rfl

theorem takeFrom_cons_no_text {u : Update} (hu : u.toMessage? = none) (ch : Channel)
    (rest : List Update) :
    ch.takeFrom (u :: rest) =
      (((ch.taken rest).takeFrom rest).1,
        skippedRecords [u] ++ ((ch.taken rest).takeFrom rest).2.1,
        ((ch.taken rest).takeFrom rest).2.2) := by
  rw [takeFrom]
  cases hp : u.post? with
  | none => simp [skippedRecords, hp]
  | some p =>
    have hup : u.toMessage? = p.toMessage? := by rw [Update.toMessage?, hp]; rfl
    rw [hu] at hup
    simp [skippedRecords, hp, ← hup]

theorem takeFrom_cons_text {u : Update} {m : Message} (hu : u.toMessage? = some m) (ch : Channel)
    (rest : List Update) : ch.takeFrom (u :: rest) = (some (.message m), [], ch.taken rest) := by
  rw [takeFrom]
  cases hp : u.post? with
  | none =>
    rw [Update.toMessage?, hp] at hu
    cases hu
  | some p =>
    have hup : u.toMessage? = p.toMessage? := by rw [Update.toMessage?, hp]; rfl
    rw [hu] at hup
    simp [← hup]

/-- With a text in the queue, its message is given and what is in front of it passed over. -/
theorem takeFrom_text {us : List Update} {u : Update} {m : Message}
    (hus : ∀ v ∈ us, v.toMessage? = none) (hu : u.toMessage? = some m) (ch : Channel)
    (rest : List Update) :
    ch.takeFrom (us ++ u :: rest) = (some (.message m), skippedRecords us, ch.taken rest) := by
  induction us generalizing ch with
  | nil => exact takeFrom_cons_text hu ch rest
  | cons v us ih =>
    have hrest : ((ch.taken (us ++ u :: rest)).taken rest) = ch.taken rest := by
      cases us with
      | nil => exact taken_taken ch u rest rest
      | cons w us => exact taken_taken ch w (us ++ u :: rest) rest
    rw [List.cons_append, takeFrom_cons_no_text (hus v List.mem_cons_self),
      ih (fun w hw => hus w (List.mem_cons_of_mem v hw)), hrest]
    simp [skippedRecords, ← List.filterMap_append]

/-- Without a text in the queue, all of it is passed over. -/
theorem takeFrom_no_text {us : List Update} (hus : ∀ v ∈ us, v.toMessage? = none) (hne : us ≠ [])
    (ch : Channel) :
    ch.takeFrom us = ((ch.taken []).whenEmpty, skippedRecords us, ch.taken []) := by
  induction us generalizing ch with
  | nil => exact absurd rfl hne
  | cons v us ih =>
    rw [takeFrom_cons_no_text (hus v List.mem_cons_self)]
    cases us with
    | nil => simp [takeFrom]
    | cons w us =>
      rw [ih (fun x hx => hus x (List.mem_cons_of_mem v hx)) (List.cons_ne_nil w us), taken_taken]
      simp [skippedRecords, ← List.filterMap_append]

end Channel

/-- A queue has a first text, or none. -/
theorem Update.exists_first_text (queue : List Update) :
    (∀ u ∈ queue, u.toMessage? = none) ∨
      ∃ us u rest m, queue = us ++ u :: rest ∧ (∀ v ∈ us, v.toMessage? = none) ∧
        u.toMessage? = some m := by
  cases h : queue.filterMap Update.toMessage? with
  | nil => exact .inl (List.filterMap_eq_nil_iff.mp h)
  | cons m ms =>
    obtain ⟨us, u, rest, hq, hus, hu, -⟩ := List.filterMap_eq_cons_iff.mp h
    exact .inr ⟨us, u, rest, m, hq, hus, hu⟩

namespace Channel

/-- Whatever is taken for a request, the channel is as it was, apart from its queue. -/
theorem takeFrom_channel (ch : Channel) (queue : List Update) :
    (ch.takeFrom queue).2.2 = ch ∨ ∃ rest, (ch.takeFrom queue).2.2 = ch.taken rest := by
  rcases Update.exists_first_text queue with hus | ⟨us, u, rest, m, rfl, hus, hu⟩
  · cases queue with
    | nil => exact .inl rfl
    | cons u us =>
      rw [takeFrom_no_text hus (List.cons_ne_nil u us)]
      exact .inr ⟨[], rfl⟩
  · rw [takeFrom_text hus hu]
    exact .inr ⟨rest, rfl⟩

/-! ## Starting and stopping -/

/-- A call uses up its outcome. -/
theorem next_channel {ch ch' : Channel} {m : Method} {outcome : Option Error}
    (h : ch.next m = (outcome, ch')) :
    ∃ outcomes, ch' = { ch with updater := { ch.updater with outcomes } } := by
  obtain ⟨-, rfl⟩ := Prod.mk.inj h
  exact ⟨_, rfl⟩

/-- Attempts at the first contact use up outcomes, and the last one may make the contact. -/
theorem contactFrom_channel (ch : Channel) (attempt : Nat) (delays : List Nat) :
    ∃ outcomes, (ch.contactFrom attempt delays).2.2 =
      { ch with
        updater := { ch.updater with outcomes }
        initialized := (ch.contactFrom attempt delays).1.isNone || ch.initialized } := by
  induction delays generalizing ch attempt with
  | nil =>
    rw [contactFrom]
    rcases hn : ch.next .contact with ⟨_ | e, ch'⟩
    all_goals
      obtain ⟨outcomes, rfl⟩ := next_channel hn
      exact ⟨outcomes, rfl⟩
  | cons delay delays ih =>
    rw [contactFrom]
    rcases hn : ch.next .contact with ⟨_ | e, ch'⟩
    all_goals obtain ⟨outcomes, rfl⟩ := next_channel hn
    · exact ⟨outcomes, rfl⟩
    · dsimp only
      split
      · obtain ⟨outcomes', h⟩ := ih { ch with updater := { ch.updater with outcomes } } (attempt + 1)
        exact ⟨outcomes', h⟩
      · exact ⟨outcomes, rfl⟩

theorem contact_channel (ch : Channel) :
    ∃ outcomes, ch.contact.2.2 =
      { ch with
        updater := { ch.updater with outcomes }
        initialized := ch.contact.1.isNone || ch.initialized } := by
  rw [contact]
  split
  case isTrue h =>
    refine ⟨ch.updater.outcomes, ?_⟩
    show ch = { ch with initialized := true }
    rw [← h]
  case isFalse => exact contactFrom_channel ch 1 initDelays

/-- The call that starts polling. -/
def pollCall (ch : Channel) : Call :=
  .startPolling ch.pollTimeout allowedUpdates false

/-- **What starting comes to**: its error, its calls, and the channel after it. -/
inductive Started (ch : Channel) : Option TransportError → List CallRecord → Channel → Prop where
  | polling (hrun : ch.updater.running = true) : Started ch none [] ch
  | uncontacted {e : TransportError} {outcomes : Outcomes} (hrun : ch.updater.running = false)
      (hcontact : ch.contact.1 = some e) :
      Started ch (some e) ch.contact.2.1.calls { ch with updater := { ch.updater with outcomes } }
  | unpolled {e : Error} {outcomes : Outcomes} (hrun : ch.updater.running = false)
      (hcontact : ch.contact.1 = none) :
      Started ch (some (failure "Telegram polling failed to start" e))
        (ch.contact.2.1.calls ++ [⟨ch.pollCall, some e⟩])
        { ch with updater := { ch.updater with outcomes }, initialized := true }
  | started {outcomes : Outcomes} (hrun : ch.updater.running = false)
      (hcontact : ch.contact.1 = none) :
      Started ch none (ch.contact.2.1.calls ++ [⟨ch.pollCall, none⟩])
        { ch with
          updater := Updater.started { ch.updater with outcomes }, initialized := true }

/-- The contact of a channel that has been contacted does not fail. -/
theorem initialized_of_contact {ch : Channel} {e : TransportError} (h : ch.contact.1 = some e) :
    ch.initialized = false := by
  rw [contact] at h
  cases hi : ch.initialized with
  | false => rfl
  | true =>
    rw [hi, if_pos rfl] at h
    cases h

theorem start_started (ch : Channel) :
    Started ch ch.start.1 ch.start.2.1.calls ch.start.2.2 := by
  obtain ⟨outcomes, hch⟩ := contact_channel ch
  rw [start]
  cases hrun : ch.updater.running with
  | true => exact .polling hrun
  | false =>
    rw [if_neg Bool.false_ne_true]
    rcases hc : ch.contact with ⟨_ | e, done, ch'⟩
    all_goals
      rw [hc] at hch
      dsimp only at hch ⊢
      subst hch
    · have hcontact : ch.contact.1 = none := by rw [hc]
      have hcalls : ch.contact.2.1.calls = done.calls := by rw [hc]
      rw [startPolling]
      rcases hn : Channel.next _ .startPolling with ⟨_ | e, ch''⟩
      all_goals
        obtain ⟨outcomes', rfl⟩ := next_channel hn
        dsimp only
        rw [calls_append, ← hcalls]
      · exact .started hrun hcontact
      · exact .unpolled hrun hcontact
    · have hcontact : ch.contact.1 = some e := by rw [hc]
      have hcalls : ch.contact.2.1.calls = done.calls := by rw [hc]
      rw [← hcalls]
      exact .uncontacted hrun hcontact

/-- **What the end of the contact comes to**: its calls, and the channel after it. -/
inductive ShutDown (ch : Channel) : List CallRecord → Channel → Prop where
  | uncontacted (hinit : ch.initialized = false) : ShutDown ch [] ch
  | contacted {e : Error} {outcomes : Outcomes} (hinit : ch.initialized = true) :
      ShutDown ch [⟨.shutdown, some e⟩] { ch with updater := { ch.updater with outcomes } }
  | ended {outcomes : Outcomes} (hinit : ch.initialized = true) :
      ShutDown ch [⟨.shutdown, none⟩]
        { ch with updater := { ch.updater with outcomes }, initialized := false }

theorem shutdown_shutDown (ch : Channel) : ShutDown ch ch.shutdown.1.calls ch.shutdown.2 := by
  rw [shutdown]
  cases hi : ch.initialized with
  | false => exact .uncontacted hi
  | true =>
    rw [if_pos rfl]
    rcases hn : ch.next .shutdown with ⟨_ | e, ch'⟩
    all_goals obtain ⟨outcomes, rfl⟩ := next_channel hn
    · exact .ended hi
    · exact .contacted hi

/-- **What stopping comes to**: its calls, and the channel after it. Where the end of polling fails,
the contact is left as it is. -/
inductive Stopped (ch : Channel) : List CallRecord → Channel → Prop where
  | polling {e : Error} {outcomes : Outcomes} (hrun : ch.updater.running = true) :
      Stopped ch [⟨.stop, some e⟩]
        { ch with updater := { ch.updater with outcomes }, closed := true }
  | stopped {calls : List CallRecord} {ch' : Channel} {outcomes : Outcomes}
      (hrun : ch.updater.running = true)
      (h : ShutDown
        { ch with updater := { ch.updater with outcomes, running := false }, closed := true }
        calls ch') :
      Stopped ch (⟨.stop, none⟩ :: calls) ch'
  | idle {calls : List CallRecord} {ch' : Channel} (hrun : ch.updater.running = false)
      (h : ShutDown ch.close calls ch') : Stopped ch calls ch'

theorem stop_stopped (ch : Channel) : Stopped ch ch.stop.1.calls ch.stop.2 := by
  rw [stop]
  cases hrun : ch.updater.running with
  | true =>
    rw [if_pos (show ch.close.updater.running = true from hrun)]
    rcases hn : ch.close.next .stop with ⟨_ | e, ch'⟩
    all_goals obtain ⟨outcomes, rfl⟩ := next_channel hn
    · exact .stopped hrun (shutdown_shutDown _)
    · exact .polling hrun
  | false =>
    rw [if_neg (by rw [show ch.close.updater.running = false from hrun]; exact Bool.false_ne_true)]
    exact .idle hrun (shutdown_shutDown _)

/-- The end of the contact changes neither the queue nor whether the channel is closed. -/
theorem ShutDown.frame {ch ch' : Channel} {calls : List CallRecord} (h : ShutDown ch calls ch') :
    ch'.updater.queue = ch.updater.queue ∧ ch'.closed = ch.closed := by
  cases h <;> exact ⟨rfl, rfl⟩

/-- Stopping closes the channel, and leaves what is queued. -/
theorem Stopped.frame {ch ch' : Channel} {calls : List CallRecord} (h : Stopped ch calls ch') :
    ch'.updater.queue = ch.updater.queue ∧ ch'.closed = true := by
  cases h with
  | polling hrun => exact ⟨rfl, rfl⟩
  | stopped hrun h => exact h.frame
  | idle hrun h => exact h.frame

end Channel

end SubstBot.Telegram
