import SubstBot.Proofs.Dispatch.Script

/-!
# `SubstBot/Proofs/Dispatch/Course.lean` — whole runs

A run processes messages for as long as it can and then stops, and what it does with each message
hangs on the message and on the number of answers handed over before it, not on what else is in the
script. So a run is **a row of messages that pass, and one receipt at which it stops**: a
disconnection, a failure to receive, or a message whose handler fails. `run_eq_of_passed` says so of
the row and `run_eq_of_stop` of the stop, and `exists_passed_stop` that every script begins with such
a row and stop. Together they leave a run no other course.

`run_course` reads the laws of the loop off this: when a run ends in which way, how often it asks for
a message, that nothing is taken after the end, and that runs over two scripts compose.
-/

set_option autoImplicit false

namespace SubstBot.Dispatch.Script

variable {ε : Type} {bot : Identity} {handlers : List (Handler ε)} {f : Nat → Option TransportError}

/-- The step in which nothing more comes. -/
def disconnectedStep : Step where
  receipt := .disconnected
  logs := [disconnectedRecord]

/-- The receipt with which a script begins. One that is used up reports a disconnection. -/
def next (rs : List Receipt) : Receipt :=
  rs.headD .disconnected

/-- **Messages that pass**: each is settled without ending the run. `k` answers have been handed to
the transport before them and `k'` when they are done. -/
inductive Passed (bot : Identity) (handlers : List (Handler ε)) (f : Nat → Option TransportError) :
    Nat → List Message → List Step → Nat → Prop where
  | nil {k : Nat} : Passed bot handlers f k [] [] k
  | cons {k k' : Nat} {m : Message} {ms : List Message} {step : Step} {steps : List Step}
      (hm : Settled bot m (fun _ => f (k + 1)) handlers step none)
      (hms : Passed bot handlers f (k + step.delivery.toList.length) ms steps k') :
      Passed bot handlers f k (m :: ms) (step :: steps) k'

/-- **The receipt at which a run stops**, with its step and how the run ends. -/
inductive Stop (bot : Identity) (handlers : List (Handler ε)) (f : Nat → Option TransportError)
    (k : Nat) : Receipt → Step → Ending ε → Prop where
  | disconnected : Stop bot handlers f k .disconnected disconnectedStep .disconnected
  | receiver {e : TransportError} :
      Stop bot handlers f k (.failed e) { receipt := .failed e } (.receiverFailed e)
  | handler {m : Message} {step : Step} {e : Ending ε}
      (h : Settled bot m (fun _ => f (k + 1)) handlers step (some e)) :
      Stop bot handlers f k (.message m) step e

/-- A receipt that comes after messages which all pass. -/
def Reaches (bot : Identity) (handlers : List (Handler ε)) (f : Nat → Option TransportError)
    (k : Nat) (rs : List Receipt) (k' : Nat) (r : Receipt) : Prop :=
  ∃ ms rest steps, rs = ms.map .message ++ rest ∧ Passed bot handlers f k ms steps k' ∧
    next rest = r

/-! ## The two parts of a run -/

/-- A message of a script that is settled in some way is settled so by the loop. -/
theorem offer_of_settled {m : Message} {step : Step} {e : Option (Ending ε)} {k : Nat}
    (h : Settled bot m (fun _ => f (k + 1)) handlers step e) (rs : List Receipt) :
    (offer transport bot m handlers ⟨rs, k, f⟩).step = step ∧
      (offer transport bot m handlers ⟨rs, k, f⟩).ending = e := by
  obtain ⟨hstep, hend⟩ := (settled_iff transport handlers ⟨rs, k, f⟩).mp h
  exact ⟨hstep.symm, hend.symm⟩

theorem run_eq_of_passed {k k' : Nat} {ms : List Message} {steps : List Step}
    (h : Passed bot handlers f k ms steps k') (rs : List Receipt) :
    run bot handlers ⟨ms.map .message ++ rs, k, f⟩ =
      { run bot handlers ⟨rs, k', f⟩ with
        steps := steps ++ (run bot handlers ⟨rs, k', f⟩).steps } := by
  induction h with
  | nil => rfl
  | cons hm hms ih =>
    obtain ⟨hstep, hend⟩ := offer_of_settled hm (_ ++ rs)
    rw [List.map_cons, List.cons_append, run_message_continued rfl hend, hstep, ih]
    rfl

theorem run_eq_of_stop {k : Nat} {rs : List Receipt} {last : Step} {e : Ending ε}
    (h : Stop bot handlers f k (next rs) last e) :
    run bot handlers ⟨rs, k, f⟩ =
      { steps := [last], ending := e
        state := ⟨rs.tail, k + last.delivery.toList.length, f⟩ } := by
  generalize hr : next rs = r at h
  cases rs with
  | nil =>
    subst hr
    cases h
    rfl
  | cons r' rs =>
    have hr' : r' = r := hr
    subst hr'
    cases h with
    | disconnected => rfl
    | receiver => rfl
    | handler hs =>
      obtain ⟨hstep, hend⟩ := offer_of_settled hs rs
      rw [run_message_ended hend, offer_state, hstep]
      rfl

/-- Every script begins with messages that pass and a receipt at which the run stops. -/
theorem exists_passed_stop (bot : Identity) (handlers : List (Handler ε))
    (f : Nat → Option TransportError) (rs : List Receipt) (k : Nat) :
    ∃ ms rest steps k' last e, rs = ms.map .message ++ rest ∧
      Passed bot handlers f k ms steps k' ∧ Stop bot handlers f k' (next rest) last e := by
  induction rs generalizing k with
  | nil => exact ⟨[], [], [], k, disconnectedStep, .disconnected, rfl, .nil, .disconnected⟩
  | cons r rs ih =>
    cases r with
    | disconnected =>
      exact ⟨[], .disconnected :: rs, [], k, disconnectedStep, .disconnected, rfl, .nil,
        .disconnected⟩
    | failed e =>
      exact ⟨[], .failed e :: rs, [], k, _, .receiverFailed e, rfl, .nil, .receiver⟩
    | message m =>
      have hset := offer_settled transport bot m handlers ⟨rs, k, f⟩
      cases hend : (offer transport bot m handlers ⟨rs, k, f⟩).ending with
      | some e =>
        rw [hend] at hset
        exact ⟨[], .message m :: rs, [], k, _, e, rfl, .nil, .handler hset⟩
      | none =>
        rw [hend] at hset
        obtain ⟨ms, rest, steps, k', last, e, hrs, hpassed, hstop⟩ :=
          ih (k + (offer transport bot m handlers ⟨rs, k, f⟩).step.delivery.toList.length)
        exact ⟨m :: ms, rest, _ :: steps, k', last, e, congrArg (.message m :: ·) hrs,
          .cons hset hpassed, hstop⟩

/-- A run is the row of messages and the stop that its script begins with. -/
theorem run_eq_of_passed_stop {k k' : Nat} {ms : List Message} {rest : List Receipt}
    {steps : List Step} {last : Step} {e : Ending ε} (hpassed : Passed bot handlers f k ms steps k')
    (hstop : Stop bot handlers f k' (next rest) last e) :
    run bot handlers ⟨ms.map .message ++ rest, k, f⟩ =
      { steps := steps ++ [last], ending := e
        state := ⟨rest.tail, k' + last.delivery.toList.length, f⟩ } := by
  rw [run_eq_of_passed hpassed, run_eq_of_stop hstop]

theorem run_ending_iff (rs : List Receipt) (k : Nat) (e : Ending ε) :
    (run bot handlers ⟨rs, k, f⟩).ending = e ↔
      ∃ k' r last, Reaches bot handlers f k rs k' r ∧ Stop bot handlers f k' r last e := by
  constructor
  · intro h
    obtain ⟨ms, rest, steps, k', last, e', hrs, hpassed, hstop⟩ :=
      exists_passed_stop bot handlers f rs k
    have he : e' = e := by
      rw [hrs, run_eq_of_passed_stop hpassed hstop] at h
      exact h
    subst he
    exact ⟨k', next rest, last, ⟨ms, rest, steps, hrs, hpassed, rfl⟩, hstop⟩
  · rintro ⟨k', r, last, ⟨ms, rest, steps, hrs, hpassed, hr⟩, hstop⟩
    subst hr
    rw [hrs, run_eq_of_passed_stop hpassed hstop]

/-! ## Counting -/

theorem Passed.messages {k k' : Nat} {ms : List Message} {steps : List Step}
    (h : Passed bot handlers f k ms steps k') : steps.filterMap Step.message? = ms := by
  induction h with
  | nil => rfl
  | cons hm _ ih => rw [List.filterMap_cons_some hm.message?, ih]

theorem Passed.length {k k' : Nat} {ms : List Message} {steps : List Step}
    (h : Passed bot handlers f k ms steps k') : steps.length = ms.length := by
  induction h with
  | nil => rfl
  | cons _ _ ih => rw [List.length_cons, List.length_cons, ih]

/-- What a run ends with when what comes is no message. -/
def EndsWithReceipt (e : Ending ε) : Prop :=
  e = .disconnected ∨ ∃ t, e = .receiverFailed t

theorem not_endsWithReceipt_ofFailure (x : HandlerFailure ε) :
    ¬ EndsWithReceipt (Ending.ofFailure x) := by
  rintro (h | ⟨t, h⟩) <;> cases x <;> exact absurd h (by simp [Ending.ofFailure])

/-! ## The laws of the loop -/

/-- **The course of a run** `r` over the receipts `rs`, when `k` answers have been handed over
before. -/
structure Course (bot : Identity) (handlers : List (Handler ε)) (f : Nat → Option TransportError)
    (rs : List Receipt) (k : Nat) (r : Run Script ε) : Prop where
  /-- The messages are taken one at a time in their order, each settled by a prefix of the handlers,
  up to the receipt at which the run stops. Nothing is taken, offered or sent after it. -/
  shape : ∃ ms rest steps k' last, rs = ms.map .message ++ rest ∧
    Passed bot handlers f k ms steps k' ∧ Stop bot handlers f k' (next rest) last r.ending ∧
    r.steps = steps ++ [last] ∧ r.state = ⟨rest.tail, k' + last.delivery.toList.length, f⟩
  disconnected : r.ending = .disconnected ↔ ∃ k', Reaches bot handlers f k rs k' .disconnected
  receiverFailed : ∀ e, r.ending = .receiverFailed e ↔
    ∃ k', Reaches bot handlers f k rs k' (.failed e)
  handlerFailed : ∀ e, r.ending = .handlerFailed e ↔
    ∃ k' m, Reaches bot handlers f k rs k' (.message m) ∧
      Fails bot m handlers (fun _ => f (k' + 1)) (.transport e)
  crashed : ∀ e, r.ending = .crashed e ↔
    ∃ k' m, Reaches bot handlers f k rs k' (.message m) ∧
      Fails bot m handlers (fun _ => f (k' + 1)) (.other e)
  /-- It is asked for a message once for each message that comes, the last one included, and once
  more if the run ends with a receipt that is none. -/
  asked : (EndsWithReceipt r.ending →
      r.steps.length = (r.steps.filterMap Step.message?).length + 1) ∧
    (¬ EndsWithReceipt r.ending →
      r.steps.length = (r.steps.filterMap Step.message?).length)

/-- The run `xy` is the run `x`, up to its disconnection, and then the run `y`. -/
structure Composed (x y xy : Run Script ε) : Prop where
  steps : ∃ steps, x.steps = steps ++ [disconnectedStep] ∧
    xy = { y with steps := steps ++ y.steps }
  sends : xy.deliveries = x.deliveries ++ y.deliveries
  logs : ∃ logs, x.logs = logs ++ [disconnectedRecord] ∧ xy.logs = logs ++ y.logs

theorem run_ending_ofFailure_iff (rs : List Receipt) (k : Nat) (x : HandlerFailure ε) :
    (run bot handlers ⟨rs, k, f⟩).ending = .ofFailure x ↔
      ∃ k' m, Reaches bot handlers f k rs k' (.message m) ∧
        Fails bot m handlers (fun _ => f (k' + 1)) x := by
  rw [run_ending_iff]
  constructor
  · rintro ⟨k', r, last, hreach, hstop⟩
    generalize he : Ending.ofFailure x = e at hstop
    cases hstop with
    | disconnected => exact absurd (Or.inl he) (not_endsWithReceipt_ofFailure x)
    | receiver => exact absurd (Or.inr ⟨_, he⟩) (not_endsWithReceipt_ofFailure x)
    | @handler m step _ h =>
      obtain ⟨y, hy, hfails⟩ := h.fails
      rw [← he] at hy
      exact ⟨k', m, hreach, ofFailure_injective hy ▸ hfails⟩
  · rintro ⟨k', m, hreach, hfails⟩
    obtain ⟨step, hset⟩ := hfails.settled
    exact ⟨k', _, step, hreach, .handler hset⟩

theorem course_run (bot : Identity) (handlers : List (Handler ε)) (f : Nat → Option TransportError)
    (rs : List Receipt) (k : Nat) :
    Course bot handlers f rs k (run bot handlers ⟨rs, k, f⟩) where
  shape := by
    obtain ⟨ms, rest, steps, k', last, e, hrs, hpassed, hstop⟩ :=
      exists_passed_stop bot handlers f rs k
    refine ⟨ms, rest, steps, k', last, hrs, hpassed, ?_, ?_, ?_⟩
    all_goals rw [hrs, run_eq_of_passed_stop hpassed hstop]
    exact hstop
  disconnected := by
    rw [run_ending_iff]
    constructor
    · rintro ⟨k', r, last, hreach, hstop⟩
      cases hstop with
      | disconnected => exact ⟨k', hreach⟩
      | handler h =>
        obtain ⟨x, hx, -⟩ := h.fails
        exact absurd (Or.inl hx.symm) (not_endsWithReceipt_ofFailure x)
    · rintro ⟨k', hreach⟩
      exact ⟨k', _, _, hreach, .disconnected⟩
  receiverFailed e := by
    rw [run_ending_iff]
    constructor
    · rintro ⟨k', r, last, hreach, hstop⟩
      cases hstop with
      | receiver => exact ⟨k', hreach⟩
      | handler h =>
        obtain ⟨x, hx, -⟩ := h.fails
        exact absurd (Or.inr ⟨e, hx.symm⟩) (not_endsWithReceipt_ofFailure x)
    · rintro ⟨k', hreach⟩
      exact ⟨k', _, _, hreach, .receiver⟩
  handlerFailed e := run_ending_ofFailure_iff rs k (.transport e)
  crashed e := run_ending_ofFailure_iff rs k (.other e)
  asked := by
    obtain ⟨ms, rest, steps, k', last, e, hrs, hpassed, hstop⟩ :=
      exists_passed_stop bot handlers f rs k
    rw [hrs, run_eq_of_passed_stop hpassed hstop]
    simp only [List.filterMap_append, List.length_append, List.length_singleton, hpassed.messages,
      hpassed.length]
    generalize next rest = r at hstop
    cases hstop with
    | disconnected => exact ⟨fun _ => rfl, fun h => absurd (Or.inl rfl) h⟩
    | receiver => exact ⟨fun _ => rfl, fun h => absurd (Or.inr ⟨_, rfl⟩) h⟩
    | handler h =>
      obtain ⟨x, hx, -⟩ := h.fails
      rw [hx, List.filterMap_cons_some h.message?]
      exact ⟨fun he => absurd he (not_endsWithReceipt_ofFailure x), fun _ => rfl⟩

/-- A row of messages with nothing behind it whose run ends with its script has passed. -/
theorem passed_of_disconnected {xs : List Message} {k : Nat}
    (h : (run bot handlers ⟨xs.map .message, k, f⟩).ending = .disconnected) :
    ∃ steps k', Passed bot handlers f k xs steps k' := by
  induction xs generalizing k with
  | nil => exact ⟨[], k, .nil⟩
  | cons m xs ih =>
    rw [List.map_cons] at h
    have hset := offer_settled transport bot m handlers ⟨xs.map .message, k, f⟩
    cases hend : (offer transport bot m handlers ⟨xs.map .message, k, f⟩).ending with
    | some e =>
      rw [hend] at hset
      obtain ⟨x, hx, -⟩ := hset.fails
      rw [run_message_ended hend, hx] at h
      exact absurd (Or.inl h) (not_endsWithReceipt_ofFailure x)
    | none =>
      rw [hend] at hset
      rw [run_message_continued rfl hend] at h
      obtain ⟨steps, k', hpassed⟩ := ih h
      exact ⟨_ :: steps, k', .cons hset hpassed⟩

theorem composed_run {xs : List Message} {k : Nat}
    (h : (run bot handlers ⟨xs.map .message, k, f⟩).ending = .disconnected) (ys : List Receipt) :
    Composed (run bot handlers ⟨xs.map .message, k, f⟩)
      (run bot handlers ⟨ys, (run bot handlers ⟨xs.map .message, k, f⟩).state.tried, f⟩)
      (run bot handlers ⟨xs.map .message ++ ys, k, f⟩) := by
  obtain ⟨steps, k', hpassed⟩ := passed_of_disconnected h
  have hx : run bot handlers ⟨xs.map .message, k, f⟩ =
      { steps := steps ++ [disconnectedStep], ending := .disconnected, state := ⟨[], k', f⟩ } := by
    have hrun := run_eq_of_passed hpassed []
    rw [List.append_nil] at hrun
    exact hrun
  rw [hx, run_eq_of_passed hpassed ys]
  -- The step that ends the first run has neither an answer nor a place in the second.
  refine ⟨⟨steps, rfl, rfl⟩, ?_, ⟨steps.flatMap Step.logs, ?_, ?_⟩⟩
  · simp [Run.deliveries, disconnectedStep]
  · simp [Run.logs, disconnectedStep]
  · simp [Run.logs]

/-- **The laws of the loop**, for any handlers, any script and any deliveries that fail. Each run has
the course that its script lays down; and when a row of messages passes, the run over it and whatever
else `ys` is the run over the messages followed by the run over `ys`, which counts its answers on
from there. -/
theorem run_course (bot : Identity) (handlers : List (Handler ε))
    (f : Nat → Option TransportError) :
    (∀ rs k, Course bot handlers f rs k (run bot handlers ⟨rs, k, f⟩)) ∧
    ∀ (xs : List Message) (ys : List Receipt) k,
      (run bot handlers ⟨xs.map .message, k, f⟩).ending = .disconnected →
      Composed (run bot handlers ⟨xs.map .message, k, f⟩)
        (run bot handlers ⟨ys, (run bot handlers ⟨xs.map .message, k, f⟩).state.tried, f⟩)
        (run bot handlers ⟨xs.map .message ++ ys, k, f⟩) := by
  refine ⟨fun rs k => ?_, fun xs ys k h => ?_⟩
  · exact course_run bot handlers f rs k
  · exact composed_run h ys

/-- A handler that answers every message with its own text, and a message for it. -/
def echo : Handler :=
  ⟨fun _ m => .answered [] (Handler.replyTo m m.content)⟩

def greeting : Message :=
  .mk (.number 1) (.number 100) "hello" .notReplying

/-- Only the second answer fails, and it is the first of the second script. -/
theorem run_course_echo :
    Composed
      (run ⟨none⟩ [fixedHandler .declined, echo]
        ⟨[.message greeting], 0, fun n => if n = 2 then some ⟨.unspecified, "gone"⟩ else none⟩)
      (run ⟨none⟩ [fixedHandler .declined, echo]
        ⟨[.message greeting], 1, fun n => if n = 2 then some ⟨.unspecified, "gone"⟩ else none⟩)
      (run ⟨none⟩ [fixedHandler .declined, echo]
        ⟨[.message greeting, .message greeting], 0,
          fun n => if n = 2 then some ⟨.unspecified, "gone"⟩ else none⟩) :=
  (run_course ⟨none⟩ [fixedHandler .declined, echo]
    fun n => if n = 2 then some ⟨.unspecified, "gone"⟩ else none).2
    [greeting] [.message greeting] 0 rfl

end SubstBot.Dispatch.Script
