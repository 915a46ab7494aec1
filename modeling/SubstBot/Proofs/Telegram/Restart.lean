import SubstBot.Proofs.Telegram.Delivery
import SubstBot.Proofs.Telegram.Lifecycle

/-!
# `SubstBot/Proofs/Telegram/Restart.lean` — a channel that is started again

A channel that has been stopped can be started again: the contact is made anew and polling goes on.
**But it delivers nothing.** Stopping closes the channel, and starting does not open it. So whether a
channel that has been started works like a new one is told by its history alone: it does if and only
if it has never been closed or stopped.

Two channels with the same queue, of which both poll or neither does, give the same to everyone who
asks (`Alike`), whatever else has become of them. This is the one direction; the other is that a
closed channel tells everyone that nothing will come.
-/

set_option autoImplicit false

namespace SubstBot.Telegram

/-! ## Channels that look alike -/

namespace Channel

/-- Two channels between which nobody who asks for a message can tell a difference. -/
structure Alike (ch ch' : Channel) : Prop where
  queue : ch.updater.queue = ch'.updater.queue
  running : ch.updater.running = ch'.updater.running
  dies : ch.updater.dies = ch'.updater.dies
  closed : ch.closed = ch'.closed

theorem Alike.taken {ch ch' : Channel} (h : Alike ch ch') (rest : List Update) :
    Alike (ch.taken rest) (ch'.taken rest) := by
  simp only [Channel.taken, Updater.taken, Updater.settle, h.dies]
  split
  · exact ⟨rfl, rfl, rfl, h.closed⟩
  · exact ⟨rfl, h.running, rfl, h.closed⟩

theorem Alike.whenEmpty {ch ch' : Channel} (h : Alike ch ch') : ch.whenEmpty = ch'.whenEmpty := by
  rw [Channel.whenEmpty, h.running, Channel.whenEmpty]

theorem Alike.takeFrom {ch ch' : Channel} (h : Alike ch ch') (queue : List Update) :
    (ch.takeFrom queue).1 = (ch'.takeFrom queue).1 ∧
      Alike (ch.takeFrom queue).2.2 (ch'.takeFrom queue).2.2 := by
  rcases Update.exists_first_text queue with hus | ⟨us, u, rest, m, rfl, hus, hu⟩
  · cases queue with
    | nil => exact ⟨h.whenEmpty, h⟩
    | cons u us =>
      have hne := List.cons_ne_nil u us
      rw [takeFrom_no_text hus hne, takeFrom_no_text hus hne]
      exact ⟨(h.taken []).whenEmpty, h.taken []⟩
  · rw [takeFrom_text hus hu, takeFrom_text hus hu]
    exact ⟨rfl, h.taken rest⟩

theorem Alike.receive {ch ch' : Channel} (h : Alike ch ch') :
    ch.receive.1 = ch'.receive.1 ∧ Alike ch.receive.2.2 ch'.receive.2.2 := by
  rw [Channel.receive, Channel.receive, h.closed, h.queue]
  split
  · exact ⟨rfl, h⟩
  · exact h.takeFrom _

theorem Alike.resume {ch ch' : Channel} (h : Alike ch ch') :
    ch.resume.1 = ch'.resume.1 ∧ Alike ch.resume.2.2 ch'.resume.2.2 := by
  rw [Channel.resume, Channel.resume, h.closed, h.queue]
  split
  · exact ⟨rfl, h⟩
  · exact h.takeFrom _

end Channel

namespace Attended

/-- Two channels that look alike, with a caller waiting at both or at neither. -/
structure Alike (a b : Attended) : Prop where
  channel : a.channel.Alike b.channel
  waiting : a.waiting = b.waiting

/-- An operation that neither stops a channel nor starts polling anew. -/
def Undisturbing (ch : Channel) (op : Operation) : Prop :=
  op ≠ .stop ∧ (op = .start → ch.updater.running = true)

/-- Operations of which each is undisturbing at its time. -/
def Undisturbed (a : Attended) : List Operation → Prop
  | [] => True
  | op :: ops => Undisturbing a.channel op ∧ Undisturbed (a.perform op).2 ops

theorem act_alike {ch ch' : Channel} (h : ch.Alike ch') {op : Operation}
    (hop : Undisturbing ch op) : (act ch op).2.2.Alike (act ch' op).2.2 := by
  cases op with
  | start =>
    have hrun := hop.2 rfl
    show ch.start.2.2.Alike ch'.start.2.2
    rw [Channel.start, if_pos hrun, Channel.start, if_pos (h.running.symm.trans hrun)]
    exact h
  | stop => exact absurd rfl hop.1
  | close => exact ⟨h.queue, h.running, h.dies, rfl⟩
  | put u => exact ⟨congrArg (· ++ [u]) h.queue, h.running, h.dies, h.closed⟩
  | setRunning running => exact ⟨h.queue, rfl, h.dies, h.closed⟩
  | send m => exact ⟨h.queue, h.running, h.dies, h.closed⟩
  | _ => exact h

/-- An operation tells callers the same at both channels, and leaves them alike. -/
theorem perform_alike {a b : Attended} (h : Alike a b) {op : Operation}
    (hop : Undisturbing a.channel op) :
    (a.perform op).1.reception = (b.perform op).1.reception ∧
      Alike (a.perform op).2 (b.perform op).2 := by
  have hact := act_alike h.channel hop
  rw [perform_reception, perform_reception, perform_after, perform_after, h.waiting]
  generalize (act a.channel op).2.2 = ch, (act b.channel op).2.2 = ch' at hact ⊢
  cases b.waiting with
  | true =>
    obtain ⟨hanswer, halike⟩ := hact.resume
    rw [attend_waiting, attend_waiting, hanswer]
    exact ⟨rfl, halike, rfl⟩
  | false =>
    by_cases hasks : op = .receive
    · obtain ⟨hanswer, halike⟩ := hact.receive
      rw [hasks, attend_receive, attend_receive, hanswer]
      exact ⟨rfl, halike, rfl⟩
    · rw [attend_nobody hasks, attend_nobody hasks]
      exact ⟨rfl, hact, rfl⟩

/-- **Callers cannot tell channels apart that look alike.** -/
theorem receptions_alike {a b : Attended} (h : Alike a b) {later : List Operation}
    (hlater : a.Undisturbed later) : a.receptions later = b.receptions later := by
  induction later generalizing a b with
  | nil => rfl
  | cons op later ih =>
    obtain ⟨hop, hrest⟩ := hlater
    obtain ⟨hreception, halike⟩ := perform_alike h hop
    rw [receptions_cons, receptions_cons, hreception, ih halike hrest]

/-- Nobody waits at a channel with something in its queue. -/
theorem Patient.nobody {a : Attended} (h : Patient a) (hqueue : a.channel.updater.queue ≠ []) :
    a.waiting = false := by
  cases hw : a.waiting with
  | false => rfl
  | true => exact absurd (h hw).2 hqueue

/-! ## Started channels -/

theorem perform_steady {a : Attended} (h : a.channel.updater.Steady) (op : Operation) :
    (a.perform op).2.channel.updater.Steady :=
  (attend_marks (act_steady h op) op a.waiting).1

/-- A channel over a steady connection, with something done to it, and then started. -/
structure Begun (updater : Updater) (pollTimeout : Int) (history : List Operation) (a : Attended) :
    Prop where
  steady : updater.Steady
  result : (((created updater pollTimeout).after history).perform .start).1.result = .done
  eq : (created updater pollTimeout).after (history ++ [.start]) = a

section Begun

variable {updater : Updater} {pollTimeout : Int} {history : List Operation} {a : Attended}

theorem Begun.polling (h : Begun updater pollTimeout history a) :
    a.channel.updater.Steady ∧ a.channel.updater.running = true := by
  have hbefore : ((created updater pollTimeout).after history).channel.updater.Steady :=
    after_keeps (P := fun a => a.channel.updater.Steady) (fun op _ a ha => perform_steady ha op)
      h.steady
  have hresult := h.result
  rw [← h.eq, after_append, after_cons, after_nil]
  generalize (created updater pollTimeout).after history = b at hbefore hresult ⊢
  have hsucceeded : b.channel.start.1 = none := by
    change resultOf b.channel.start.1 = .done at hresult
    cases hs : b.channel.start.1 with
    | none => rfl
    | some e =>
      rw [hs] at hresult
      cases hresult
  have hstarted := Channel.start_started b.channel
  rw [hsucceeded] at hstarted
  obtain ⟨hsteady, hmarks, -⟩ := attend_marks (hstarted.steady hbefore) .start b.waiting
  exact ⟨hsteady, (Marks.mk.inj hmarks).2.trans (hstarted.running hbefore)⟩

theorem Begun.closed (h : Begun updater pollTimeout history a) :
    a.channel.closed = history.any Operation.closes := by
  rw [← h.eq, after_closed, List.any_append]
  exact Bool.or_false _

theorem Begun.patient (h : Begun updater pollTimeout history a) : Patient a := by
  rw [← h.eq]
  exact patient_after updater pollTimeout _

/-- Two channels that were started over the same queue, neither of which has been closed before. -/
theorem Begun.alike {updater' : Updater} {pollTimeout' : Int} {history' : List Operation}
    {b : Attended} (h : Begun updater pollTimeout history a)
    (h' : Begun updater' pollTimeout' history' b)
    (hqueue : a.channel.updater.queue = b.channel.updater.queue)
    (hne : a.channel.updater.queue ≠ []) (hopen : history.any Operation.closes = false)
    (hopen' : history'.any Operation.closes = false) : Alike a b where
  channel :=
    { queue := hqueue
      running := h.polling.2.trans h'.polling.2.symm
      dies := h.polling.1.dies.trans h'.polling.1.dies.symm
      closed := by rw [h.closed, h'.closed, hopen, hopen'] }
  waiting := (h.patient.nobody hne).trans (h'.patient.nobody (hqueue ▸ hne)).symm

/-- Whoever asks at a channel that had been closed before it was started is told that nothing will
come. -/
theorem Begun.shut (h : Begun updater pollTimeout history a)
    (hclosed : history.any Operation.closes = true) (later : List Operation) :
    (a.after later).perform .receive =
      ({ reception := some (.ended .disconnected) }, a.after later) := by
  have hch : a.channel.closed = true := h.closed.trans hclosed
  have hnobody : a.waiting = false := by
    cases hw : a.waiting with
    | false => rfl
    | true => exact absurd ((h.patient hw).1.symm.trans hch) Bool.false_ne_true
  obtain ⟨ch, waiting⟩ := a
  subst hnobody
  obtain ⟨ch', hafter, hch', -⟩ := after_of_closed hch later
  rw [hafter]
  exact perform_receive_of_closed hch'

end Begun

/-- **A channel that is started again works like a new one, if and only if it has never been closed or
stopped**: then the first text of its queue is given to the next one who asks, and all who ask after
that, as long as the channel is neither stopped nor in need of another start, are told the same as at
a new channel with the same queue. Otherwise all of them are told that nothing will come, and the
queue is left as it is. -/
theorem begun_as_new_iff {updater updater' : Updater} {pollTimeout pollTimeout' : Int}
    {history : List Operation} {a b : Attended} (h : Begun updater pollTimeout history a)
    (hnew : Begun updater' pollTimeout' [] b)
    (hsame : b.channel.updater.queue = a.channel.updater.queue) {us rest : List Update} {u : Update}
    {m : Message} (hqueue : a.channel.updater.queue = us ++ u :: rest)
    (hno : ∀ v ∈ us, v.text? = none) (hu : u.toMessage? = some m) :
    ((∀ op ∈ history, op.closes = false) ↔
      (a.perform .receive).1.reception = some (.ended (.message m)) ∧
        ∀ later : List Operation, a.Undisturbed later →
          a.receptions later = b.receptions later) ∧
    ((∃ op ∈ history, op.closes = true) →
      ∀ later : List Operation,
        (a.after later).perform .receive =
          ({ reception := some (.ended .disconnected) }, a.after later)) := by
  have hne : a.channel.updater.queue ≠ [] := by
    rw [hqueue]
    simp
  refine ⟨⟨?like_new, ?never_closed⟩, ?shut⟩
  case like_new =>
    intro hnever
    have hopen : history.any Operation.closes = false :=
      List.any_eq_false.mpr fun op hop => by simp [hnever op hop]
    have hopen' : (a.perform .receive).2.channel.closed = false := by
      rw [perform_closed, h.closed, hopen]
      rfl
    have hqueue' : a.channel.updater.queue ++ a.channel.brings .receive = us ++ u :: rest :=
      (List.append_nil _).trans hqueue
    refine ⟨perform_first hopen' (.inl rfl) hqueue' hno hu, fun later hlater => ?_⟩
    exact receptions_alike (h.alike hnew hsame.symm hne hopen rfl) hlater
  case never_closed =>
    rintro ⟨hfirst, -⟩ op hop
    cases hcloses : op.closes with
    | false => rfl
    | true =>
      have hshut := h.shut (List.any_eq_true.mpr ⟨op, hop, hcloses⟩) []
      rw [after_nil] at hshut
      rw [hshut] at hfirst
      cases hfirst
  case shut =>
    rintro ⟨op, hop, hcloses⟩
    exact h.shut (List.any_eq_true.mpr ⟨op, hop, hcloses⟩)

/-- A connection with one text queued, all of whose calls succeed. -/
def oneQueued : Updater where
  username := "sedbot"
  queue := [{ id := 1, message := some (.plain (.number 7) (.number 42) (some "one")) }]

/-- After polling has broken off, a channel is started again and works like a new one. -/
theorem begun_as_new_iff_broken_off :
    (((created oneQueued 30).after [.start, .setRunning false, .start]).perform
        .receive).1.reception =
      some (.ended (.message (.mk (.number 7) (.number 42) "one" .notReplying))) := by
  have h : Begun oneQueued 30 [.start, .setRunning false]
      ((created oneQueued 30).after [.start, .setRunning false, .start]) :=
    ⟨⟨rfl, fun s hs => by cases hs⟩, rfl, rfl⟩
  have hnew : Begun oneQueued 30 [] ((created oneQueued 30).after [.start]) :=
    ⟨⟨rfl, fun s hs => by cases hs⟩, rfl, rfl⟩
  have hno : ∀ v ∈ ([] : List Update), v.text? = none := fun v hv => absurd hv List.not_mem_nil
  refine ((begun_as_new_iff h hnew rfl rfl hno rfl).1.mp ?_).1
  simp [Operation.closes]

/-- After it has been stopped, a channel is started again, all of its calls succeed, and it delivers
nothing, where a new one gives the text that is queued. -/
theorem stopped_not_as_new :
    (∀ report ∈ (created oneQueued 30).reports [.start, .stop, .start],
      report.result = .done ∧ ∀ c ∈ report.activity.calls, c.failure = none) ∧
    ((created oneQueued 30).after [.start, .stop, .start]).channel.updater.queue =
      ((created oneQueued 30).after [.start]).channel.updater.queue ∧
    (((created oneQueued 30).after [.start, .stop, .start]).perform .receive).1.reception =
      some (.ended .disconnected) ∧
    (((created oneQueued 30).after [.start]).perform .receive).1.reception =
      some (.ended (.message (.mk (.number 7) (.number 42) "one" .notReplying))) := by
  refine ⟨?_, rfl, rfl, rfl⟩
  decide

end Attended

end SubstBot.Telegram
