import SubstBot.Proofs.Telegram.Conduct
import SubstBot.Telegram.Operation

/-!
# `SubstBot/Proofs/Telegram/History.lean` — histories of a channel

A history of a channel is a list of operations. `after` is how the channel stands behind it and
`reports` what it led to; **what each operation keeps, a history keeps** (`after_keeps`).

An operation acts on the channel, and then whoever asks for a message is looked after. The second
part takes updates from the front of the queue and does nothing else (`attend_channel`), so all that
is not about the queue is decided by what the operation does at once. Three such facts are drawn here:
a channel is closed exactly if an operation has closed it; a caller waits only at a channel that is
open and has nothing queued; and of a closed channel nothing is taken any more.
-/

set_option autoImplicit false

namespace SubstBot.Telegram

/-! ## What operations bring and close -/

/-- The updates with which the next period of polling begins. -/
def Updater.arriving (u : Updater) : List Update :=
  u.sessions.head?.elim [] Session.updates

theorem Updater.queue_started (u : Updater) : u.started.queue = u.queue ++ u.arriving := by
  rw [started, arriving]
  split
  case h_1 hs => simp [hs]
  case h_2 s rest hs =>
    obtain ⟨running, dies, h⟩ := settle_eq
      { u with running := true, queue := u.queue ++ s.updates, sessions := rest, dies := s.dies }
    rw [h, hs]
    rfl

/-- The operations that close a channel. -/
def Operation.closes : Operation → Bool
  | .stop => true
  | .close => true
  | _ => false

/-- The updates that an operation puts into the queue: one that comes by itself, or those with which
polling begins. -/
def Channel.brings (ch : Channel) : Operation → List Update
  | .put u => [u]
  | .start => if ch.updater.running || ch.start.1.isSome then [] else ch.updater.arriving
  | _ => []

theorem Channel.start_queue (ch : Channel) :
    ch.start.2.2.updater.queue = ch.updater.queue ++ ch.brings .start := by
  have h := start_started ch
  rw [brings]
  generalize ch.start.1 = e, ch.start.2.1.calls = calls, ch.start.2.2 = ch' at h ⊢
  cases h with
  | polling hrun => simp [hrun]
  | uncontacted hrun => simp [hrun]
  | unpolled hrun => simp [hrun]
  | started hrun =>
    rw [hrun]
    exact Updater.queue_started _

/-- What a caller is told of the receipt of a message, or of its absence. -/
def Reception.of : Option Receipt → Reception
  | none => .waiting
  | some r => .ended r

namespace Attended

/-! ## Histories -/

/-- A channel that has just been created. -/
def created (updater : Updater) (pollTimeout : Int) : Attended where
  channel := { updater, pollTimeout }

/-- How the channel stands after operations. -/
def after (a : Attended) (ops : List Operation) : Attended :=
  ops.foldl (fun a op => (a.perform op).2) a

/-- What operations led to, one after another. -/
def reports (a : Attended) (ops : List Operation) : List Report :=
  (a.performAll ops).map Prod.fst

/-- The updates that operations put into the queue, one after another. -/
def arrivals (a : Attended) : List Operation → List Update
  | [] => []
  | op :: ops => a.channel.brings op ++ (a.perform op).2.arrivals ops

@[simp] theorem after_nil (a : Attended) : a.after [] = a := rfl

@[simp] theorem after_cons (a : Attended) (op : Operation) (ops : List Operation) :
    a.after (op :: ops) = (a.perform op).2.after ops := rfl

@[simp] theorem after_append (a : Attended) (xs ys : List Operation) :
    a.after (xs ++ ys) = (a.after xs).after ys :=
  List.foldl_append

@[simp] theorem reports_nil (a : Attended) : a.reports [] = [] := rfl

@[simp] theorem reports_cons (a : Attended) (op : Operation) (ops : List Operation) :
    a.reports (op :: ops) = (a.perform op).1 :: (a.perform op).2.reports ops := rfl

@[simp] theorem reports_append (a : Attended) (xs ys : List Operation) :
    a.reports (xs ++ ys) = a.reports xs ++ (a.after xs).reports ys := by
  induction xs generalizing a with
  | nil => rfl
  | cons op xs ih =>
    rw [List.cons_append, reports_cons, reports_cons, ih, after_cons, List.cons_append]

/-- What each operation keeps, a history keeps. -/
theorem after_keeps {P : Attended → Prop} {ops : List Operation}
    (hstep : ∀ op ∈ ops, ∀ a, P a → P (a.perform op).2) {a : Attended} (h : P a) :
    P (a.after ops) := by
  induction ops generalizing a with
  | nil => exact h
  | cons op ops ih =>
    rw [after_cons]
    refine ih (fun op' hop' => hstep op' (List.mem_cons_of_mem op hop')) ?_
    exact hstep op List.mem_cons_self a h

/-! ## One operation -/

theorem perform_reception (a : Attended) (op : Operation) :
    (a.perform op).1.reception = (attend op a.waiting (act a.channel op).2.2).1 := rfl

theorem perform_after (a : Attended) (op : Operation) :
    (a.perform op).2 = (attend op a.waiting (act a.channel op).2.2).2.2 := rfl

theorem act_queue (ch : Channel) (op : Operation) :
    (act ch op).2.2.updater.queue = ch.updater.queue ++ ch.brings op := by
  cases op with
  | start => exact Channel.start_queue ch
  | stop =>
    show ch.stop.2.updater.queue = ch.updater.queue ++ []
    rw [(Channel.stop_stopped ch).frame.1, List.append_nil]
  | put u => rfl
  | _ => exact (List.append_nil ch.updater.queue).symm

theorem act_closed (ch : Channel) (op : Operation) :
    (act ch op).2.2.closed = (ch.closed || op.closes) := by
  cases op with
  | start =>
    show ch.start.2.2.closed = (ch.closed || false)
    rw [(Channel.start_tried ch).1.closed, Bool.or_false]
  | stop =>
    show ch.stop.2.closed = (ch.closed || true)
    rw [(Channel.stop_stopped ch).frame.2, Bool.or_true]
  | close => exact (Bool.or_true ch.closed).symm
  | _ => exact (Bool.or_false ch.closed).symm

/-- Looking after a caller makes no calls. -/
theorem perform_calls (a : Attended) (op : Operation) :
    (a.perform op).1.activity.calls = (act a.channel op).2.1.calls :=
  List.append_nil _

/-- Someone who waited is looked after again. -/
theorem attend_waiting (op : Operation) (ch : Channel) :
    attend op true ch =
      (some (.of ch.resume.1), ch.resume.2.1, ⟨ch.resume.2.2, ch.resume.1.isNone⟩) := by
  unfold attend
  rcases ch.resume with ⟨_ | r, logs, ch'⟩ <;> rfl

theorem attend_receive (ch : Channel) :
    attend .receive false ch =
      (some (.of ch.receive.1), ch.receive.2.1, ⟨ch.receive.2.2, ch.receive.1.isNone⟩) := by
  unfold attend
  rcases ch.receive with ⟨_ | r, logs, ch'⟩ <;> rfl

/-- Where nobody asks, nobody is looked after. -/
theorem attend_nobody {op : Operation} (h : op ≠ .receive) (ch : Channel) :
    attend op false ch = (none, [], ⟨ch, false⟩) := by
  cases op with
  | receive => exact absurd rfl h
  | _ => rfl

/-- Looking after a caller changes nothing but the queue. -/
theorem attend_channel (op : Operation) (waiting : Bool) (ch : Channel) :
    (attend op waiting ch).2.2.channel = ch ∨
      ∃ rest, (attend op waiting ch).2.2.channel = ch.taken rest := by
  cases waiting with
  | true =>
    rw [attend_waiting, Channel.resume]
    split
    · exact .inl rfl
    · exact Channel.takeFrom_channel ch _
  | false =>
    by_cases h : op = .receive
    · rw [h, attend_receive, Channel.receive]
      split
      · exact .inl rfl
      · exact Channel.takeFrom_channel ch _
    · rw [attend_nobody h]
      exact .inl rfl

theorem perform_closed (a : Attended) (op : Operation) :
    (a.perform op).2.channel.closed = (a.channel.closed || op.closes) := by
  rw [perform_after, ← act_closed]
  rcases attend_channel op a.waiting (act a.channel op).2.2 with h | ⟨rest, h⟩
  · rw [h]
  · rw [h]
    rfl

/-- **A channel is closed once an operation has closed it**, and no other operation changes that. -/
theorem after_closed (a : Attended) (ops : List Operation) :
    (a.after ops).channel.closed = (a.channel.closed || ops.any Operation.closes) := by
  induction ops generalizing a with
  | nil => exact (Bool.or_false a.channel.closed).symm
  | cons op ops ih => rw [after_cons, ih, perform_closed, List.any_cons, Bool.or_assoc]

/-! ## Waiting -/

/-- If a caller waits, then at a channel that is open and has nothing queued. -/
def Patient (a : Attended) : Prop :=
  a.waiting = true → a.channel.closed = false ∧ a.channel.updater.queue = []

theorem patient_takeFrom {ch : Channel} (hopen : ch.closed = false) {queue : List Update}
    (hq : ch.updater.queue = queue) :
    Patient ⟨(ch.takeFrom queue).2.2, (ch.takeFrom queue).1.isNone⟩ := by
  intro hwaits
  rcases Update.exists_first_text queue with hus | ⟨us, u, rest, m, rfl, hus, hu⟩
  · cases queue with
    | nil => exact ⟨hopen, hq⟩
    | cons u us =>
      rw [Channel.takeFrom_no_text hus (List.cons_ne_nil u us)]
      exact ⟨hopen, Channel.queue_taken ch []⟩
  · rw [Channel.takeFrom_text hus hu] at hwaits
    cases hwaits

theorem patient_perform {a : Attended} (h : Patient a) (op : Operation) :
    Patient (a.perform op).2 := by
  rw [perform_after]
  have hqueue := act_queue a.channel op
  have hclosed := act_closed a.channel op
  generalize (act a.channel op).2.2 = ch at hqueue hclosed ⊢
  cases hw : a.waiting with
  | true =>
    obtain ⟨hopen, hempty⟩ := h hw
    rw [attend_waiting, Channel.resume]
    split
    case h_1 hq =>
      intro hwaits
      refine ⟨?_, hq⟩
      cases hc : ch.closed with
      | false => rfl
      | true =>
        rw [hc] at hwaits
        cases hwaits
    case h_2 u rest hq =>
      -- An operation that closes the channel brings nothing, so the channel is open.
      refine patient_takeFrom ?_ hq
      rw [hclosed, hopen, Bool.false_or]
      rw [hq, hempty, List.nil_append] at hqueue
      cases op <;> first | rfl | cases hqueue
  | false =>
    by_cases hop : op = .receive
    · rw [hop, attend_receive, Channel.receive]
      cases hc : ch.closed with
      | true => exact fun hwaits => absurd hwaits Bool.false_ne_true
      | false => exact patient_takeFrom hc rfl
    · rw [attend_nobody hop]
      exact fun hwaits => absurd hwaits Bool.false_ne_true

theorem patient_after (updater : Updater) (pollTimeout : Int) (ops : List Operation) :
    Patient ((created updater pollTimeout).after ops) := by
  refine after_keeps (P := Patient) (fun op _ a h => patient_perform h op) ?_
  exact fun hwaits => absurd hwaits Bool.false_ne_true

/-! ## Closed channels -/

theorem perform_receive_of_closed {ch : Channel} (hclosed : ch.closed = true) :
    (⟨ch, false⟩ : Attended).perform .receive =
      ({ reception := some (.ended .disconnected) }, ⟨ch, false⟩) := by
  have hreceive : ch.receive = (some .disconnected, [], ch) := by
    rw [Channel.receive, if_pos hclosed]
  show (({ reception := (attend .receive false ch).1, activity := _ } : Report), _) = _
  rw [attend_receive, hreceive]
  rfl

/-- On a closed channel an operation comes to what it does at once. -/
theorem perform_of_closed {ch : Channel} (hclosed : ch.closed = true) (op : Operation) :
    ((⟨ch, false⟩ : Attended).perform op).2 = ⟨(act ch op).2.2, false⟩ := by
  by_cases hop : op = .receive
  · rw [hop, perform_receive_of_closed hclosed]
    rfl
  · rw [perform_after, attend_nobody hop]

/-- **What comes in after the closing is kept**: the channel stays closed, nobody waits at it, and
nothing is taken from its queue. -/
theorem after_of_closed {ch : Channel} (hclosed : ch.closed = true) (later : List Operation) :
    ∃ ch', (⟨ch, false⟩ : Attended).after later = ⟨ch', false⟩ ∧ ch'.closed = true ∧
      ch'.updater.queue = ch.updater.queue ++ (⟨ch, false⟩ : Attended).arrivals later := by
  induction later generalizing ch with
  | nil => exact ⟨ch, rfl, hclosed, (List.append_nil ch.updater.queue).symm⟩
  | cons op later ih =>
    have hclosed' : (act ch op).2.2.closed = true := by
      rw [act_closed, hclosed, Bool.true_or]
    obtain ⟨ch', hafter, hch', hqueue⟩ := ih hclosed'
    rw [after_cons, arrivals, perform_of_closed hclosed]
    refine ⟨ch', hafter, hch', ?_⟩
    rw [hqueue, act_queue, List.append_assoc]

/-- The closing answers whoever waits, and is all that happens. -/
theorem perform_close {a : Attended} (h : Patient a) :
    a.perform .close =
      ({ reception := if a.waiting then some (.ended .disconnected) else none },
        ⟨a.channel.close, false⟩) := by
  obtain ⟨ch, waiting⟩ := a
  cases waiting with
  | false => rfl
  | true =>
    have hempty : ch.close.updater.queue = [] := (h rfl).2
    have hresume : ch.close.resume = (some .disconnected, [], ch.close) := by
      rw [Channel.resume, hempty]
      rfl
    show (({ reception := (attend .close true ch.close).1, activity := _ } : Report), _) = _
    rw [attend_waiting, hresume]
    rfl

end Attended

end SubstBot.Telegram
