import SubstBot.Proofs.Telegram.History

/-!
# `SubstBot/Proofs/Telegram/Delivery.lean` — first in, first out

An open channel gives the texts that come in, each once and in the order in which they came. Updates
without a text are dropped on the way, but only those in front of a text that is given, or all that
are queued when there is none to give.

`Handed` says this of one operation: from the queue with what the operation brought, to what the
caller is told and the channel that is left. **What is given and what is still queued are together
what came in**, for one operation (`Handed.conserves`) and so for any number of them
(`delivered_conserves`). A caller who is kept waiting has the updates dropped meanwhile in front of
its message as well (`kept_waiting`).
-/

set_option autoImplicit false

namespace SubstBot.Telegram

/-- The text in an update: that of its message, or of its post if there is no message. -/
def Update.text? (u : Update) : Option String :=
  u.post?.bind Post.text

theorem Update.toMessage?_eq_none_iff (u : Update) : u.toMessage? = none ↔ u.text? = none := by
  rw [toMessage?, text?]
  cases u.post? with
  | none => exact iff_of_true rfl rfl
  | some p => cases p <;> exact Option.map_eq_none_iff

/-- The message that a caller is given. -/
def Reception.message? : Reception → Option Message
  | .waiting => none
  | .ended r => r.message?

namespace Attended

/-! ## One operation -/

/-- **What a caller is told** when `queue` is there to be taken from, and what is left. Someone who is
told nothing yet goes on waiting. -/
inductive Handed (queue : List Update) : Option Reception → Attended → Prop where
  | unasked {ch : Channel} (hqueue : ch.updater.queue = queue) : Handed queue none ⟨ch, false⟩
  | waiting {ch : Channel} (hno : ∀ u ∈ queue, u.text? = none) (hempty : ch.updater.queue = []) :
      Handed queue (some .waiting) ⟨ch, true⟩
  | message {us : List Update} {u : Update} {m : Message} {ch : Channel}
      (hqueue : queue = us ++ u :: ch.updater.queue) (hno : ∀ v ∈ us, v.text? = none)
      (hu : u.toMessage? = some m) : Handed queue (some (.ended (.message m))) ⟨ch, false⟩
  | failed {ch : Channel} (hno : ∀ u ∈ queue, u.text? = none) (hempty : ch.updater.queue = [])
      (hstopped : ch.updater.running = false) :
      Handed queue (some (.ended (.failed Channel.notRunning))) ⟨ch, false⟩

theorem handed_whenEmpty {queue : List Update} {ch : Channel}
    (hno : ∀ u ∈ queue, u.text? = none) (hempty : ch.updater.queue = []) :
    Handed queue (some (.of ch.whenEmpty)) ⟨ch, ch.whenEmpty.isNone⟩ := by
  rw [Channel.whenEmpty]
  cases hrun : ch.updater.running with
  | true => exact .waiting hno hempty
  | false => exact .failed hno hempty hrun

theorem handed_takeFrom {ch : Channel} {queue : List Update} (hq : ch.updater.queue = queue) :
    Handed queue (some (.of (ch.takeFrom queue).1))
      ⟨(ch.takeFrom queue).2.2, (ch.takeFrom queue).1.isNone⟩ := by
  rcases Update.exists_first_text queue with hus | ⟨us, u, rest, m, hsplit, hus, hu⟩
  · have hno : ∀ u ∈ queue, u.text? = none := fun u hu => u.toMessage?_eq_none_iff.mp (hus u hu)
    cases queue with
    | nil => exact handed_whenEmpty hno hq
    | cons u us =>
      rw [Channel.takeFrom_no_text hus (List.cons_ne_nil u us)]
      exact handed_whenEmpty hno (Channel.queue_taken ch [])
  · have hno : ∀ v ∈ us, v.text? = none := fun v hv => v.toMessage?_eq_none_iff.mp (hus v hv)
    rw [hsplit, Channel.takeFrom_text hus hu]
    refine .message ?_ hno hu
    rw [Channel.queue_taken]

/-- **One operation on an open channel.** -/
theorem perform_handed {a : Attended} {op : Operation}
    (hopen : (a.perform op).2.channel.closed = false) :
    Handed (a.channel.updater.queue ++ a.channel.brings op) (a.perform op).1.reception
      (a.perform op).2 := by
  rw [perform_closed] at hopen
  have hclosed := act_closed a.channel op
  rw [hopen] at hclosed
  rw [← act_queue, perform_reception, perform_after]
  generalize (act a.channel op).2.2 = ch at hclosed ⊢
  cases a.waiting with
  | true =>
    rw [attend_waiting, Channel.resume]
    split
    case h_1 hq =>
      rw [hclosed, hq]
      exact .waiting (fun u hu => absurd hu List.not_mem_nil) hq
    case h_2 u rest hq =>
      rw [hq]
      exact handed_takeFrom hq
  | false =>
    by_cases hop : op = .receive
    · rw [hop, attend_receive, Channel.receive, hclosed]
      exact handed_takeFrom rfl
    · rw [attend_nobody hop]
      exact .unasked rfl

theorem filterMap_no_text {us : List Update} (hno : ∀ u ∈ us, u.text? = none) :
    us.filterMap Update.toMessage? = [] :=
  List.filterMap_eq_nil_iff.mpr fun u hu => u.toMessage?_eq_none_iff.mpr (hno u hu)

/-- Nothing is lost of the messages in the queue, and nothing is given twice. -/
theorem Handed.conserves {queue : List Update} {r : Option Reception} {a : Attended}
    (h : Handed queue r a) :
    (r.bind Reception.message?).toList ++ a.channel.updater.queue.filterMap Update.toMessage? =
      queue.filterMap Update.toMessage? := by
  cases h with
  | unasked hqueue =>
    rw [hqueue]
    rfl
  | waiting hno hempty =>
    rw [hempty, filterMap_no_text hno]
    rfl
  | message hqueue hno hu =>
    rw [hqueue, List.filterMap_append, filterMap_no_text hno, List.filterMap_cons_some hu]
    rfl
  | failed hno hempty =>
    rw [hempty, filterMap_no_text hno]
    rfl

/-- Someone who asks or waits is told something. -/
theorem perform_asked {a : Attended} {op : Operation} (hasks : op = .receive ∨ a.waiting = true) :
    ∃ r, (a.perform op).1.reception = some r := by
  rw [perform_reception]
  cases hw : a.waiting with
  | true => exact ⟨_, by rw [attend_waiting]⟩
  | false =>
    rw [hw] at hasks
    obtain rfl := hasks.resolve_right Bool.false_ne_true
    exact ⟨_, by rw [attend_receive]⟩

/-- Where there is a text to be taken, the first one is what a caller is told. -/
theorem Handed.message_eq {us : List Update} {u : Update} {rest : List Update} {m : Message}
    {r : Reception} {a : Attended} (h : Handed (us ++ u :: rest) (some r) a)
    (hno : ∀ v ∈ us, v.text? = none) (hu : u.toMessage? = some m) :
    r = .ended (.message m) := by
  have hconserves := h.conserves
  rw [List.filterMap_append, filterMap_no_text hno, List.filterMap_cons_some hu] at hconserves
  cases h with
  | waiting hno hempty =>
    rw [hempty] at hconserves
    cases hconserves
  | message hqueue hno' hu' => rw [(List.cons.inj hconserves).1]
  | failed hno hempty =>
    rw [hempty] at hconserves
    cases hconserves

/-- **Whoever asks while there is a text gets the first one**, polling or not. -/
theorem perform_first {a : Attended} {op : Operation}
    (hopen : (a.perform op).2.channel.closed = false) (hasks : op = .receive ∨ a.waiting = true)
    {us rest : List Update} {u : Update} {m : Message}
    (hqueue : a.channel.updater.queue ++ a.channel.brings op = us ++ u :: rest)
    (hno : ∀ v ∈ us, v.text? = none) (hu : u.toMessage? = some m) :
    (a.perform op).1.reception = some (.ended (.message m)) := by
  have hhanded := perform_handed hopen
  obtain ⟨r, hr⟩ := perform_asked hasks
  rw [hr, hqueue] at hhanded
  rw [hr, hhanded.message_eq hno hu]

/-! ## Histories -/

/-- The messages that callers were given, in the order in which they were given. -/
def delivered (a : Attended) (ops : List Operation) : List Message :=
  (a.reports ops).filterMap fun report => report.reception.bind Reception.message?

theorem delivered_cons (a : Attended) (op : Operation) (ops : List Operation) :
    a.delivered (op :: ops) =
      ((a.perform op).1.reception.bind Reception.message?).toList ++
        (a.perform op).2.delivered ops := by
  rw [delivered, reports_cons]
  cases h : (a.perform op).1.reception.bind Reception.message? with
  | none => exact List.filterMap_cons_none h
  | some m => exact List.filterMap_cons_some h

theorem open_of_append {a : Attended} {xs ys : List Operation}
    (hopen : (a.after (xs ++ ys)).channel.closed = false) :
    (a.after xs).channel.closed = false := by
  rw [after_append, after_closed, Bool.or_eq_false_iff] at hopen
  exact hopen.1

theorem open_of_cons {a : Attended} {op : Operation} {ops : List Operation}
    (hopen : (a.after (op :: ops)).channel.closed = false) :
    (a.perform op).2.channel.closed = false := by
  rw [after_cons, after_closed, Bool.or_eq_false_iff] at hopen
  exact hopen.1

/-- **Conservation.** -/
theorem delivered_conserves {a : Attended} {ops : List Operation}
    (hopen : (a.after ops).channel.closed = false) :
    a.delivered ops ++ (a.after ops).channel.updater.queue.filterMap Update.toMessage? =
      (a.channel.updater.queue ++ a.arrivals ops).filterMap Update.toMessage? := by
  induction ops generalizing a with
  | nil => rw [arrivals, List.append_nil]; rfl
  | cons op ops ih =>
    have hfirst : (a.perform op).2.channel.closed = false := open_of_cons hopen
    have hhanded := (perform_handed hfirst).conserves
    rw [List.filterMap_append] at hhanded
    calc a.delivered (op :: ops) ++
          (a.after (op :: ops)).channel.updater.queue.filterMap Update.toMessage?
        = ((a.perform op).1.reception.bind Reception.message?).toList ++
            ((a.perform op).2.delivered ops ++
              ((a.perform op).2.after ops).channel.updater.queue.filterMap Update.toMessage?) := by
          rw [delivered_cons, List.append_assoc, after_cons]
      _ = ((a.perform op).1.reception.bind Reception.message?).toList ++
            ((a.perform op).2.channel.updater.queue.filterMap Update.toMessage? ++
              ((a.perform op).2.arrivals ops).filterMap Update.toMessage?) := by
          rw [ih hopen, List.filterMap_append]
      _ = (a.channel.updater.queue ++ a.arrivals (op :: ops)).filterMap Update.toMessage? := by
          rw [← List.append_assoc, hhanded, arrivals, List.filterMap_append, List.filterMap_append,
            List.append_assoc]

/-! ## One caller -/

/-- What was dropped while someone waited is in front of what comes later. -/
theorem Handed.of_append {us queue : List Update} {r : Reception} {a : Attended}
    (hno : ∀ u ∈ us, u.text? = none) (h : Handed queue (some r) a) :
    Handed (us ++ queue) (some r) a := by
  cases h with
  | waiting hno' hempty =>
    exact .waiting (fun u hu => (List.mem_append.mp hu).elim (hno u) (hno' u)) hempty
  | message hqueue hno' hu =>
    refine .message ?_ (fun v hv => (List.mem_append.mp hv).elim (hno v) (hno' v)) hu
    rw [hqueue, List.append_assoc]
  | failed hno' hempty hstopped =>
    exact .failed (fun u hu => (List.mem_append.mp hu).elim (hno u) (hno' u)) hempty hstopped

/-- What operations tell a caller, one after another. -/
def receptions (a : Attended) (ops : List Operation) : List (Option Reception) :=
  (a.reports ops).map Report.reception

theorem receptions_cons (a : Attended) (op : Operation) (ops : List Operation) :
    a.receptions (op :: ops) = (a.perform op).1.reception :: (a.perform op).2.receptions ops := rfl

/-- A caller is kept waiting by some operations, and then it is told `r`. All that was queued
meanwhile was there to be taken for it. -/
theorem kept_waiting {a : Attended} {op : Operation} {during : List Operation} {r : Reception}
    (hopen : (a.after (op :: during)).channel.closed = false)
    (htold : a.receptions (op :: during) =
      List.replicate during.length (some .waiting) ++ [some r]) :
    Handed (a.channel.updater.queue ++ a.arrivals (op :: during)) (some r)
      (a.after (op :: during)) := by
  induction during generalizing a op with
  | nil =>
    have hhanded := perform_handed (open_of_cons hopen)
    rw [receptions_cons] at htold
    have htold' : (a.perform op).1.reception = some r := (List.cons.inj htold).1
    rw [htold'] at hhanded
    rw [arrivals, arrivals, List.append_nil]
    exact hhanded
  | cons op' during ih =>
    have hfirst : (a.perform op).2.channel.closed = false := open_of_cons hopen
    have hhanded := perform_handed hfirst
    rw [receptions_cons] at htold
    obtain ⟨hwaits, hlater⟩ := List.cons.inj htold
    rw [hwaits] at hhanded
    have hend := ih (a := (a.perform op).2) hopen hlater
    rw [arrivals, after_cons, ← List.append_assoc]
    generalize (a.perform op).2 = b at hhanded hend ⊢
    cases hhanded with
    | waiting hno hempty =>
      rw [hempty] at hend
      exact hend.of_append hno

/-! ## The whole -/

/-- **An open channel delivers in order.** -/
structure InOrder (a : Attended) (ops : List Operation) : Prop where
  /-- What was given, and what of the queue is still to be given, is what came in. -/
  conserved : a.delivered ops ++ (a.after ops).channel.updater.queue.filterMap Update.toMessage? =
    (a.channel.updater.queue ++ a.arrivals ops).filterMap Update.toMessage?
  /-- Who asks, and is told to wait or answered, takes from the front of all that was queued
  meanwhile. -/
  asked : ∀ before during later r, ops = before ++ .receive :: during ++ later →
    (a.after before).waiting = false →
    (a.after before).receptions (.receive :: during) =
      List.replicate during.length (some .waiting) ++ [some r] →
    Handed ((a.after before).channel.updater.queue ++
        (a.after before).arrivals (.receive :: during)) (some r)
      (a.after (before ++ .receive :: during))
  /-- Who asks or still waits is given the first text as soon as there is one, polling or not. -/
  prompt : ∀ before op later us u rest m, ops = before ++ op :: later →
    (op = .receive ∨ (a.after before).waiting = true) →
    (a.after before).channel.updater.queue ++ (a.after before).channel.brings op =
      us ++ u :: rest →
    (∀ v ∈ us, v.text? = none) → u.toMessage? = some m →
    ((a.after before).perform op).1.reception = some (.ended (.message m))

/-- **First in, first out.** Whatever is done with a channel, as long as it is not closed. -/
theorem delivers_in_order {a : Attended} {ops : List Operation}
    (hopen : (a.after ops).channel.closed = false) : InOrder a ops where
  conserved := delivered_conserves hopen
  asked := by
    rintro before during later r rfl - htold
    have hasked := open_of_append hopen
    rw [after_append] at hasked ⊢
    exact kept_waiting hasked htold
  prompt := by
    rintro before op later us u rest m rfl hasks hqueue hno hu
    have hlater : ((a.after before).after (op :: later)).channel.closed = false := by
      rw [← after_append]
      exact hopen
    exact perform_first (open_of_cons hlater) hasks hqueue hno hu

/-- Two texts with something else in front of each; polling stops in between. -/
def interrupted : List Operation :=
  [.start, .receive, .put { id := 1 },
    .put { id := 2, message := some (.plain (.number 7) (.number 42) (some "one")) },
    .setRunning false, .put { id := 3, message := some (.plain (.number 8) (.number 42) none) },
    .put { id := 4, channelPost := some (.plain (.number 9) (.number 43) (some "two")) },
    .receive, .receive]

/-- The first text is given to someone who waits for it, and the second one though nothing is polled
any more. -/
theorem delivers_in_order_interrupted :
    (created { username := "sedbot" } 30).receptions interrupted =
        [none, some .waiting, some .waiting,
          some (.ended (.message (.mk (.number 7) (.number 42) "one" .notReplying))), none, none, none,
          some (.ended (.message (.mk (.number 9) (.number 43) "two" .notReplying))),
          some (.ended (.failed Channel.notRunning))] ∧
      InOrder (created { username := "sedbot" } 30) interrupted :=
  ⟨rfl, delivers_in_order rfl⟩

end Attended

end SubstBot.Telegram
