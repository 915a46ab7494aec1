import SubstBot.Proofs.Telegram.Queue

/-!
# `SubstBot/Proofs/Telegram/Mishaps.lean` — failures are used up

What can go wrong with a connection is given beforehand, and there is only so much of it: outcomes of
calls, and periods of polling that break off. `Updater.credit` counts both. Nothing that a channel
does raises it, and **each failure that a channel reports has lowered it**: a call that fails has
used up its outcome, and polling that has broken off has used up the period in which it was to.

So a bot that starts over after every failure does so finitely often, and the number of runs that it
is given is enough.
-/

set_option autoImplicit false

namespace SubstBot.Telegram

namespace Updater

/-- The failures that can still come, counting the one of the present period of polling. -/
def credit (u : Updater) : Nat :=
  u.mishaps + if u.dies then 1 else 0

theorem mishaps_eq (u : Updater) :
    u.mishaps = (u.outcomes .contact).length + (u.outcomes .startPolling).length +
      (u.outcomes .stop).length + (u.outcomes .shutdown).length +
      (u.outcomes .sendMessage).length + u.sessions.length := by
  simp only [mishaps, Method.all, List.foldr_cons, List.foldr_nil]
  omega

theorem mishaps_next (u : Updater) (m : Method) :
    (u.next m).2.mishaps + (u.outcomes m).length =
      u.mishaps + (u.outcomes m).tail.length := by
  rw [mishaps_eq, mishaps_eq]
  cases m <;> simp [next] <;> omega

theorem credit_next_le (u : Updater) (m : Method) : (u.next m).2.credit ≤ u.credit := by
  have h := mishaps_next u m
  have hdies : (u.next m).2.dies = u.dies := rfl
  rw [List.length_tail] at h
  rw [credit, credit, hdies]
  omega

/-- A call that fails has an outcome to use up. -/
theorem credit_next_lt {u : Updater} {m : Method} (h : (u.next m).1.isSome = true) :
    (u.next m).2.credit < u.credit := by
  have hnext := mishaps_next u m
  have hdies : (u.next m).2.dies = u.dies := rfl
  have hout : (u.outcomes m).length ≠ 0 := by
    intro hzero
    rw [next, List.length_eq_zero_iff.mp hzero] at h
    exact absurd h Bool.false_ne_true
  rw [List.length_tail] at hnext
  rw [credit, credit, hdies]
  omega

/-- Since there were `c` failures to come, none has come in vain: the connection is polling, or one
of them has been used up. -/
structure Within (u : Updater) (c : Nat) : Prop where
  le : u.credit ≤ c
  lt_of_stopped : u.running = false → u.credit < c

theorem Within.mono {c c' : Nat} {u : Updater} (h : Within u c) (hc : c ≤ c') : Within u c' where
  le := Nat.le_trans h.le hc
  lt_of_stopped hrun := Nat.lt_of_lt_of_le (h.lt_of_stopped hrun) hc

theorem Within.next {c : Nat} {u : Updater} (h : Within u c) (m : Method) :
    Within (u.next m).2 c where
  le := Nat.le_trans (credit_next_le u m) h.le
  lt_of_stopped hrun := Nat.lt_of_le_of_lt (credit_next_le u m) (h.lt_of_stopped hrun)

/-- Polling breaks off at the price of the period in which it was to. -/
theorem Within.settle {c : Nat} {u : Updater} (h : Within u c) : Within u.settle c := by
  rw [Updater.settle]
  split
  case isTrue hset =>
    have hdies : u.dies = true := (Bool.and_eq_true_iff.mp hset).1
    have hle := h.le
    rw [credit, hdies, if_pos rfl] at hle
    exact ⟨Nat.le_of_lt hle, fun _ => hle⟩
  case isFalse => exact h

theorem started_within (u : Updater) : Within u.started u.credit := by
  rw [started]
  split
  case h_1 hs =>
    exact ⟨Nat.le_add_right u.mishaps _, fun hrun => absurd hrun (by simp)⟩
  case h_2 s rest hs =>
    -- The period that begins has been counted among those to come.
    have hmishaps : u.mishaps = ({ u with sessions := rest } : Updater).mishaps + 1 := by
      rw [mishaps_eq, mishaps_eq, hs]
      simp only [List.length_cons]
      omega
    refine Within.settle ⟨?_, fun hrun => absurd hrun (by simp)⟩
    refine Nat.le_trans ?_ (Nat.le_add_right u.mishaps _)
    rw [hmishaps]
    refine Nat.add_le_add_left ?_ ({ u with sessions := rest } : Updater).mishaps
    split
    · exact Nat.le_refl 1
    · exact Nat.zero_le 1

theorem Within.taken {c : Nat} {u : Updater} (h : Within u c) (rest : List Update) :
    Within (u.taken rest) c :=
  Within.settle (u := { u with queue := rest }) ⟨h.le, h.lt_of_stopped⟩

end Updater

namespace Channel

/-! ## Operations that can fail -/

/-- Something was tried on a channel: it has lowered the credit if it failed, and it has not closed
the channel. -/
structure Tried (ch : Channel) (result : Option TransportError) (ch' : Channel) : Prop where
  closed : ch'.closed = ch.closed
  le : ch'.updater.credit ≤ ch.updater.credit
  lt_of_failed : result.isSome = true → ch'.updater.credit < ch.updater.credit

theorem Tried.next {ch ch' : Channel} {m : Method} {outcome : Option Error}
    (h : ch.next m = (outcome, ch')) (f : Error → TransportError) :
    Tried ch (outcome.map f) ch' := by
  obtain ⟨rfl, rfl⟩ := Prod.mk.inj h.symm
  refine ⟨rfl, Updater.credit_next_le ch.updater m, fun hf => ?_⟩
  rw [Option.isSome_map] at hf
  exact Updater.credit_next_lt hf

/-- What is tried after a failure, or after something that has not failed, counts as tried. -/
theorem Tried.trans {ch ch' ch'' : Channel} {r r' : Option TransportError} (h : Tried ch r ch')
    (h' : Tried ch' r' ch'') : Tried ch r' ch'' where
  closed := h'.closed.trans h.closed
  le := Nat.le_trans h'.le h.le
  lt_of_failed hf := Nat.lt_of_lt_of_le (h'.lt_of_failed hf) h.le

theorem contactFrom_tried (ch : Channel) (attempt : Nat) (delays : List Nat) :
    Tried ch (ch.contactFrom attempt delays).1 (ch.contactFrom attempt delays).2.2 := by
  induction delays generalizing ch attempt with
  | nil =>
    rw [contactFrom]
    rcases hn : ch.next .contact with ⟨_ | e, ch'⟩
    all_goals have hnext := Tried.next hn (failure "Telegram init failed")
    · exact ⟨hnext.closed, hnext.le, hnext.lt_of_failed⟩
    · exact hnext
  | cons delay delays ih =>
    rw [contactFrom]
    rcases hn : ch.next .contact with ⟨_ | e, ch'⟩
    all_goals have hnext := Tried.next hn (failure "Telegram init failed")
    · exact ⟨hnext.closed, hnext.le, hnext.lt_of_failed⟩
    · dsimp only
      split
      · exact hnext.trans (ih _ _)
      · exact hnext

theorem contact_tried (ch : Channel) : Tried ch ch.contact.1 ch.contact.2.2 := by
  rw [contact]
  split
  · exact ⟨rfl, Nat.le_refl _, fun hf => absurd hf Bool.false_ne_true⟩
  · exact contactFrom_tried ch 1 initDelays

/-- Once polling has started, the connection is within the credit. -/
theorem startPolling_tried (ch : Channel) :
    Tried ch ch.startPolling.1 ch.startPolling.2.2 ∧
      (ch.startPolling.1 = none → ch.startPolling.2.2.updater.Within ch.updater.credit) := by
  rw [startPolling]
  rcases hn : ch.next .startPolling with ⟨_ | e, ch'⟩
  all_goals have hnext := Tried.next hn (failure "Telegram polling failed to start")
  · have hstarted := Updater.started_within ch'.updater
    refine ⟨⟨hnext.closed, Nat.le_trans hstarted.le hnext.le, fun hf => absurd hf (by simp)⟩, ?_⟩
    exact fun _ => hstarted.mono hnext.le
  · exact ⟨hnext, fun h => absurd h (by simp)⟩

/-- **Starting**: it fails at a price, and otherwise the connection is within the credit. -/
theorem start_tried (ch : Channel) :
    Tried ch ch.start.1 ch.start.2.2 ∧
      (ch.start.1 = none → ch.start.2.2.updater.Within ch.updater.credit) := by
  rw [start]
  split
  case isTrue hrun =>
    refine ⟨⟨rfl, Nat.le_refl _, fun hf => absurd hf Bool.false_ne_true⟩, fun _ => ?_⟩
    exact ⟨Nat.le_refl _, fun hstopped => absurd (hrun.symm.trans hstopped) (by simp)⟩
  case isFalse =>
    have hcontact := contact_tried ch
    generalize ch.contact = r at hcontact ⊢
    obtain ⟨_ | e, done, ch'⟩ := r
    · obtain ⟨htried, hwithin⟩ := startPolling_tried ch'
      exact ⟨hcontact.trans htried, fun h => (hwithin h).mono hcontact.le⟩
    · exact ⟨hcontact, fun h => absurd h (by simp)⟩

theorem send_tried (m : Outgoing) (ch : Channel) : Tried ch (ch.send m).1 (ch.send m).2.2 :=
  Tried.next rfl _

/-! ## Receiving -/

/-- What a receipt says of the channel that gave it: a message has left the queue, a failure has its
price, and when there is nothing to give, nothing is left. -/
def Served (c : Nat) (ch : Channel) (r : Option Receipt) (ch' : Channel) : Prop :=
  ch'.closed = ch.closed ∧
  match r with
  | some (.message _) =>
    ch'.updater.Within c ∧ ch'.updater.queue.length < ch.updater.queue.length
  | some (.failed _) => ch'.updater.credit < c
  | _ => ch'.updater.queue = []

theorem Served.after {c : Nat} {ch ch' ch'' : Channel} {r : Option Receipt}
    (h : Served c ch' r ch'') (hclosed : ch'.closed = ch.closed)
    (hle : ch'.updater.queue.length ≤ ch.updater.queue.length) : Served c ch r ch'' := by
  refine ⟨h.1.trans hclosed, ?_⟩
  rcases r with _ | m | _ | e
  · exact h.2
  · exact ⟨h.2.1, Nat.lt_of_lt_of_le h.2.2 hle⟩
  · exact h.2
  · exact h.2

theorem takeFrom_served {c : Nat} {ch : Channel} {queue : List Update}
    (hq : ch.updater.queue = queue) (hc : ch.updater.Within c) :
    Served c ch (ch.takeFrom queue).1 (ch.takeFrom queue).2.2 := by
  induction queue generalizing ch with
  | nil =>
    rw [takeFrom, whenEmpty]
    cases hrun : ch.updater.running with
    | true => exact ⟨rfl, hq⟩
    | false => exact ⟨rfl, hc.lt_of_stopped hrun⟩
  | cons u rest ih =>
    have htaken : (ch.taken rest).updater.Within c := hc.taken rest
    have hshorter : (ch.taken rest).updater.queue.length < ch.updater.queue.length := by
      rw [queue_taken, hq]
      exact Nat.lt_succ_self rest.length
    have hlater : Served c ch ((ch.taken rest).takeFrom rest).1
        ((ch.taken rest).takeFrom rest).2.2 :=
      (ih (queue_taken ch rest) htaken).after rfl (Nat.le_of_lt hshorter)
    rw [takeFrom]
    dsimp only
    cases u.post? with
    | none => exact hlater
    | some p =>
      dsimp only
      cases p.toMessage? with
      | none => exact hlater
      | some m => exact ⟨rfl, htaken, hshorter⟩

/-- A request of an open channel that is within the credit. -/
theorem receive_served {c : Nat} {ch : Channel} (hopen : ch.closed = false)
    (hc : ch.updater.Within c) : Served c ch ch.receive.1 ch.receive.2.2 := by
  rw [receive, hopen, if_neg Bool.false_ne_true]
  exact takeFrom_served rfl hc

end Channel

end SubstBot.Telegram
