import SubstBot.Proofs.Telegram.History

/-!
# `SubstBot/Proofs/Telegram/Lifecycle.lean` — which calls a channel makes, and when

A connection is contacted, polls, stops polling, and ends the contact, and each of these calls can
fail. It takes them only in this order: to poll without a contact, say, is an error of the caller. The
channel keeps two **marks**, whether the contact stands and whether polling goes on, and decides by
them which call comes next.

`Path` says of calls that each was made when it may be, judged by what the calls before it have come
to. **Every operation of a channel is a path from its marks before to its marks after**
(`perform_path`), whichever of its calls fail. So the calls of a whole history are one path
(`after_path`), and from this follow the rest: the calls that succeed alternate, what a failed start
has left is taken up by the next one, and stopping twice makes no calls the second time.

This is about connections that stop polling only when they are told to (`Updater.Steady`).
-/

set_option autoImplicit false

namespace SubstBot.Telegram

/-! ## Marks and paths -/

/-- What has become of a connection: whether the contact stands, and whether polling goes on. -/
structure Marks where
  contacted : Bool := false
  polling : Bool := false
  deriving DecidableEq, Repr

namespace Marks

/-- The marks after a call: one that fails changes nothing. -/
def after (s : Marks) : CallRecord → Marks
  | ⟨.contact, none⟩ => { s with contacted := true }
  | ⟨.startPolling _ _ _, none⟩ => { s with polling := true }
  | ⟨.stop, none⟩ => { s with polling := false }
  | ⟨.shutdown, none⟩ => { s with contacted := false }
  | _ => s

/-- When a call may be made. -/
def Admits (s : Marks) : Call → Prop
  | .contact => s.contacted = false ∧ s.polling = false
  | .startPolling _ _ _ => s.contacted = true ∧ s.polling = false
  | .stop => s.polling = true
  | .shutdown => s.contacted = true ∧ s.polling = false
  | _ => True

@[simp] theorem after_failed (s : Marks) (call : Call) (e : Error) :
    s.after ⟨call, some e⟩ = s := by
  cases call <;> rfl

end Marks

/-- **Calls that may be made**, one after another, between the marks at both ends. -/
inductive Path : Marks → List CallRecord → Marks → Prop where
  | nil {s : Marks} : Path s [] s
  | cons {s s' : Marks} {c : CallRecord} {cs : List CallRecord} (hc : s.Admits c.call)
      (hcs : Path (s.after c) cs s') : Path s (c :: cs) s'

namespace Path

variable {s s' s'' : Marks} {cs ds : List CallRecord}

theorem append (h : Path s cs s') (h' : Path s' ds s'') : Path s (cs ++ ds) s'' := by
  induction h with
  | nil => exact h'
  | cons hc _ ih => exact .cons hc (ih h')

theorem single {c : CallRecord} (hc : s.Admits c.call) : Path s [c] (s.after c) :=
  .cons hc .nil

/-- Where a path ends is told by its calls. -/
theorem marks_eq (h : Path s cs s') : s' = cs.foldl Marks.after s := by
  induction h with
  | nil => rfl
  | cons _ _ ih => exact ih

/-- Each call of a path is one that the calls before it admit. -/
theorem admits (h : Path s cs s') {before later : List CallRecord} {c : CallRecord}
    (hcs : cs = before ++ c :: later) : (before.foldl Marks.after s).Admits c.call := by
  induction h generalizing before with
  | nil => exact absurd hcs (by simp)
  | cons hc _ ih =>
    cases before with
    | nil =>
      obtain ⟨rfl, -⟩ := List.cons.inj hcs
      exact hc
    | cons d before =>
      obtain ⟨rfl, hrest⟩ := List.cons.inj hcs
      exact ih hrest

end Path

/-! ## Alternation -/

/-- The method of a call that succeeded, if it is one of a channel's life. -/
def CallRecord.succeeded? : CallRecord → Option Method
  | ⟨.contact, none⟩ => some .contact
  | ⟨.startPolling _ _ _, none⟩ => some .startPolling
  | ⟨.stop, none⟩ => some .stop
  | ⟨.shutdown, none⟩ => some .shutdown
  | _ => none

/-- The calls of two methods that succeeded, in order. -/
def successes (a b : Method) (cs : List CallRecord) : List Method :=
  (cs.filterMap CallRecord.succeeded?).filter fun m => m == a || m == b

/-- A row of methods in which `a` and `b` take turns, beginning with `a`. -/
def Alternate (a b : Method) : List Method → Prop
  | [] => True
  | m :: ms => m = a ∧ Alternate b a ms

/-- The turn that comes next: `b` if the mark is set, else `a`. -/
def TakeTurns (marked : Bool) (a b : Method) (ms : List Method) : Prop :=
  if marked then Alternate b a ms else Alternate a b ms

theorem Path.contacts {s s' : Marks} {cs : List CallRecord} (h : Path s cs s') :
    TakeTurns s.contacted .contact .shutdown (successes .contact .shutdown cs) := by
  induction h with
  | @nil s => cases hs : s.contacted <;> trivial
  | @cons s s' c cs hc hcs ih =>
    obtain ⟨call, _ | e⟩ := c
    · cases call with
      | contact =>
        rw [hc.1]
        exact ⟨rfl, ih⟩
      | shutdown =>
        rw [hc.1]
        exact ⟨rfl, ih⟩
      | _ => exact ih
    · rw [Marks.after_failed] at ih
      cases call <;> exact ih

theorem Path.polls {s s' : Marks} {cs : List CallRecord} (h : Path s cs s') :
    TakeTurns s.polling .startPolling .stop (successes .startPolling .stop cs) := by
  induction h with
  | @nil s => cases hs : s.polling <;> trivial
  | @cons s s' c cs hc hcs ih =>
    obtain ⟨call, _ | e⟩ := c
    · cases call with
      | startPolling timeout allowed dropPending =>
        rw [hc.2]
        exact ⟨rfl, ih⟩
      | stop =>
        rw [show s.polling = true from hc]
        exact ⟨rfl, ih⟩
      | _ => exact ih
    · rw [Marks.after_failed] at ih
      cases call <;> exact ih

/-! ## Connections that stop only when told to -/

/-- Polling does not break off by itself, neither in this period nor in one to come. -/
structure Updater.Steady (u : Updater) : Prop where
  dies : u.dies = false
  sessions : ∀ s ∈ u.sessions, s.dies = false

theorem Updater.Steady.settle {u : Updater} (h : u.Steady) : u.settle = u := by
  rw [Updater.settle, h.dies, Bool.false_and, if_neg Bool.false_ne_true]

theorem Updater.Steady.taken {u : Updater} (h : u.Steady) (rest : List Update) :
    u.taken rest = { u with queue := rest } :=
  Steady.settle (u := { u with queue := rest }) ⟨h.dies, h.sessions⟩

theorem Updater.Steady.started {u : Updater} (h : u.Steady) :
    u.started.Steady ∧ u.started.running = true := by
  rw [Updater.started]
  split
  case h_1 hs =>
    refine ⟨⟨rfl, fun s hmem => h.sessions s hmem⟩, rfl⟩
  case h_2 s rest hs =>
    have hdies : s.dies = false := h.sessions s (by rw [hs]; exact List.mem_cons_self)
    have hrest : ∀ t ∈ rest, t.dies = false := by
      intro t ht
      exact h.sessions t (by rw [hs]; exact List.mem_cons_of_mem s ht)
    rw [Steady.settle ⟨hdies, hrest⟩]
    exact ⟨⟨hdies, hrest⟩, rfl⟩

namespace Channel

def marks (ch : Channel) : Marks :=
  ⟨ch.initialized, ch.updater.running⟩

/-- The call with which starting begins, or goes on where it has failed. -/
def stage (ch : Channel) : Call :=
  if ch.initialized then ch.pollCall else .contact

/-- Where polling does not break off, taking updates changes nothing but the queue. -/
theorem taken_marks {ch : Channel} (h : ch.updater.Steady) (rest : List Update) :
    (ch.taken rest).updater.Steady ∧ (ch.taken rest).marks = ch.marks ∧
      (ch.taken rest).stage = ch.stage := by
  have htaken : ch.taken rest = { ch with updater := { ch.updater with queue := rest } } := by
    rw [taken, h.taken]
  rw [htaken]
  exact ⟨⟨h.dies, h.sessions⟩, rfl, rfl⟩

theorem Started.steady {ch ch' : Channel} {e : Option TransportError} {calls : List CallRecord}
    (h : Started ch e calls ch') (hs : ch.updater.Steady) : ch'.updater.Steady := by
  cases h with
  | polling => exact hs
  | uncontacted => exact ⟨hs.dies, hs.sessions⟩
  | unpolled => exact ⟨hs.dies, hs.sessions⟩
  | @started outcomes =>
    have hsteady : ({ ch.updater with outcomes } : Updater).Steady := ⟨hs.dies, hs.sessions⟩
    exact hsteady.started.1

/-- A start that succeeds comes back with polling going on. -/
theorem Started.running {ch ch' : Channel} {calls : List CallRecord}
    (h : Started ch none calls ch') (hs : ch.updater.Steady) : ch'.updater.running = true := by
  cases h with
  | polling hrun => exact hrun
  | @started outcomes =>
    have hsteady : ({ ch.updater with outcomes } : Updater).Steady := ⟨hs.dies, hs.sessions⟩
    exact hsteady.started.2

theorem ShutDown.steady {ch ch' : Channel} {calls : List CallRecord} (h : ShutDown ch calls ch')
    (hs : ch.updater.Steady) : ch'.updater.Steady := by
  cases h <;> exact ⟨hs.dies, hs.sessions⟩

theorem Stopped.steady {ch ch' : Channel} {calls : List CallRecord} (h : Stopped ch calls ch')
    (hs : ch.updater.Steady) : ch'.updater.Steady := by
  cases h with
  | polling => exact ⟨hs.dies, hs.sessions⟩
  | stopped _ h => exact h.steady ⟨hs.dies, hs.sessions⟩
  | idle _ h => exact h.steady hs

/-- What a channel keeps: polling does not break off, and it goes on only where the contact
stands. -/
structure Sound (ch : Channel) : Prop where
  steady : ch.updater.Steady
  contacted : ch.updater.running = true → ch.initialized = true

theorem Sound.of_marks {ch ch' : Channel} (h : ch.Sound) (hsteady : ch'.updater.Steady)
    (hmarks : ch'.marks = ch.marks) : ch'.Sound := by
  obtain ⟨hinit, hrun⟩ := Marks.mk.inj hmarks
  refine ⟨hsteady, fun hrun' => ?_⟩
  rw [hinit]
  exact h.contacted (hrun.symm.trans hrun')

/-! ## Starting -/

/-- Attempts at the first contact: none comes after one that succeeds. -/
theorem contactFrom_path (ch : Channel) (attempt : Nat) (delays : List Nat) :
    Path {} (ch.contactFrom attempt delays).2.1.calls
      ⟨(ch.contactFrom attempt delays).1.isNone, false⟩ := by
  induction delays generalizing ch attempt with
  | nil =>
    rw [contactFrom]
    rcases ch.next .contact with ⟨_ | e, ch'⟩
    · exact .single ⟨rfl, rfl⟩
    · exact .single ⟨rfl, rfl⟩
  | cons delay delays ih =>
    rw [contactFrom]
    rcases ch.next .contact with ⟨_ | e, ch'⟩
    · exact .single ⟨rfl, rfl⟩
    · dsimp only
      split
      · exact .cons ⟨rfl, rfl⟩ (.cons trivial (ih ch' (attempt + 1)))
      · exact .single ⟨rfl, rfl⟩

theorem contact_path (ch : Channel) :
    Path ⟨ch.initialized, false⟩ ch.contact.2.1.calls ⟨ch.contact.1.isNone, false⟩ := by
  rw [contact]
  cases hi : ch.initialized with
  | true => exact .nil
  | false => exact contactFrom_path ch 1 initDelays

/-- An attempt at the contact begins with its call. -/
theorem contactFrom_first (ch : Channel) (attempt : Nat) (delays : List Nat) :
    ∃ outcome rest, (ch.contactFrom attempt delays).2.1.calls = ⟨.contact, outcome⟩ :: rest := by
  cases delays with
  | nil =>
    rw [contactFrom]
    rcases ch.next .contact with ⟨_ | e, ch'⟩ <;> exact ⟨_, _, rfl⟩
  | cons delay delays =>
    rw [contactFrom]
    rcases ch.next .contact with ⟨_ | e, ch'⟩
    · exact ⟨_, _, rfl⟩
    · dsimp only
      split <;> exact ⟨_, _, rfl⟩

/-- Attempts that fail end with a call that failed. -/
theorem contactFrom_last {ch : Channel} {attempt : Nat} {delays : List Nat} {e : TransportError}
    (h : (ch.contactFrom attempt delays).1 = some e) :
    ∃ front e', (ch.contactFrom attempt delays).2.1.calls = front ++ [⟨.contact, some e'⟩] ∧
      e.source = .channel (some e'.kind) := by
  induction delays generalizing ch attempt with
  | nil =>
    rw [contactFrom] at h ⊢
    rcases hn : ch.next .contact with ⟨_ | e', ch'⟩
    all_goals rw [hn] at h
    · cases h
    · obtain rfl := Option.some.inj h
      exact ⟨[], e', rfl, rfl⟩
  | cons delay delays ih =>
    rw [contactFrom] at h ⊢
    rcases hn : ch.next .contact with ⟨_ | e', ch'⟩
    all_goals rw [hn] at h
    · cases h
    · dsimp only at h ⊢
      by_cases hnet : e'.kind.isNetwork = true
      · rw [if_pos hnet] at h ⊢
        obtain ⟨front, e'', hcalls, hsource⟩ := ih h
        refine ⟨⟨.contact, some e'⟩ :: ⟨.sleep (.ofNat delay), none⟩ :: front, e'', ?_, hsource⟩
        rw [calls_append, calls_append, hcalls]
        rfl
      · rw [if_neg hnet] at h ⊢
        obtain rfl := Option.some.inj h
        exact ⟨[], e', rfl, rfl⟩

/-- **Starting is a path**, and it ends with polling or with an error. -/
theorem Started.path {ch ch' : Channel} {e : Option TransportError} {calls : List CallRecord}
    (h : Started ch e calls ch') (hs : ch.Sound) :
    Path ch.marks calls ch'.marks ∧ ch'.Sound := by
  have hcontact := contact_path ch
  have hsteady := h.steady hs.steady
  have hpolls : e = none → ch'.updater.running = true := by
    rintro rfl
    exact h.running hs.steady
  cases h with
  | polling hrun => exact ⟨.nil, hs⟩
  | uncontacted hrun hc =>
    have hinit := initialized_of_contact hc
    rw [hc, hinit] at hcontact
    refine ⟨?_, hsteady, hs.contacted⟩
    show Path ⟨ch.initialized, ch.updater.running⟩ _ ⟨ch.initialized, ch.updater.running⟩
    rw [hrun, hinit]
    exact hcontact
  | unpolled hrun hc =>
    rw [hc] at hcontact
    refine ⟨?_, hsteady, fun _ => rfl⟩
    show Path ⟨ch.initialized, ch.updater.running⟩ _ ⟨true, ch.updater.running⟩
    rw [hrun]
    exact hcontact.append (.single ⟨rfl, rfl⟩)
  | started hrun hc =>
    rw [hc] at hcontact
    refine ⟨?_, hsteady, fun _ => rfl⟩
    show Path ⟨ch.initialized, ch.updater.running⟩ _ ⟨true, Updater.running (Updater.started _)⟩
    rw [hrun, hpolls rfl]
    exact hcontact.append (.single ⟨rfl, rfl⟩)

theorem Started.marks_of_none {ch ch' : Channel} {calls : List CallRecord}
    (h : Started ch none calls ch') (hs : ch.Sound) : ch'.marks = ⟨true, true⟩ := by
  have hrun := h.running hs.steady
  have hinit := (h.path hs).2.contacted hrun
  rw [marks, hinit, hrun]

/-- A start that fails leaves a channel that does not poll, and the call that failed is the one with
which the next start begins. -/
theorem Started.failed {ch ch' : Channel} {e : TransportError} {calls : List CallRecord}
    (h : Started ch (some e) calls ch') :
    ch'.updater.running = false ∧
      ∃ front e', calls = front ++ [⟨ch'.stage, some e'⟩] ∧
        e.source = .channel (some e'.kind) := by
  cases h with
  | uncontacted hrun hc =>
    have hinit := initialized_of_contact hc
    rw [contact, hinit, if_neg Bool.false_ne_true] at hc ⊢
    obtain ⟨front, e', hcalls, hsource⟩ := contactFrom_last hc
    refine ⟨hrun, front, e', ?_, hsource⟩
    rw [hcalls]
    simp [stage]
  | @unpolled e' outcomes hrun hc => exact ⟨hrun, _, e', rfl, rfl⟩

theorem contact_first (ch : Channel) :
    (ch.initialized = true ∧ ch.contact.2.1.calls = []) ∨
      (ch.initialized = false ∧
        ∃ outcome rest, ch.contact.2.1.calls = ⟨.contact, outcome⟩ :: rest) := by
  rw [contact]
  cases hi : ch.initialized with
  | true => exact .inl ⟨rfl, rfl⟩
  | false => exact .inr ⟨rfl, contactFrom_first ch 1 initDelays⟩

/-- A start of a channel that does not poll begins with the call of its stage. -/
theorem Started.first {ch ch' : Channel} {e : Option TransportError} {calls : List CallRecord}
    (h : Started ch e calls ch') (hrun : ch.updater.running = false) :
    ∃ outcome rest, calls = ⟨ch.stage, outcome⟩ :: rest := by
  rw [stage]
  rcases contact_first ch with ⟨hi, hc⟩ | ⟨hi, outcome, rest, hc⟩
  all_goals rw [hi]
  · cases h with
    | polling hrun' => exact absurd (hrun.symm.trans hrun') (by simp)
    | uncontacted _ hc' => exact absurd (hi.symm.trans (initialized_of_contact hc')) (by simp)
    | unpolled _ _ =>
      rw [hc]
      exact ⟨_, _, rfl⟩
    | started _ _ =>
      rw [hc]
      exact ⟨_, _, rfl⟩
  · cases h with
    | polling hrun' => exact absurd (hrun.symm.trans hrun') (by simp)
    | uncontacted _ _ => exact ⟨outcome, rest, hc⟩
    | unpolled _ _ =>
      rw [hc]
      exact ⟨_, _, rfl⟩
    | started _ _ =>
      rw [hc]
      exact ⟨_, _, rfl⟩

/-! ## Stopping -/

theorem ShutDown.path {ch ch' : Channel} {calls : List CallRecord} (h : ShutDown ch calls ch')
    (hs : ch.Sound) (hrun : ch.updater.running = false) :
    Path ch.marks calls ch'.marks ∧ ch'.Sound := by
  have hmarks : ch.marks = ⟨ch.initialized, false⟩ := by rw [marks, hrun]
  have hsteady := h.steady hs.steady
  cases h with
  | uncontacted hi => exact ⟨.nil, hs⟩
  | contacted hi =>
    refine ⟨?_, hsteady, hs.contacted⟩
    show Path ch.marks _ ch.marks
    rw [hmarks, hi]
    exact .single ⟨rfl, rfl⟩
  | ended hi =>
    refine ⟨?_, hsteady, fun hrun' => ?_⟩
    case refine_2 => exact absurd (hrun.symm.trans hrun') (by simp)
    show Path ch.marks _ ⟨false, ch.updater.running⟩
    rw [hmarks, hi, hrun]
    exact .single ⟨rfl, rfl⟩

/-- **Stopping is a path**. -/
theorem Stopped.path {ch ch' : Channel} {calls : List CallRecord} (h : Stopped ch calls ch')
    (hs : ch.Sound) : Path ch.marks calls ch'.marks ∧ ch'.Sound := by
  cases h with
  | polling hrun =>
    refine ⟨?_, ⟨hs.steady.dies, hs.steady.sessions⟩, hs.contacted⟩
    exact .single hrun
  | @stopped calls _ outcomes hrun h =>
    have hs' : Channel.Sound
        { ch with updater := { ch.updater with outcomes, running := false }, closed := true } :=
      ⟨⟨hs.steady.dies, hs.steady.sessions⟩, fun h => absurd h (by simp)⟩
    obtain ⟨hpath, hsound⟩ := h.path hs' rfl
    exact ⟨.cons hrun hpath, hsound⟩
  | idle hrun h => exact h.path ⟨hs.steady, hs.contacted⟩ hrun

theorem ShutDown.marks_of_succeeded {ch ch' : Channel} {calls : List CallRecord}
    (h : ShutDown ch calls ch') (hrun : ch.updater.running = false)
    (hcalls : ∀ c ∈ calls, c.failure = none) : ch'.marks = {} := by
  cases h with
  | uncontacted hi => rw [marks, hi, hrun]
  | contacted hi => exact absurd (hcalls _ List.mem_cons_self) (by simp)
  | ended hi => rw [marks, hrun]

/-- A stop whose calls all succeed leaves no mark. -/
theorem Stopped.marks_of_succeeded {ch ch' : Channel} {calls : List CallRecord}
    (h : Stopped ch calls ch') (hcalls : ∀ c ∈ calls, c.failure = none) : ch'.marks = {} := by
  cases h with
  | polling hrun => exact absurd (hcalls _ List.mem_cons_self) (by simp)
  | stopped hrun h =>
    exact h.marks_of_succeeded rfl fun c hc => hcalls c (List.mem_cons_of_mem _ hc)
  | idle hrun h => exact h.marks_of_succeeded hrun hcalls

/-- Where there is no mark, a stop makes no calls, and leaves none. -/
theorem Stopped.of_unmarked {ch ch' : Channel} {calls : List CallRecord} (h : Stopped ch calls ch')
    (hmarks : ch.marks = {}) : calls = [] ∧ ch'.marks = {} := by
  obtain ⟨hinit, hrun⟩ := Marks.mk.inj hmarks
  cases h with
  | polling hrun' => exact absurd (hrun.symm.trans hrun') (by simp)
  | stopped hrun' _ => exact absurd (hrun.symm.trans hrun') (by simp)
  | idle _ h =>
    cases h with
    | uncontacted _ => exact ⟨rfl, hmarks⟩
    | contacted hi => exact absurd (hinit.symm.trans hi) (by simp)
    | ended hi => exact absurd (hinit.symm.trans hi) (by simp)

end Channel

namespace Attended

/-! ## One operation -/

theorem act_steady {ch : Channel} (h : ch.updater.Steady) (op : Operation) :
    (act ch op).2.2.updater.Steady := by
  cases op with
  | start => exact (Channel.start_started ch).steady h
  | stop => exact (Channel.stop_stopped ch).steady h
  | _ => exact ⟨h.dies, h.sessions⟩

/-- **What an operation does at once is a path**, unless polling is changed from outside. -/
theorem act_path {ch : Channel} (hs : ch.Sound) {op : Operation} (hop : ∀ v, op ≠ .setRunning v) :
    Path ch.marks (act ch op).2.1.calls (act ch op).2.2.marks ∧ (act ch op).2.2.Sound := by
  have hsteady := act_steady hs.steady op
  cases op with
  | start => exact (Channel.start_started ch).path hs
  | stop => exact (Channel.stop_stopped ch).path hs
  | setRunning v => exact absurd rfl (hop v)
  | send m => exact ⟨.single trivial, hsteady, hs.contacted⟩
  | _ => exact ⟨.nil, hsteady, hs.contacted⟩

/-- Looking after a caller changes neither the marks nor the stage. -/
theorem attend_marks {ch : Channel} (h : ch.updater.Steady) (op : Operation) (waiting : Bool) :
    (attend op waiting ch).2.2.channel.updater.Steady ∧
      (attend op waiting ch).2.2.channel.marks = ch.marks ∧
      (attend op waiting ch).2.2.channel.stage = ch.stage := by
  rcases attend_channel op waiting ch with hch | ⟨rest, hch⟩
  all_goals rw [hch]
  · exact ⟨h, rfl, rfl⟩
  · exact Channel.taken_marks h rest

theorem perform_path {a : Attended} (hs : a.channel.Sound) {op : Operation}
    (hop : ∀ v, op ≠ .setRunning v) :
    Path a.channel.marks (a.perform op).1.activity.calls (a.perform op).2.channel.marks ∧
      (a.perform op).2.channel.Sound := by
  obtain ⟨hpath, hsound⟩ := act_path hs hop
  obtain ⟨hsteady, hmarks, -⟩ := attend_marks hsound.steady op a.waiting
  rw [perform_calls, perform_after, hmarks]
  exact ⟨hpath, hsound.of_marks hsteady hmarks⟩

/-! ## Histories -/

/-- The calls that are made in a history, in order. -/
def calls (a : Attended) (ops : List Operation) : List CallRecord :=
  (a.reports ops).flatMap fun r => r.activity.calls

theorem calls_append (a : Attended) (xs ys : List Operation) :
    a.calls (xs ++ ys) = a.calls xs ++ (a.after xs).calls ys := by
  rw [calls, reports_append, List.flatMap_append]
  rfl

/-- **A history is a path.** -/
theorem after_path {a : Attended} (hs : a.channel.Sound) {ops : List Operation}
    (hops : ∀ v, .setRunning v ∉ ops) :
    Path a.channel.marks (a.calls ops) (a.after ops).channel.marks ∧
      (a.after ops).channel.Sound := by
  induction ops generalizing a with
  | nil => exact ⟨.nil, hs⟩
  | cons op ops ih =>
    have hop : ∀ v, op ≠ .setRunning v := fun v h => hops v (h ▸ List.mem_cons_self)
    obtain ⟨hpath, hsound⟩ := perform_path hs hop
    obtain ⟨hpaths, hsounds⟩ := ih hsound fun v h => hops v (List.mem_cons_of_mem op h)
    exact ⟨hpath.append hpaths, hsounds⟩

/-- Only starting and stopping change the marks and the stage. -/
theorem perform_marks {a : Attended} (hs : a.channel.Sound) {op : Operation} (hstart : op ≠ .start)
    (hstop : op ≠ .stop) (hop : ∀ v, op ≠ .setRunning v) :
    (a.perform op).2.channel.marks = a.channel.marks ∧
      (a.perform op).2.channel.stage = a.channel.stage := by
  obtain ⟨-, hmarks, hstage⟩ := attend_marks (act_path hs hop).2.steady op a.waiting
  rw [perform_after, hmarks, hstage]
  cases op with
  | start => exact absurd rfl hstart
  | stop => exact absurd rfl hstop
  | setRunning v => exact absurd rfl (hop v)
  | _ => exact ⟨rfl, rfl⟩

theorem after_marks {a : Attended} (hs : a.channel.Sound) {ops : List Operation}
    (hstart : .start ∉ ops) (hstop : .stop ∉ ops) (hops : ∀ v, .setRunning v ∉ ops) :
    (a.after ops).channel.marks = a.channel.marks ∧
      (a.after ops).channel.stage = a.channel.stage := by
  refine (after_keeps (P := fun b => b.channel.Sound ∧ b.channel.marks = a.channel.marks ∧
    b.channel.stage = a.channel.stage) ?_ ⟨hs, rfl, rfl⟩).2
  rintro op hop b ⟨hb, hmarks, hstage⟩
  have hne : ∀ v, op ≠ .setRunning v := fun v h => hops v (h ▸ hop)
  obtain ⟨hm, ht⟩ := perform_marks hb (fun h => hstart (h ▸ hop)) (fun h => hstop (h ▸ hop)) hne
  exact ⟨(perform_path hb hne).2, hm.trans hmarks, ht.trans hstage⟩

/-- A channel without marks has none until it is started. -/
theorem after_unmarked {a : Attended} (hs : a.channel.Sound) (hmarks : a.channel.marks = {})
    {ops : List Operation} (hstart : .start ∉ ops) (hops : ∀ v, .setRunning v ∉ ops) :
    (a.after ops).channel.marks = {} := by
  refine (after_keeps (P := fun b => b.channel.Sound ∧ b.channel.marks = {}) ?_ ⟨hs, hmarks⟩).2
  rintro op hop b ⟨hb, hunmarked⟩
  have hne : ∀ v, op ≠ .setRunning v := fun v h => hops v (h ▸ hop)
  refine ⟨(perform_path hb hne).2, ?_⟩
  by_cases hstop : op = .stop
  · subst hstop
    rw [perform_after, (attend_marks (act_path hb hne).2.steady _ _).2.1]
    exact ((Channel.stop_stopped b.channel).of_unmarked hunmarked).2
  · rw [(perform_marks hb (fun h => hstart (h ▸ hop)) hstop hne).1, hunmarked]

/-! ## The life of a channel -/

/-- **The life of a channel** up to the end of a history. -/
structure Lifecycle (a : Attended) (history : List Operation) : Prop where
  /-- Polling goes on only where the contact stands. -/
  contacted : (a.after history).channel.updater.running = true →
    (a.after history).channel.initialized = true
  /-- The marks tell what the calls have come to. -/
  marks : (a.after history).channel.marks = (a.calls history).foldl Marks.after {}
  /-- Each call was made when it may be. -/
  admitted : ∀ before c later, a.calls history = before ++ c :: later →
    (before.foldl Marks.after {}).Admits c.call
  contacts : Alternate .contact .shutdown (successes .contact .shutdown (a.calls history))
  polls : Alternate .startPolling .stop (successes .startPolling .stop (a.calls history))
  /-- A start comes back with the contact made and polling going on, or it fails and polling does not
  go on. In both cases the mark of the contact tells whether it stands. -/
  start : ((a.after history).perform .start).1.result = .done ∧
      ((a.after history).perform .start).2.channel.marks = ⟨true, true⟩ ∨
    ∃ e kind, ((a.after history).perform .start).1.result = .failed e ∧
      e.source = .channel (some kind) ∧
      ((a.after history).perform .start).2.channel.marks =
        ⟨((a.calls (history ++ [.start])).foldl Marks.after {}).contacted, false⟩
  /-- A start that fails ends with the call that failed, and the next one begins with it. -/
  resumes : ∀ e, ((a.after history).perform .start).1.result = .failed e →
    ∀ during, .start ∉ during → .stop ∉ during → (∀ v, .setRunning v ∉ during) →
      ∃ front call failure outcome rest,
        ((a.after history).perform .start).1.activity.calls = front ++ [⟨call, some failure⟩] ∧
        ((a.after (history ++ .start :: during)).perform .start).1.activity.calls =
          ⟨call, outcome⟩ :: rest
  /-- Stopping never fails. -/
  stop : ((a.after history).perform .stop).1.result = .done
  start_polling : (a.after history).channel.updater.running = true →
    ((a.after history).perform .start).1.activity.calls = []
  /-- A stop makes no calls if nothing has been started since one whose calls all succeeded. -/
  stop_stopped : ∀ before between, history = before ++ .stop :: between → .start ∉ between →
    (∀ c ∈ ((a.after before).perform .stop).1.activity.calls, c.failure = none) →
    ((a.after history).perform .stop).1.activity.calls = []

theorem created_sound {updater : Updater} (hidle : updater.running = false)
    (hsteady : updater.Steady) (pollTimeout : Int) :
    (created updater pollTimeout).channel.Sound where
  steady := hsteady
  contacted hrun := absurd (hidle.symm.trans hrun) (by simp)

/-- A start comes to what it does at once. -/
theorem perform_start {a : Attended} (hs : a.channel.Sound) :
    ∃ e ch, Channel.Started a.channel e (a.perform .start).1.activity.calls ch ∧
      (a.perform .start).1.result = resultOf e ∧
      (a.perform .start).2.channel.Sound ∧
      (a.perform .start).2.channel.marks = ch.marks ∧
      (a.perform .start).2.channel.stage = ch.stage := by
  have hstarted := Channel.start_started a.channel
  have hsound := (hstarted.path hs).2
  obtain ⟨hsteady, hmarks, hstage⟩ := attend_marks hsound.steady .start a.waiting
  refine ⟨_, _, ?_, rfl, hsound.of_marks hsteady hmarks, hmarks, hstage⟩
  rw [perform_calls]
  exact hstarted

theorem start_outcome {a : Attended} (hs : a.channel.Sound) :
    (a.perform .start).1.result = .done ∧ (a.perform .start).2.channel.marks = ⟨true, true⟩ ∨
    ∃ e kind, (a.perform .start).1.result = .failed e ∧ e.source = .channel (some kind) ∧
      (a.perform .start).2.channel.updater.running = false := by
  obtain ⟨e, ch, hstarted, hresult, -, hmarks, -⟩ := perform_start hs
  rw [hresult, hmarks]
  cases e with
  | none => exact .inl ⟨rfl, hstarted.marks_of_none hs⟩
  | some e =>
    obtain ⟨hrun, front, e', -, hsource⟩ := hstarted.failed
    have hrun' : (a.perform .start).2.channel.updater.running = ch.updater.running :=
      (Marks.mk.inj hmarks).2
    exact .inr ⟨e, e'.kind, rfl, hsource, hrun'.trans hrun⟩

/-- The start that comes after a failed one, with neither a start nor a stop in between. -/
theorem start_resumes {a : Attended} (hs : a.channel.Sound) {e : TransportError}
    (he : (a.perform .start).1.result = .failed e) {during : List Operation}
    (hstart : .start ∉ during) (hstop : .stop ∉ during) (hduring : ∀ v, .setRunning v ∉ during) :
    ∃ front call failure outcome rest,
      (a.perform .start).1.activity.calls = front ++ [⟨call, some failure⟩] ∧
      ((a.after (.start :: during)).perform .start).1.activity.calls = ⟨call, outcome⟩ :: rest := by
  obtain ⟨e', ch, hstarted, hresult, hsound, hmarks, hstage⟩ := perform_start hs
  rw [hresult] at he
  cases e' with
  | none => cases he
  | some e' =>
    obtain ⟨hrun, front, failure, hcalls, -⟩ := hstarted.failed
    obtain ⟨hmarks', hstage'⟩ := after_marks hsound hstart hstop hduring
    obtain ⟨_, ch', hstarted', -⟩ := perform_start (after_path hsound hduring).2
    have hidle : (a.after (.start :: during)).channel.updater.running = false :=
      (Marks.mk.inj (hmarks'.trans hmarks)).2.trans hrun
    obtain ⟨outcome, rest, hfirst⟩ := hstarted'.first hidle
    rw [hstage', hstage] at hfirst
    exact ⟨front, ch.stage, failure, outcome, rest, hcalls, hfirst⟩

/-- A stop after one whose calls all succeeded, with no start in between. -/
theorem stop_again {a : Attended} (hs : a.channel.Sound)
    (hcalls : ∀ c ∈ (a.perform .stop).1.activity.calls, c.failure = none) {between : List Operation}
    (hstart : .start ∉ between) (hbetween : ∀ v, .setRunning v ∉ between) :
    ((a.after (.stop :: between)).perform .stop).1.activity.calls = [] := by
  have hne : ∀ v, Operation.stop ≠ .setRunning v := fun v h => by cases h
  have hsound := (perform_path hs hne).2
  rw [perform_calls] at hcalls ⊢
  have hmarks : (a.perform .stop).2.channel.marks = {} := by
    rw [perform_after, (attend_marks (act_path hs hne).2.steady _ _).2.1]
    exact (Channel.stop_stopped a.channel).marks_of_succeeded hcalls
  have hunmarked := after_unmarked hsound hmarks hstart hbetween
  exact ((Channel.stop_stopped _).of_unmarked hunmarked).1

/-- **The life of a channel**, over a connection that does not poll yet, whatever its calls come to. -/
theorem channel_lifecycle {updater : Updater} (hidle : updater.running = false)
    (hsteady : updater.Steady) (pollTimeout : Int) {history : List Operation}
    (hinner : ∀ v, .setRunning v ∉ history) :
    Lifecycle (created updater pollTimeout) history := by
  have hs := created_sound hidle hsteady pollTimeout
  have hmarks : (created updater pollTimeout).channel.marks = {} := by
    show (⟨false, updater.running⟩ : Marks) = {}
    rw [hidle]
  generalize created updater pollTimeout = a at hs hmarks ⊢
  obtain ⟨hpath, hsound⟩ := after_path hs hinner
  rw [hmarks] at hpath
  refine ⟨hsound.contacted, hpath.marks_eq, ?admitted, hpath.contacts, hpath.polls, ?start,
    ?resumes, rfl, ?start_polling, ?stop_stopped⟩
  case admitted =>
    intro before c later hcalls
    exact hpath.admits hcalls
  case start =>
    have hinner' : ∀ v, .setRunning v ∉ history ++ [.start] := by
      intro v hv
      rcases List.mem_append.mp hv with hv | hv
      · exact hinner v hv
      · exact absurd (List.mem_singleton.mp hv) (by simp)
    have hafter := (after_path hs hinner').1.marks_eq
    rw [hmarks, after_append] at hafter
    refine (start_outcome hsound).imp_right ?_
    rintro ⟨e, kind, hresult, hsource, hrun⟩
    refine ⟨e, kind, hresult, hsource, ?_⟩
    show (⟨_, _⟩ : Marks) = _
    rw [← hafter, hrun]
    rfl
  case resumes =>
    intro e he during hstart hstop hduring
    rw [after_append]
    exact start_resumes hsound he hstart hstop hduring
  case start_polling =>
    intro hrun
    rw [perform_calls]
    show ((a.after history).channel.start).2.1.calls = []
    rw [Channel.start, if_pos hrun]
  case stop_stopped =>
    rintro before between rfl hstart hcalls
    have hbefore : ∀ v, .setRunning v ∉ before := fun v hv => hinner v (List.mem_append_left _ hv)
    have hbetween : ∀ v, .setRunning v ∉ between :=
      fun v hv => hinner v (List.mem_append_right _ (List.mem_cons_of_mem _ hv))
    rw [after_append]
    exact stop_again (after_path hs hbefore).2 hcalls hstart hbetween

/-- A connection that at first neither polls nor stops polling. -/
def reluctant : Updater where
  username := "sedbot"
  outcomes
    | .startPolling => [some ⟨.timedOut, "Timed out"⟩]
    | .stop => [some ⟨.network, "reset"⟩]
    | _ => []

/-- The second start goes on with polling, and the second stop with the end of it. -/
theorem channel_lifecycle_reluctant :
    (created reluctant 30).calls [.start, .start, .stop, .stop, .close, .stop] =
      [⟨.contact, none⟩,
        ⟨.startPolling 30 ["message", "channel_post"] false, some ⟨.timedOut, "Timed out"⟩⟩,
        ⟨.startPolling 30 ["message", "channel_post"] false, none⟩,
        ⟨.stop, some ⟨.network, "reset"⟩⟩, ⟨.stop, none⟩, ⟨.shutdown, none⟩] ∧
      Lifecycle (created reluctant 30) [.start, .start, .stop, .stop, .close, .stop] :=
  ⟨rfl, channel_lifecycle rfl ⟨rfl, fun s hs => by cases hs⟩ 30 (by simp)⟩

end Attended

end SubstBot.Telegram
