import SubstBot.Proofs.Dispatch.Answers
import SubstBot.Proofs.Service.Ledger

/-!
# `SubstBot/Proofs/Service/Addressing.lean` — who is answered, and with what

Between a post and the call that answers it the identifiers pass through many hands: the post becomes
a message, its chain of replies is cut, the handlers make a request of it, and from this come an
answer and the call. Each of them could put the author in the place of the post that was edited.

`Addressed` says what the call has to be **in terms of the post alone**: the words for help and for
every refusal go to the post that asked, a result goes to the post that it replies to, and all stay
in the chat of the post that asked. The main statement is that the calls of a run are these, no
others, and none is missing.
-/

set_option autoImplicit false

namespace SubstBot

open Command (Limits SubstitutionError)
open Command.HelpInquiry (recognizes helpText)
open Telegram (Post Update Call CallRecord Channel)
open Command (SubstitutionRequest)
open Dispatch (Answers Refused requestOf)

/-! ## What is called for -/

namespace Telegram

/-- The post `p` replies to the post `q`, which has the text `s`. -/
def Post.Target (p q : Post) (s : String) : Prop :=
  p.replyTo? = some q ∧ q.text = some s

/-- A text that does not ask for help and has the rule in it. -/
structure Asks {E : Regex.Engine} (bot : Identity) (text : String) (rule : Rule E) : Prop where
  unrecognized : recognizes bot.handle text.toList = false
  parsed : Rule.parse? E text.toList = .ok (some rule)

/-- Words to the author of a post. -/
def toAuthor (p : Post) (words : String) : Call :=
  .sendMessage p.chat words (some ⟨p.id, true⟩)

/-- **The call that answers a post** with a text. What applying a rule comes to is the engine's
answer, which is none if the time was not enough. -/
inductive Addressed (E : Regex.Engine) (limits : Limits) (bot : Identity) (p : Post)
    (text : String) : Call → Prop where
  | help (hr : recognizes bot.handle text.toList = true) :
      Addressed E limits bot p text (toAuthor p helpText)
  /-- The rule cannot be read. -/
  | unreadable {f : Rule.Fault} (hr : recognizes bot.handle text.toList = false)
      (hp : Rule.parse? E text.toList = .error (.fault f)) :
      Addressed E limits bot p text (toAuthor p f.message)
  /-- There is no text to apply the rule to. -/
  | missing {rule : Rule E} (ha : Asks bot text rule) (ht : ∀ q s, ¬ p.Target q s) :
      Addressed E limits bot p text (toAuthor p SubstitutionError.missingMessage.message)
  | stopped {rule : Rule E} {q : Post} {s : String} (ha : Asks bot text rule) (ht : p.Target q s)
      (hs : rule.apply s.toList limits.timeout = none) :
      Addressed E limits bot p text
        (toAuthor p (SubstitutionError.regexTimeout limits.timeout).message)
  | blank {rule : Rule E} {q : Post} {s : String} {result : List Char} (ha : Asks bot text rule)
      (ht : p.Target q s) (hs : rule.apply s.toList limits.timeout = some result)
      (hb : ∀ c ∈ result, Text.isBlank c = true) :
      Addressed E limits bot p text (toAuthor p SubstitutionError.emptyResult.message)
  | tooLong {rule : Rule E} {q : Post} {s : String} {result : List Char} (ha : Asks bot text rule)
      (ht : p.Target q s) (hs : rule.apply s.toList limits.timeout = some result)
      (hb : ∃ c ∈ result, Text.isBlank c = false) (hl : limits.maxLength < result.length) :
      Addressed E limits bot p text
        (toAuthor p (SubstitutionError.resultTooLong result.length limits.maxLength).message)
  /-- The result goes to the post that the rule was applied to. -/
  | result {rule : Rule E} {q : Post} {s : String} {result : List Char} (ha : Asks bot text rule)
      (ht : p.Target q s) (hs : rule.apply s.toList limits.timeout = some result)
      (hb : ∃ c ∈ result, Text.isBlank c = false) (hl : result.length ≤ limits.maxLength) :
      Addressed E limits bot p text
        (.sendMessage p.chat (String.ofList result) (some ⟨q.id, true⟩))

/-! ## From the post to the message -/

/-- What a message keeps of the post that it was made from. -/
structure Translated (p : Post) (text : String) (m : Message) : Prop where
  hasText : p.text = some text
  id : m.id = p.id
  chat : m.chat = p.chat
  content : m.content = text

theorem Post.toMessage?_translated {p : Post} {m : Message} (h : p.toMessage? = some m) :
    ∃ text, Translated p text m := by
  cases p with
  | plain id chat text =>
    obtain ⟨s, hs, rfl⟩ := Option.map_eq_some_iff.mp h
    exact ⟨s, hs, rfl, rfl, rfl⟩
  | replying id chat text target =>
    obtain ⟨s, hs, rfl⟩ := Option.map_eq_some_iff.mp h
    exact ⟨s, hs, rfl, rfl, rfl⟩

theorem Post.text_of_toMessage?_none {p : Post} (h : p.toMessage? = none) : p.text = none := by
  cases p with
  | plain id chat text => exact Option.map_eq_none_iff.mp h
  | replying id chat text target => exact Option.map_eq_none_iff.mp h

/-- What is kept of a post that is replied to: all but its own reply, if it has a text. -/
theorem Post.toReplyTarget_cases (q : Post) :
    (q.text = none ∧ q.toReplyTarget = .id q.id) ∨
      ∃ t s, q.text = some s ∧ q.toReplyTarget = .message t ∧ t.id = q.id ∧ t.content = s := by
  rcases q with ⟨id, chat, _ | s⟩ | ⟨id, chat, _ | s, target⟩
  · exact Or.inl ⟨rfl, rfl⟩
  · exact Or.inr ⟨.mk id chat s .notReplying, s, rfl, rfl, rfl, rfl⟩
  · exact Or.inl ⟨rfl, rfl⟩
  · exact Or.inr ⟨.mk id chat s .pruned, s, rfl, rfl, rfl, rfl⟩

/-- **The message replied to is the post replied to**, if this has a text; what it replies to itself
makes no difference. -/
theorem Post.replied?_of_target {p q : Post} {m : Message} {s : String}
    (h : p.toMessage? = some m) (ht : p.Target q s) :
    ∃ t, m.replied? = some t ∧ t.id = q.id ∧ t.content = s := by
  cases p with
  | plain id chat text => exact absurd ht.1 (by simp [Post.replyTo?])
  | replying id chat text target =>
    obtain ⟨s', hs', rfl⟩ := Option.map_eq_some_iff.mp h
    obtain rfl : target = q := Option.some.inj ht.1
    rcases target.toReplyTarget_cases with ⟨hnone, -⟩ | ⟨t, s'', hs'', htarget, hid, hcontent⟩
    · exact absurd (hnone.symm.trans ht.2) (by simp)
    · rw [htarget]
      exact ⟨t, rfl, hid, hcontent.trans (Option.some.inj (hs''.symm.trans ht.2))⟩

theorem Post.replied?_of_no_target {p : Post} {m : Message} (h : p.toMessage? = some m)
    (ht : ∀ q s, ¬ p.Target q s) : m.replied? = none := by
  cases p with
  | plain id chat text =>
    obtain ⟨s, hs, rfl⟩ := Option.map_eq_some_iff.mp h
    rfl
  | replying id chat text target =>
    obtain ⟨s, hs, rfl⟩ := Option.map_eq_some_iff.mp h
    rcases target.toReplyTarget_cases with ⟨-, htarget⟩ | ⟨t, s', hs', -, -, -⟩
    · rw [htarget]
      rfl
    · exact absurd ⟨rfl, hs'⟩ (ht target s')

end Telegram

/-! ## From the message to the call -/

namespace Telegram

variable {E : Regex.Engine} {limits : Limits} {bot : Identity} {p : Post} {text : String}
  {m : Message}

theorem execute_missing (hm : p.toMessage? = some m) (ht : ∀ q s, ¬ p.Target q s) (rule : Rule E) :
    (requestOf rule m).execute limits = .error .missingMessage := by
  rw [requestOf, SubstitutionRequest.execute, Post.replied?_of_no_target hm ht]

/-- What applying a rule comes to, in terms of the post and the one it replies to. -/
theorem execute_target (htr : Translated p text m) (hm : p.toMessage? = some m) {q : Post}
    {s : String} (ht : p.Target q s) (rule : Rule E) :
    (requestOf rule m).execute limits =
      match rule.apply s.toList limits.timeout with
      | none => .error (.regexTimeout limits.timeout)
      | some result =>
        if Text.allBlank result then .error .emptyResult
        else if limits.maxLength < result.length then
          .error (.resultTooLong result.length limits.maxLength)
        else .ok ⟨p.chat, String.ofList result, .id q.id⟩ := by
  obtain ⟨t, hsome, hid, hcontent⟩ := Post.replied?_of_target hm ht
  rw [requestOf, SubstitutionRequest.execute, hsome]
  cases hresult : rule.apply s.toList limits.timeout with
  | none => simp only [hcontent, hresult]
  | some result => simp only [hcontent, hid, htr.chat, hresult]

theorem allBlank_eq_false_iff {s : List Char} :
    Text.allBlank s = false ↔ ∃ c ∈ s, Text.isBlank c = false := by
  rw [Text.allBlank, List.all_eq_false]
  simp only [Bool.not_eq_true]

/-- What the request of a rule comes to is what is called for. -/
theorem addressed_of_execute (htr : Translated p text m) (hm : p.toMessage? = some m)
    {rule : Rule E} (ha : Asks bot text rule) :
    (∃ e, (requestOf rule m).execute limits = .error e ∧
        Addressed E limits bot p text (toAuthor p e.message)) ∨
      ∃ a, (requestOf rule m).execute limits = .ok a ∧
        Addressed E limits bot p text (Channel.sendCall a) := by
  by_cases htarget : ∃ q s, p.Target q s
  · obtain ⟨q, s, ht⟩ := htarget
    rw [execute_target htr hm ht]
    cases hs : rule.apply s.toList limits.timeout with
    | none => exact Or.inl ⟨_, rfl, .stopped ha ht hs⟩
    | some result =>
      dsimp only
      cases hb : Text.allBlank result with
      | true => exact Or.inl ⟨_, if_pos rfl, .blank ha ht hs (List.all_eq_true.mp hb)⟩
      | false =>
        have hsolid := allBlank_eq_false_iff.mp hb
        rw [if_neg Bool.false_ne_true]
        by_cases hl : limits.maxLength < result.length
        · exact Or.inl ⟨_, if_pos hl, .tooLong ha ht hs hsolid hl⟩
        · exact Or.inr ⟨_, if_neg hl, .result ha ht hs hsolid (Int.not_lt.mp hl)⟩
  · have ht : ∀ q s, ¬ p.Target q s := fun q s h => htarget ⟨q, s, h⟩
    exact Or.inl ⟨_, execute_missing hm ht rule, .missing ha ht⟩

theorem Translated.replyTo (htr : Translated p text m) (words : String) :
    Channel.sendCall (Handler.replyTo m words) = toAuthor p words := by
  rw [toAuthor, ← htr.chat, ← htr.id]
  rfl

/-- Every answer makes the call that is called for. -/
theorem addressed_of_answers (htr : Translated p text m) (hm : p.toMessage? = some m)
    {a : Outgoing} (h : Answers E limits bot m a) :
    Addressed E limits bot p text (Channel.sendCall a) := by
  have htext : m.content.toList = text.toList := congrArg String.toList htr.content
  cases h with
  | help hr =>
    rw [htr.replyTo]
    exact .help (htext ▸ hr)
  | refused hr h =>
    rw [htr.replyTo]
    cases h with
    | unreadable hp => exact .unreadable (htext ▸ hr) (htext ▸ hp)
    | unperformed hp he =>
      rcases addressed_of_execute htr hm ⟨htext ▸ hr, htext ▸ hp⟩ with ⟨e, he', h⟩ | ⟨a, hx, -⟩
      · rw [Except.error.inj (he.symm.trans he')]
        exact h
      · exact absurd (hx.symm.trans he) (by simp)
  | result hr hp hx =>
    rcases addressed_of_execute htr hm ⟨htext ▸ hr, htext ▸ hp⟩ with ⟨e, he, -⟩ | ⟨a', hx', h⟩
    · exact absurd (hx.symm.trans he) (by simp)
    · rw [Except.ok.inj (hx.symm.trans hx')]
      exact h

/-- What is called for is called by some answer. -/
theorem answers_of_addressed (htr : Translated p text m) (hm : p.toMessage? = some m) {c : Call}
    (h : Addressed E limits bot p text c) :
    ∃ a, Answers E limits bot m a ∧ Channel.sendCall a = c := by
  have htext : m.content.toList = text.toList := congrArg String.toList htr.content
  have hrefused : ∀ {rule : Rule E} {e : SubstitutionError}, Asks bot text rule →
      (requestOf rule m).execute limits = .error e →
      ∃ a, Answers E limits bot m a ∧ Channel.sendCall a = toAuthor p e.message := by
    intro rule e ha he
    exact ⟨_, .refused (htext ▸ ha.unrecognized) (.unperformed (htext ▸ ha.parsed) he),
      htr.replyTo e.message⟩
  cases h with
  | help hr => exact ⟨_, .help (htext ▸ hr), htr.replyTo helpText⟩
  | unreadable hr hp =>
    exact ⟨_, .refused (htext ▸ hr) (.unreadable (htext ▸ hp)), htr.replyTo _⟩
  | missing ha ht => exact hrefused ha (execute_missing hm ht _)
  | stopped ha ht hs =>
    refine hrefused ha ?_
    rw [execute_target htr hm ht, hs]
  | blank ha ht hs hb =>
    refine hrefused ha ?_
    rw [execute_target htr hm ht, hs]
    exact if_pos (List.all_eq_true.mpr hb)
  | tooLong ha ht hs hb hl =>
    refine hrefused ha ?_
    rw [execute_target htr hm ht, hs]
    dsimp only
    rw [allBlank_eq_false_iff.mpr hb, if_neg Bool.false_ne_true, if_pos hl]
  | @result rule q s result ha ht hs hb hl =>
    refine ⟨⟨p.chat, String.ofList result, .id q.id⟩,
      .result (htext ▸ ha.unrecognized) (htext ▸ ha.parsed) ?_, rfl⟩
    rw [execute_target htr hm ht, hs]
    dsimp only
    rw [allBlank_eq_false_iff.mpr hb, if_neg Bool.false_ne_true, if_neg (Int.not_lt.mpr hl)]

end Telegram

/-! ## Runs -/

namespace Service

/-- The call that was made for an update, if there is one. -/
def Entry.call? (e : Entry) : Option Call :=
  e.delivery?.map fun d => Channel.sendCall d.answer

/-- An update has the call that is called for, and if none is, it has none. -/
theorem Entry.Accounted.call?_iff {e : Entry} {E : Regex.Engine} {limits : Limits} {bot : Identity}
    (h : e.Accounted bot [Handler.help, Handler.substitution E limits]) (c : Call) :
    e.call? = some c ↔
      ∃ p text, e.update.post? = some p ∧ p.text = some text ∧
        Telegram.Addressed E limits bot p text c := by
  cases h with
  | @passedOver u hu =>
    refine ⟨fun h => absurd h (by simp [Entry.call?, Entry.delivery?]), ?_⟩
    rintro ⟨p, text, hp, htext, -⟩
    rw [Update.toMessage?, hp] at hu
    exact absurd ((Telegram.Post.text_of_toMessage?_none hu).symm.trans htext) (by simp)
  | @dispatched u m send step ending logs hu hs =>
    obtain ⟨p, hp, hm⟩ := Option.bind_eq_some_iff.mp hu
    obtain ⟨text, htr⟩ := Telegram.Post.toMessage?_translated hm
    have houtcome := hs.outcome
    constructor
    · intro h
      obtain ⟨d, hd, rfl⟩ := Option.map_eq_some_iff.mp h
      have hanswer : step.delivery.map Dispatch.Delivery.answer = some d.answer := by
        rw [show step.delivery = some d from hd]
        rfl
      exact ⟨p, text, hp, htr.hasText,
        Telegram.addressed_of_answers htr hm (houtcome.delivery_iff.mp hanswer)⟩
    · rintro ⟨p', text', hp', htext, h⟩
      obtain rfl := Option.some.inj (hp.symm.trans hp')
      obtain rfl := Option.some.inj (htr.hasText.symm.trans htext)
      obtain ⟨a, ha, rfl⟩ := Telegram.answers_of_addressed htr hm h
      obtain ⟨d, hd, rfl⟩ := Option.map_eq_some_iff.mp (houtcome.delivery_iff.mpr ha)
      exact Option.map_eq_some_iff.mpr ⟨d, hd, rfl⟩

/-- **A run answers the updates that it takes**: each row is an update with the call made for it, the
rows hold all updates that were taken and all calls to send that were made, in order, and a call is
in a row if and only if it is the one that is called for by the post of the update. -/
structure Answered (E : Regex.Engine) (limits : Limits) (bot : Identity) (w : World)
    (run : Dispatch.Run World) (rows : List (Update × Option Call)) : Prop where
  taken : w.channel.updater.stream = rows.map Prod.fst ++ run.state.channel.updater.stream
  calls : ∃ calls, run.state.calls = w.calls ++ calls ∧
    (calls.filterMap CallRecord.sent?).map Prod.fst = rows.filterMap Prod.snd
  addressed : ∀ row ∈ rows, ∀ c, row.2 = some c ↔
    ∃ p text, row.1.post? = some p ∧ p.text = some text ∧ Telegram.Addressed E limits bot p text c

/-- **Every call is addressed right**, whatever the posts reply to and whatever becomes of the calls:
the words for help and for every refusal go to the post that asked, a result goes to the post with a
text that this one replies to, and it is the rule of the one applied to the text of the other. -/
theorem calls_addressed (E : Regex.Engine) (limits : Limits) (bot : Identity) (w : World) :
    ∃ rows, Answered E limits bot w
      (Dispatch.run World.transport bot [Handler.help, Handler.substitution E limits] w) rows := by
  obtain ⟨⟨ledger, h⟩, -⟩ := runFor_progress bot [Handler.help, Handler.substitution E limits]
    (World.transport.backlog w + 1) w
  obtain ⟨calls, hcalls, hsent, -⟩ := h.calls
  refine ⟨ledger.map fun e => (e.update, e.call?), ?taken, ⟨calls, hcalls, ?sent⟩, ?addressed⟩
  case taken =>
    rw [List.map_map]
    exact h.took.stream
  case sent =>
    rw [hsent, List.map_map, List.filterMap_map, List.map_filterMap]
    rfl
  case addressed =>
    intro row hrow
    obtain ⟨e, he, rfl⟩ := List.mem_map.mp hrow
    exact (h.accounted e he).call?_iff

end Service

end SubstBot
