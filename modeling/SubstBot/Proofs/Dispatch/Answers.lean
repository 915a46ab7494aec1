import SubstBot.Proofs.Dispatch.UserInput

/-!
# `SubstBot/Proofs/Dispatch/Answers.lean` — what the two handlers answer

The handler for help and the one for rules leave little room. Help is answered to whoever asks for
it. A text that does not ask for help and has no rule in it is passed by both. A rule is answered
with the words for why it is refused, or with its result, and the result goes to the message that
was edited and not to the author. `Answers` lists the answers with what each takes, and `Outcome`
adds to them the three ways in which a message gets none. All of it is over any engine.
-/

set_option autoImplicit false

namespace SubstBot.Dispatch

open Command (Limits SubstitutionRequest)
open Command.HelpInquiry (recognizes helpText)
open Handler (replyTo)

/-- The request that a rule makes when it stands in the message `m`. -/
def requestOf {E : Regex.Engine} (rule : Rule E) (m : Message) : SubstitutionRequest E :=
  { rule, chat := m.chat, trigger := m.id, target := m.replied? }

/-- The answers that the two handlers give to a message. -/
inductive Answers (E : Regex.Engine) (limits : Limits) (bot : Identity) (m : Message) :
    Outgoing → Prop where
  | help (hr : recognizes bot.handle m.content.toList = true) :
      Answers E limits bot m (replyTo m helpText)
  | refused {words : String} (hr : recognizes bot.handle m.content.toList = false)
      (h : Refused E limits m words) : Answers E limits bot m (replyTo m words)
  | result {rule : Rule E} {answer : Outgoing} (hr : recognizes bot.handle m.content.toList = false)
      (hp : Rule.parse? E m.content.toList = .ok (some rule))
      (hx : (requestOf rule m).execute limits = .ok answer) : Answers E limits bot m answer

/-- **What becomes of a message** that is offered to the two handlers. It is claimed exactly when
there is an answer, and then that answer is handed over for sending. -/
inductive Outcome (E : Regex.Engine) (limits : Limits) (bot : Identity) (m : Message)
    (step : Step) : Prop where
  /-- Both handlers decline it. -/
  | dropped (hr : recognizes bot.handle m.content.toList = false)
      (hp : Rule.parse? E m.content.toList = .ok none) (hd : step.delivery = none)
      (ho : step.offers = [.declined, .declined])
  /-- It has its answer. -/
  | replied {answer : Outgoing} (ha : Answers E limits bot m answer)
      (hd : step.delivery = some ⟨answer, none⟩) (ho : step.offers.getLast? = some .claimed)
  /-- Sending the answer failed. -/
  | unsent {answer : Outgoing} {e : TransportError} (ha : Answers E limits bot m answer)
      (hd : step.delivery = some ⟨answer, some e⟩) (ho : step.offers.getLast? = some .raised)
  /-- Reading the rule failed, and there is no answer. -/
  | crashed (h : Overlong E bot m) (hd : step.delivery = none)
      (ho : step.offers = [.declined, .raised])

variable {E : Regex.Engine}

/-! ## One answer at most -/

theorem Refused.functional {limits : Limits} {m : Message} {words words' : String}
    (h : Refused E limits m words) (h' : Refused E limits m words') : words = words' := by
  cases h with
  | unreadable hp =>
    cases h' with
    | unreadable hp' =>
      rw [hp] at hp'
      rw [Rule.ParseError.fault.inj (Except.error.inj hp')]
    | unperformed hp' he' => exact absurd (hp.symm.trans hp') (by simp)
  | unperformed hp he =>
    cases h' with
    | unreadable hp' => exact absurd (hp.symm.trans hp') (by simp)
    | unperformed hp' he' =>
      obtain rfl := Option.some.inj (Except.ok.inj (hp.symm.trans hp'))
      rw [Except.error.inj (he.symm.trans he')]

theorem Refused.no_result {limits : Limits} {m : Message} {words : String}
    (h : Refused E limits m words) {rule : Rule E} {answer : Outgoing}
    (hp : Rule.parse? E m.content.toList = .ok (some rule)) :
    (requestOf rule m).execute limits ≠ .ok answer := by
  intro hx
  cases h with
  | unreadable hp' => exact absurd (hp.symm.trans hp') (by simp)
  | unperformed hp' he =>
    obtain rfl := Option.some.inj (Except.ok.inj (hp.symm.trans hp'))
    exact absurd (hx.symm.trans he) (by simp)

theorem Answers.functional {limits : Limits} {bot : Identity} {m : Message} {a a' : Outgoing}
    (h : Answers E limits bot m a) (h' : Answers E limits bot m a') : a = a' := by
  cases h with
  | help hr =>
    cases h' with
    | help hr' => rfl
    | refused hr' | result hr' => exact absurd (hr.symm.trans hr') (by simp)
  | refused hr h =>
    cases h' with
    | help hr' => exact absurd (hr.symm.trans hr') (by simp)
    | refused hr' h' => rw [h.functional h']
    | result hr' hp hx => exact absurd hx (h.no_result hp)
  | result hr hp hx =>
    cases h' with
    | help hr' => exact absurd (hr.symm.trans hr') (by simp)
    | refused hr' h' => exact absurd hx (h'.no_result hp)
    | result hr' hp' hx' =>
      obtain rfl := Option.some.inj (Except.ok.inj (hp.symm.trans hp'))
      exact Except.ok.inj (hx.symm.trans hx')

/-! ## Responses -/

theorem help_respond_eq {bot : Identity} {m : Message} {r : Response}
    (h : Handler.help.respond bot m = r) :
    recognizes bot.handle m.content.toList = true ∧ r = .answered [] (replyTo m helpText) ∨
      recognizes bot.handle m.content.toList = false ∧ r = .declined := by
  rw [help_respond] at h
  cases hr : recognizes bot.handle m.content.toList with
  | true =>
    rw [hr, if_pos rfl] at h
    exact Or.inl ⟨rfl, h.symm⟩
  | false =>
    rw [hr, if_neg Bool.false_ne_true] at h
    exact Or.inr ⟨rfl, h.symm⟩

/-- What the handler of rules makes of a message. -/
inductive RuleResponse (E : Regex.Engine) (limits : Limits) (m : Message) : Response → Prop where
  | declined (hp : Rule.parse? E m.content.toList = .ok none) : RuleResponse E limits m .declined
  | refused {logs : List LogRecord} {words : String} (h : Refused E limits m words) :
      RuleResponse E limits m (.answered logs (replyTo m words))
  | result {logs : List LogRecord} {rule : Rule E} {answer : Outgoing}
      (hp : Rule.parse? E m.content.toList = .ok (some rule))
      (hx : (requestOf rule m).execute limits = .ok answer) :
      RuleResponse E limits m (.answered logs answer)
  | failed {n : Rule.NumeralTooLong} (hp : Rule.parse? E m.content.toList = .error (.numeral n)) :
      RuleResponse E limits m (.failed (.other n))

theorem substitution_respond (E : Regex.Engine) (limits : Limits) (bot : Identity) (m : Message) :
    RuleResponse E limits m ((Handler.substitution E limits).respond bot m) := by
  simp only [Handler.substitution, Handler.ofCommand, SubstitutionRequest.parse?]
  cases hp : Rule.parse? E m.content.toList with
  | error p =>
    cases p with
    | fault f => exact .refused (.unreadable hp)
    | numeral n => exact .failed hp
  | ok rule? =>
    cases rule? with
    | none => exact .declined hp
    | some rule =>
      simp only [Except.map, Except.mapError, Option.map_some]
      cases hx : SubstitutionRequest.execute limits
        { rule, chat := m.chat, trigger := m.id, target := m.replied? } with
      | ok answer => exact .result hp hx
      | error e => exact .refused (.unperformed hp hx)

/-! ## Outcomes -/

theorem Answers.of_respond {limits : Limits} {bot : Identity} {m : Message}
    (hr : recognizes bot.handle m.content.toList = false) {logs : List LogRecord}
    {answer : Outgoing}
    (h : (Handler.substitution E limits).respond bot m = .answered logs answer) :
    Answers E limits bot m answer := by
  have hresponse := substitution_respond E limits bot m
  rw [h] at hresponse
  cases hresponse with
  | refused hrefused => exact .refused hr hrefused
  | result hp hx => exact .result hr hp hx

/-- The handler that decides on a message is the one for help, or the one for rules when help was not
asked for. -/
theorem eq_of_split {limits : Limits} {bot : Identity} {m : Message} {h : Handler}
    {before after : List Handler}
    (hs : [Handler.help, Handler.substitution E limits] = before ++ h :: after)
    (hd : AllDecline bot m before) :
    h = .help ∧ before = [] ∨
      h = .substitution E limits ∧ before = [.help] ∧
        recognizes bot.handle m.content.toList = false := by
  rcases before with _ | ⟨b, _ | ⟨b', before⟩⟩
  · rw [List.nil_append, List.cons.injEq] at hs
    exact Or.inl ⟨hs.1.symm, rfl⟩
  · simp only [List.cons_append, List.nil_append, List.cons.injEq] at hs
    obtain ⟨rfl, rfl, -⟩ := hs
    rcases help_respond_eq (hd _ List.mem_cons_self) with ⟨-, hr⟩ | ⟨hr, -⟩
    · exact absurd hr (by simp)
    · exact Or.inr ⟨rfl, rfl, hr⟩
  · simp at hs

/-- Whichever of the two handlers answers, it gives one of the answers. -/
theorem Answers.of_split {limits : Limits} {bot : Identity} {m : Message} {h : Handler}
    {before after : List Handler} {logs : List LogRecord} {answer : Outgoing}
    (hs : [Handler.help, Handler.substitution E limits] = before ++ h :: after)
    (hd : AllDecline bot m before) (hr : h.respond bot m = .answered logs answer) :
    Answers E limits bot m answer := by
  rcases eq_of_split hs hd with ⟨rfl, -⟩ | ⟨rfl, -, hno⟩
  · rcases help_respond_eq hr with ⟨hyes, h⟩ | ⟨-, h⟩
    · rw [Response.answered.injEq] at h
      rw [h.2]
      exact .help hyes
    · exact absurd h (by simp)
  · exact .of_respond hno hr

/-- Neither handler fails with a failure of the transport by itself. -/
theorem failure_of_split {limits : Limits} {bot : Identity} {m : Message} {h : Handler}
    {before after : List Handler} {f : HandlerFailure}
    (hs : [Handler.help, Handler.substitution E limits] = before ++ h :: after)
    (hd : AllDecline bot m before) (hr : h.respond bot m = .failed f) :
    before = [.help] ∧ Overlong E bot m ∧ ∃ n, f = .other n := by
  rcases eq_of_split hs hd with ⟨rfl, -⟩ | ⟨rfl, hbefore, hno⟩
  · rcases help_respond_eq hr with ⟨-, h⟩ | ⟨-, h⟩ <;> exact absurd h (by simp)
  · obtain ⟨n, hn, hf⟩ := substitution_respond_failed_iff.mp hr
    exact ⟨hbefore, ⟨hno, Rule.exists_numeral_iff.mp ⟨n, hn⟩⟩, n, hf⟩

theorem Settled.outcome {limits : Limits} {bot : Identity} {m : Message}
    {send : Outgoing → Option TransportError} {step : Step} {e : Option Ending}
    (h : Settled bot m send [Handler.help, Handler.substitution E limits] step e) :
    Outcome E limits bot m step := by
  cases h with
  | dropped hd =>
    rcases help_respond_eq (hd _ List.mem_cons_self) with ⟨-, hr⟩ | ⟨hno, -⟩
    · exact absurd hr (by simp)
    · have hresponse := substitution_respond E limits bot m
      rw [hd (.substitution E limits) (by simp)] at hresponse
      cases hresponse with
      | declined hp => exact .dropped hno hp rfl rfl
  | claimed hs hd hr =>
    rcases eq_of_split hs hd with ⟨rfl, -⟩ | ⟨rfl, -, -⟩
    · rcases help_respond_eq hr with ⟨-, h⟩ | ⟨-, h⟩ <;> exact absurd h (by simp)
    · have hresponse := substitution_respond E limits bot m
      rw [hr] at hresponse
      nomatch hresponse
  | delivered hs hd hr hsend =>
    exact .replied (.of_split hs hd hr) rfl List.getLast?_concat
  | undelivered hs hd hr hsend =>
    exact .unsent (.of_split hs hd hr) rfl List.getLast?_concat
  | failed hs hd hr =>
    obtain ⟨rfl, hoverlong, -⟩ := failure_of_split hs hd hr
    exact .crashed hoverlong rfl rfl

/-- **The answer that is handed over is the one that the message has**, and a message that has one gets
it handed over. -/
theorem Outcome.delivery_iff {limits : Limits} {bot : Identity} {m : Message} {step : Step}
    (h : Outcome E limits bot m step) {answer : Outgoing} :
    step.delivery.map Delivery.answer = some answer ↔ Answers E limits bot m answer := by
  cases h with
  | replied ha hd | unsent ha hd =>
    rw [hd, Option.map_some, Option.some.injEq]
    constructor
    · rintro rfl
      exact ha
    · exact fun h => ha.functional h
  | dropped hr hp hd =>
    rw [hd]
    refine ⟨fun h => absurd h (by simp), fun h => ?_⟩
    cases h with
    | help hr' => exact absurd (hr.symm.trans hr') (by simp)
    | refused hr' h =>
      cases h with
      | unreadable hp' | unperformed hp' => exact absurd (hp.symm.trans hp') (by simp)
    | result hr' hp' => exact absurd (hp.symm.trans hp') (by simp)
  | crashed hover hd =>
    rw [hd]
    refine ⟨fun h => absurd h (by simp), fun h => ?_⟩
    obtain ⟨n, hp⟩ := Rule.exists_numeral_iff.mpr hover.numeral
    cases h with
    | help hr' => exact absurd (hover.unrecognized.symm.trans hr') (by simp)
    | refused hr' h =>
      cases h with
      | unreadable hp' | unperformed hp' => exact absurd (hp.symm.trans hp') (by simp)
    | result hr' hp' => exact absurd (hp.symm.trans hp') (by simp)

end SubstBot.Dispatch
