import SubstBot.Backtracking.Engine
import SubstBot.Proofs.Dispatch.Script
import SubstBot.Proofs.Rule.Numeral

/-!
# `SubstBot/Proofs/Dispatch/UserInput.lean` — what a message can do to a run

The bot offers a message to two handlers, the one for help and the one for rules. What stands in a
message is the author's, and nothing in it ought to end the run: a rule that is refused is answered
with the words for why, and the next message is taken.

That holds of every message but one kind. **A reference with too many digits is the exception**: it
is no fault of the rule to its reader, so it is not told to the author, and nothing on the way out
of the loop takes it for a failure of the transport. `run_ending_iff_not_overlong` states both:
what is done with a refused rule, and that the runs which end otherwise than they should are exactly
those in which such a message came. Which queries are patterns and how long matching them takes does
not matter to it, so it is stated of the handlers over any engine.
-/

set_option autoImplicit false

namespace SubstBot.Dispatch

open Command (Limits SubstitutionRequest)
open Command.HelpInquiry (recognizes helpText)
open Handler (replyTo)

/-- A run of the two handlers of the bot over a script. -/
def commandRun (E : Regex.Engine) (limits : Limits) (bot : Identity) (script : Script) :
    Run Script :=
  Script.run bot [Handler.help, Handler.substitution E limits] script

/-- The rule in a message cannot be read or cannot be carried out, and the words for why. -/
inductive Refused (E : Regex.Engine) (limits : Limits) (m : Message) : String → Prop where
  | unreadable {f : Rule.Fault} (h : Rule.parse? E m.content.toList = .error (.fault f)) :
      Refused E limits m f.message
  | unperformed {rule : Rule E} {e : Command.SubstitutionError}
      (h : Rule.parse? E m.content.toList = .ok (some rule))
      (he : SubstitutionRequest.execute limits
        { rule, chat := m.chat, trigger := m.id, target := m.replied? } = .error e) :
      Refused E limits m e.message

/-- The message is no request for help, and its rule has a reference with more digits than are
read. -/
structure Overlong (E : Regex.Engine) (bot : Identity) (m : Message) : Prop where
  unrecognized : recognizes bot.handle m.content.toList = false
  numeral : Rule.OverlongNumeral E m.content.toList

/-- What the author of a refused rule is answered: the words for why, unless the same text asks for
help. -/
def owed (bot : Identity) (m : Message) (words : String) : Outgoing :=
  replyTo m (if recognizes bot.handle m.content.toList then helpText else words)

/-! ## Responses -/

theorem help_respond (bot : Identity) (m : Message) :
    Handler.help.respond bot m =
      if recognizes bot.handle m.content.toList then .answered [] (replyTo m helpText)
      else .declined := by
  simp only [Handler.help, Handler.ofCommand, Command.HelpInquiry.parse?]
  cases recognizes bot.handle m.content.toList <;> rfl

theorem substitution_respond_refused {E : Regex.Engine} {limits : Limits} {m : Message}
    {words : String} (h : Refused E limits m words) (bot : Identity) :
    ∃ logs, (Handler.substitution E limits).respond bot m = .answered logs (replyTo m words) := by
  cases h with
  | unreadable h =>
    simp only [Handler.substitution, Handler.ofCommand, SubstitutionRequest.parse?, h]
    exact ⟨_, rfl⟩
  | unperformed h he =>
    simp only [Handler.substitution, Handler.ofCommand, SubstitutionRequest.parse?, h]
    simp only [Except.map, Except.mapError, Option.map_some, he]
    exact ⟨_, rfl⟩

/-- The handler of rules fails on a number that is too long, and on nothing else. -/
theorem substitution_respond_failed_iff {E : Regex.Engine} {limits : Limits} {bot : Identity}
    {m : Message} {e : HandlerFailure} :
    (Handler.substitution E limits).respond bot m = .failed e ↔
      ∃ n, Rule.parse? E m.content.toList = .error (.numeral n) ∧ e = .other n := by
  simp only [Handler.substitution, Handler.ofCommand, SubstitutionRequest.parse?]
  cases h : Rule.parse? E m.content.toList with
  | error p =>
    cases p with
    | fault f => simp [Except.map, Except.mapError, Handler.parseFailure]
    | numeral n => simp [Except.map, Except.mapError, Handler.parseFailure, eq_comm]
  | ok rule? =>
    cases rule? with
    | none => simp [Except.map, Except.mapError]
    | some rule =>
      simp only [Except.map, Except.mapError, Option.map_some]
      cases SubstitutionRequest.execute limits
        { rule, chat := m.chat, trigger := m.id, target := m.replied? } <;> simp

/-! ## Offers to the two handlers -/

section Offers

variable {E : Regex.Engine} {σ : Type} (t : Transport σ) (limits : Limits) {bot : Identity}
  {m : Message} (s : σ)

theorem offer_recognized (h : recognizes bot.handle m.content.toList = true) :
    offer t bot m [Handler.help, Handler.substitution E limits] s =
      deliver t m [] (replyTo m helpText) s := by
  rw [offer, help_respond, if_pos h]

theorem offer_unrecognized (h : recognizes bot.handle m.content.toList = false) :
    offer t bot m [Handler.help, Handler.substitution E limits] s =
      (offer t bot m [Handler.substitution E limits] s).afterDecline := by
  rw [offer, help_respond, h]
  rfl

/-- A refused rule is answered once, and only a failure of that answer ends the run. -/
theorem offer_refused {words : String} (h : Refused E limits m words) :
    (offer t bot m [Handler.help, Handler.substitution E limits] s).step.delivery =
        some ⟨owed bot m words, (t.send (owed bot m words) s).1⟩ ∧
      (offer t bot m [Handler.help, Handler.substitution E limits] s).ending =
        (t.send (owed bot m words) s).1.map .handlerFailed := by
  rw [owed]
  cases hb : recognizes bot.handle m.content.toList with
  | true =>
    rw [offer_recognized t limits s hb]
    exact ⟨rfl, rfl⟩
  | false =>
    obtain ⟨logs, hl⟩ := substitution_respond_refused h bot
    rw [offer_unrecognized t limits s hb, offer, hl]
    exact ⟨rfl, rfl⟩

/-- A message with too long a number gets no answer, and the run ends. -/
theorem offer_numeral (h : recognizes bot.handle m.content.toList = false)
    {n : Rule.NumeralTooLong} (hn : Rule.parse? E m.content.toList = .error (.numeral n)) :
    (offer t bot m [Handler.help, Handler.substitution E limits] s).step.delivery = none ∧
      (offer t bot m [Handler.help, Handler.substitution E limits] s).ending =
        some (.crashed n) := by
  have hr : (Handler.substitution E limits).respond bot m = .failed (.other n) :=
    substitution_respond_failed_iff.mpr ⟨n, hn, rfl⟩
  rw [offer_unrecognized t limits s h, offer, hr]
  exact ⟨rfl, rfl⟩

theorem deliver_ending (m : Message) (logs : List LogRecord) (answer : Outgoing) {e : Ending}
    (h : (deliver t m logs answer s).ending = some e) : ∃ f, e = .handlerFailed f := by
  obtain ⟨f, -, hf⟩ := Option.map_eq_some_iff.mp h
  exact ⟨f, hf.symm⟩

/-- An offer ends the run for two reasons: the answer could not be delivered, or the message has too
long a number. -/
theorem offer_ending {e : Ending}
    (h : (offer t bot m [Handler.help, Handler.substitution E limits] s).ending = some e) :
    (∃ f, e = .handlerFailed f) ∨ Overlong E bot m := by
  cases hb : recognizes bot.handle m.content.toList with
  | true =>
    rw [offer_recognized t limits s hb] at h
    exact Or.inl (deliver_ending t s _ _ _ h)
  | false =>
    rw [offer_unrecognized t limits s hb, offer] at h
    cases hr : (Handler.substitution E limits).respond bot m with
    | declined =>
      rw [hr] at h
      exact absurd h (by simp [offer, Offering.afterDecline])
    | claimed =>
      rw [hr] at h
      exact absurd h (by simp [Offering.afterDecline])
    | answered logs answer =>
      rw [hr] at h
      exact Or.inl (deliver_ending t s m logs answer h)
    | failed f =>
      -- The only failure of a handler that is none of the transport's.
      obtain ⟨n, hn, -⟩ := substitution_respond_failed_iff.mp hr
      exact Or.inr ⟨hb, Rule.exists_numeral_iff.mp ⟨n, hn⟩⟩

end Offers

/-! ## Runs -/

/-- A message of a run is answered once, with a text to its author, and the run goes on unless this
answer could not be delivered. -/
structure AnsweredOnce (r : Run Script) (i : Nat) (step : Step) (answer : Outgoing) : Prop where
  delivery : ∃ failure, step.delivery = some ⟨answer, failure⟩
  delivered : step.delivery = some ⟨answer, none⟩ → i + 1 < r.steps.length
  undelivered : ∀ e, step.delivery = some ⟨answer, some e⟩ →
    i + 1 = r.steps.length ∧ r.ending = .handlerFailed e

/-- A message of a run is not answered, and the run ends with it in none of the ways in which it
should. -/
structure Crashed (r : Run Script) (i : Nat) (step : Step) : Prop where
  unanswered : step.delivery = none
  last : i + 1 = r.steps.length
  ending : ∃ n, r.ending = .crashed n

section Runs

variable {E : Regex.Engine} {limits : Limits} {bot : Identity} {script : Script} {i : Nat}
  {step : Step} {m : Message}

theorem commandRun_refused (hi : (commandRun E limits bot script).steps[i]? = some step)
    (hm : step.receipt = .message m) {words : String} (h : Refused E limits m words) :
    AnsweredOnce (commandRun E limits bot script) i step (owed bot m words) := by
  obtain ⟨rs, k, f⟩ := script
  obtain ⟨rs', k', hstep, hnext, hend⟩ := Script.run_step hi hm
  obtain ⟨hdelivery, hending⟩ := offer_refused Script.transport limits ⟨rs', k', f⟩ h
  rw [← hstep] at hdelivery
  refine ⟨⟨_, hdelivery⟩, fun hd => hnext ?_, fun e hd => hend _ ?_⟩
  · rw [hdelivery, Option.some.injEq, Delivery.mk.injEq] at hd
    rw [hending, hd.2]
    rfl
  · rw [hdelivery, Option.some.injEq, Delivery.mk.injEq] at hd
    rw [hending, hd.2]
    rfl

theorem commandRun_overlong (hi : (commandRun E limits bot script).steps[i]? = some step)
    (hm : step.receipt = .message m) (h : Overlong E bot m) :
    Crashed (commandRun E limits bot script) i step := by
  obtain ⟨rs, k, f⟩ := script
  obtain ⟨rs', k', hstep, -, hend⟩ := Script.run_step hi hm
  obtain ⟨n, hn⟩ := Rule.exists_numeral_iff.mpr h.numeral
  obtain ⟨hdelivery, hending⟩ := offer_numeral Script.transport limits ⟨rs', k', f⟩
    h.unrecognized hn
  obtain ⟨hlast, hcrashed⟩ := hend _ hending
  rw [← hstep] at hdelivery
  exact ⟨hdelivery, hlast, n, hcrashed⟩

theorem commandRun_ending (E : Regex.Engine) (limits : Limits) (bot : Identity) (script : Script)
    (h : ∀ step ∈ (commandRun E limits bot script).steps, ∀ m, step.receipt = .message m →
      ¬ Overlong E bot m) :
    (commandRun E limits bot script).ending = .disconnected ∨
      (∃ e, (commandRun E limits bot script).ending = .receiverFailed e) ∨
      ∃ e, (commandRun E limits bot script).ending = .handlerFailed e := by
  obtain ⟨rs, k, f⟩ := script
  rcases Script.run_ending rs k f with hd | hr | ⟨step, hstep, m, rs', k', hm, he⟩
  · exact Or.inl hd
  · exact Or.inr (Or.inl hr)
  · rcases offer_ending Script.transport limits ⟨rs', k', f⟩ he with hf | ho
    · exact Or.inr (Or.inr hf)
    · exact absurd ho (h step hstep m hm)

end Runs

/-- **What a message can do to a run.** The messages of a run are the script's in order, and every
call to send is a delivery of one of its steps. The run ends with the stream or with a failure of
the transport if and only if no message in it is overlong; a message whose rule is refused is
answered once, to its author, and the run goes on; an overlong message is not answered and ends
it. -/
theorem run_ending_iff_not_overlong (E : Regex.Engine) (limits : Limits) (bot : Identity)
    (script : Script) :
    (commandRun E limits bot script).steps.map Step.receipt <+:
        script.receipts ++ [.disconnected] ∧
    (commandRun E limits bot script).state.tried =
        script.tried + (commandRun E limits bot script).deliveries.length ∧
    ((commandRun E limits bot script).ending = .disconnected ∨
        (∃ e, (commandRun E limits bot script).ending = .receiverFailed e) ∨
        (∃ e, (commandRun E limits bot script).ending = .handlerFailed e) ↔
      ∀ step ∈ (commandRun E limits bot script).steps, ∀ m, step.receipt = .message m →
        ¬ Overlong E bot m) ∧
    ∀ i step m, (commandRun E limits bot script).steps[i]? = some step →
      step.receipt = .message m →
      (∀ words, Refused E limits m words →
        AnsweredOnce (commandRun E limits bot script) i step (owed bot m words)) ∧
      (Overlong E bot m → Crashed (commandRun E limits bot script) i step) := by
  refine ⟨?receipts, ?tried, ⟨?overlong, commandRun_ending E limits bot script⟩, ?steps⟩
  case receipts => exact Script.run_receipts script.receipts script.tried script.failure
  case tried => exact Script.run_tried script.receipts script.tried script.failure
  case overlong =>
    -- An overlong message in the run would be its last, and the ending would be none of the three.
    intro hending step hstep m hm ho
    obtain ⟨i, hi⟩ := List.getElem?_of_mem hstep
    obtain ⟨n, hn⟩ := (commandRun_overlong hi hm ho).ending
    rw [hn] at hending
    exact absurd hending (by simp)
  case steps =>
    intro i step m hi hm
    exact ⟨fun words h => commandRun_refused hi hm h, commandRun_overlong hi hm⟩

/-- A message with the rule `s/a`. -/
def unfinishedMessage : Message :=
  .mk (.number 1) (.number 100) (String.ofList (Rule.marker ++ ['a'])) .notReplying

theorem unfinishedMessage_refused (E : Regex.Engine) (limits : Limits) :
    Refused E limits unfinishedMessage (Rule.Fault.message .missingQuery) := by
  refine .unreadable ?_
  rw [unfinishedMessage, Message.content, String.toList_ofList]
  rfl

theorem run_ending_iff_not_overlong_unfinished :
    AnsweredOnce
      (commandRun Backtracking.engine {} ⟨none⟩ ⟨[.message unfinishedMessage], 0, fun _ => none⟩) 0
      (offer Script.transport ⟨none⟩ unfinishedMessage
        [Handler.help, Handler.substitution Backtracking.engine {}] ⟨[], 0, fun _ => none⟩).step
      (owed ⟨none⟩ unfinishedMessage (Rule.Fault.message .missingQuery)) := by
  have hrefused := unfinishedMessage_refused Backtracking.engine {}
  have hends : (offer Script.transport ⟨none⟩ unfinishedMessage
      [Handler.help, Handler.substitution Backtracking.engine {}] ⟨[], 0, fun _ => none⟩).ending =
        none :=
    (offer_refused Script.transport {} ⟨[], 0, fun _ => none⟩ hrefused).2
  have hi : (commandRun Backtracking.engine {} ⟨none⟩
      ⟨[.message unfinishedMessage], 0, fun _ => none⟩).steps[0]? =
        some (offer Script.transport ⟨none⟩ unfinishedMessage
          [Handler.help, Handler.substitution Backtracking.engine {}]
            ⟨[], 0, fun _ => none⟩).step := by
    rw [commandRun, Script.run_message_continued rfl hends]
    rfl
  obtain ⟨-, -, -, h⟩ := run_ending_iff_not_overlong Backtracking.engine {} ⟨none⟩
    ⟨[.message unfinishedMessage], 0, fun _ => none⟩
  exact (h 0 _ unfinishedMessage hi (offer_receipt _ _ _ _ _)).1 _ hrefused

/-! ## A message that ends a run -/

/-- A message that is no reply, with a rule whose template is a number of `n` digits. -/
def onesMessage (n : Nat) : Message :=
  .mk (.number 1) (.number 100) (String.ofList (Rule.onesRule n)) .notReplying

theorem onesMessage_not_recognized (n : Nat) :
    recognizes none (onesMessage n).content.toList = false := by
  have hs : Text.isBlank 's' = false := rfl
  obtain ⟨q, hq⟩ := Text.trim_cons hs ('/' :: Rule.onesTail n)
  have htrim : Text.trim (onesMessage n).content.toList = 's' :: q := by
    rw [onesMessage, Message.content, String.toList_ofList]
    exact hq
  rw [recognizes, htrim]
  simp

/-- A run that takes such a message is over, whatever else there would be to take. -/
theorem commandRun_onesMessage {E : Regex.Engine} {pattern : E.Pattern}
    (hpattern : Rule.Flags.compile E {} ['a'] = .ok pattern) {n : Nat}
    (h : Rule.numeralLimit < n) (limits : Limits) (rs : List Receipt) (k : Nat)
    (f : Nat → Option TransportError) :
    (commandRun E limits ⟨none⟩ ⟨.message (onesMessage n) :: rs, k, f⟩).ending = .crashed ⟨n⟩ ∧
      (commandRun E limits ⟨none⟩ ⟨.message (onesMessage n) :: rs, k, f⟩).deliveries = [] := by
  have hn : Rule.parse? E (onesMessage n).content.toList = .error (.numeral ⟨n⟩) := by
    rw [onesMessage, Message.content, String.toList_ofList]
    exact Rule.parse?_onesRule hpattern h
  have hr : recognizes (⟨none⟩ : Identity).handle (onesMessage n).content.toList = false :=
    onesMessage_not_recognized n
  obtain ⟨hdelivery, hending⟩ := offer_numeral Script.transport limits ⟨rs, k, f⟩ hr hn
  rw [commandRun, Script.run_message_ended hending]
  refine ⟨rfl, ?_⟩
  rw [Run.deliveries, List.flatMap_singleton, hdelivery]
  rfl

/-- **A number of 4301 digits ends a run**, although nothing was wrong with the transport: its
author gets no answer, and neither does the request for help that comes after it. -/
theorem overlong_numeral_crashes :
    (commandRun Backtracking.engine {} ⟨none⟩ ⟨[.message (onesMessage 4301),
        .message (.mk (.number 2) (.number 100) "/help" .notReplying)], 0, fun _ => none⟩).ending =
      .crashed ⟨4301⟩ ∧
    (commandRun Backtracking.engine {} ⟨none⟩ ⟨[.message (onesMessage 4301),
        .message (.mk (.number 2) (.number 100) "/help" .notReplying)], 0,
          fun _ => none⟩).deliveries = [] := by
  have hpattern : ∃ pattern, Rule.Flags.compile Backtracking.engine {} ['a'] = .ok pattern :=
    ⟨_, rfl⟩
  obtain ⟨_, hpattern⟩ := hpattern
  have h : Rule.numeralLimit < 4301 := by simp [Rule.numeralLimit]
  exact commandRun_onesMessage hpattern h {} _ 0 _

end SubstBot.Dispatch
