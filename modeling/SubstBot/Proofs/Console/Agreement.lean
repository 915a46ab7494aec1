import SubstBot.Proofs.Backtracking.Engine
import SubstBot.Proofs.Console.Shell
import SubstBot.Proofs.Dispatch.Answers
import SubstBot.Settings.Lax

/-!
# `SubstBot/Proofs/Console/Agreement.lean` — the command line and the bot

A rule can be tried on the command line before it is sent to a chat. There the text is an argument
beside the rule, and what comes of it is an exit code and a line; in a chat the text is that of the
message replied to, the result has to be fit to be sent, and what is wrong is told to the author.

`apply_agrees_with_handler` puts the two side by side, over any engine and any shell of which no more
is known than is documented. They read the same rules and refuse the same ones in the same words, and
a result of the one is a result of the other.

**They do not always show the same text.** The bot sends a result as it is. On the command line a
result is printed without its control sequences, so the two are equal exactly if there are none in
it (`Performed.whole_iff`).
-/

set_option autoImplicit false

namespace SubstBot.Console

open SubstBot.Command (Limits SubstitutionError SubstitutionRequest)
open Handler (replyTo)

variable {E : Regex.Engine} {S : Shell} {limits : Limits} {rule text : String}
  {m target : Message} {bot : Identity}

/-- What the handler of rules does with a result: it is sent as it is, in reply to the message that
it was made from, or the author of the rule is told why not. -/
inductive Sent (limits : Limits) (m target : Message) (r : List Char) : Response → Prop where
  | result (hshown : ∃ c ∈ r, Text.isBlank c = false) (hlength : r.length ≤ limits.maxLength) :
      Sent limits m target r
        (.answered [] { chat := m.chat, content := String.ofList r, reply := .id target.id })
  | blank {logs : List LogRecord} (hblank : ∀ c ∈ r, Text.isBlank c = true) :
      Sent limits m target r
        (.answered logs (replyTo m SubstitutionError.emptyResult.message))
  | tooLong {logs : List LogRecord} (hshown : ∃ c ∈ r, Text.isBlank c = false)
      (hlength : limits.maxLength < r.length) :
      Sent limits m target r
        (.answered logs
          (replyTo m (SubstitutionError.resultTooLong r.length limits.maxLength).message))

/-- What becomes of a result on either side: it is printed, and it is sent if it is fit to be. -/
structure Performed (limits : Limits) (m target : Message) (r : List Char) (answer : Answer)
    (response : Response) : Prop where
  printed : ∃ line, Text.Unstyled r line ∧ answer.stdout = String.ofList (line ++ ['\n'])
  whole_iff : answer.stdout = String.ofList (r ++ ['\n']) ↔
    ∀ q, Text.ControlSequence q → ¬ q <:+: r
  sent : Sent limits m target r response

/-- **The command line and the handler of rules agree** on a rule and a text: `answer` is what is
given for the two as arguments, and `response` is what is made of a message with the rule, in reply
to one with the text. -/
structure Agree (E : Regex.Engine) (S : Shell) (limits : Limits) (rule text : String)
    (m target : Message) (answer : Answer) (response : Response) : Prop where
  performed_iff : answer.exitCode = 0 ↔ ∃ R, Rule.parse? E rule.toList = .ok (some R)
  performed : ∀ R, Rule.parse? E rule.toList = .ok (some R) →
    ∃ r, R.apply text.toList none = some r ∧ Performed limits m target r answer response
  failed_iff : answer.exitCode = 1 ↔
    ¬ Rule.marker <:+: rule.toList ∧ response = .declined ∨
      ∃ f logs, Rule.parse? E rule.toList = .error (.fault f) ∧
        response = .answered logs (replyTo m f.message)
  /-- A failure is words, and no substitution. -/
  failure : answer.exitCode ≠ 0 → ∃ words, answer = failure S words

/-- Matching the rule against the text is not stopped for lack of time. -/
def Unhindered (E : Regex.Engine) (timeout : Binary64) (rule text : String) : Prop :=
  ∀ R, Rule.parse? E rule.toList = .ok (some R) → R.apply text.toList timeout ≠ none

/-- A rule that is not stopped has the result that it has with all the time there is. -/
theorem apply_of_not_stopped (hE : E.Steady) {R : Rule E} {s : List Char} {timeout : Binary64}
    (h : R.apply s timeout ≠ none) : R.apply s timeout = R.apply s none :=
  (hE _ _ _ _ _).resolve_left h

/-! ## The command line -/

/-- Two arguments that are no options are the rule and the text. -/
theorem run_apply (hS : S.Documented) (hrule : Undashed rule) (htext : Undashed text)
    (E : Regex.Engine) (V : Settings.Validator) (sources : Settings.Sources)
    (updater : Telegram.Updater) :
    run E V S sources updater ["apply", rule, text] = apply E S rule text := by
  rw [run, hS.arguments rule text hrule htext]

theorem apply_performed {R : Rule E} (h : Rule.parse? E rule.toList = .ok (some R))
    {r : List Char} (hr : R.apply text.toList Command.matchTimeout = some r) :
    apply E S rule text = { exitCode := 0, stdout := S.echoed (String.ofList r) } := by
  simp only [apply, h, hr]

/-- What is printed of a result is what is left of it without control sequences. -/
theorem Shell.Documented.echoed_result (hS : S.Documented) (r : List Char) :
    ∃ line, Text.Unstyled r line ∧ S.echoed (String.ofList r) = String.ofList (line ++ ['\n']) := by
  obtain ⟨line, hline, hechoed⟩ := hS.echoed (String.ofList r)
  rw [String.toList_ofList] at hline
  exact ⟨line, hline, hechoed⟩

theorem printed_whole_iff {r line : List Char} (h : Text.Unstyled r line) :
    String.ofList (line ++ ['\n']) = String.ofList (r ++ ['\n']) ↔
      ∀ q, Text.ControlSequence q → ¬ q <:+: r := by
  rw [String.ofList_inj, List.append_left_inj, h.eq_self_iff]

/-! ## The handler -/

theorem respond_performed {R : Rule E} (h : Rule.parse? E m.content.toList = .ok (some R))
    (htarget : m.replied? = some target) {r : List Char}
    (hr : R.apply target.content.toList limits.timeout = some r) :
    Sent limits m target r ((Handler.substitution E limits).respond bot m) := by
  simp only [Handler.substitution, Handler.ofCommand, SubstitutionRequest.parse?, h, Except.map,
    Except.mapError, Option.map_some, SubstitutionRequest.execute, htarget, hr]
  cases hb : Text.allBlank r with
  | true => exact .blank (List.all_eq_true.mp hb)
  | false =>
    have hshown : ∃ c ∈ r, Text.isBlank c = false := by
      obtain ⟨c, hc, hblank⟩ := List.all_eq_false.mp hb
      exact ⟨c, hc, Bool.eq_false_iff.mpr hblank⟩
    by_cases hlength : limits.maxLength < r.length
    · simp only [Bool.false_eq_true, if_false, hlength, if_true]
      exact .tooLong hshown hlength
    · simp only [Bool.false_eq_true, if_false, hlength]
      exact .result hshown (Int.not_lt.mp hlength)

theorem respond_declined (h : Rule.parse? E m.content.toList = .ok none) :
    (Handler.substitution E limits).respond bot m = .declined := by
  simp only [Handler.substitution, Handler.ofCommand, SubstitutionRequest.parse?, h, Except.map,
    Except.mapError, Option.map_none]

/-! ## Side by side -/

/-- A number that is too long ends both, and nothing else does. -/
theorem escaped_iff (hm : m.content = rule) {n : Rule.NumeralTooLong} :
    (apply E S rule text).escaped = some n ↔
      (Handler.substitution E limits).respond bot m = .failed (.other n) := by
  subst hm
  rw [Dispatch.substitution_respond_failed_iff]
  simp only [apply]
  cases Rule.parse? E m.content.toList with
  | error e => cases e <;> simp [Console.failure, eq_comm]
  | ok R? =>
    cases R? with
    | none => simp [Console.failure]
    | some R => cases hr : R.apply text.toList Command.matchTimeout <;> simp [Console.failure, hr]

theorem Agree.of_performed {R : Rule E} {r : List Char} {answer : Answer} {response : Response}
    (h : Rule.parse? E rule.toList = .ok (some R)) (hr : R.apply text.toList none = some r)
    (hexit : answer.exitCode = 0) (hperformed : Performed limits m target r answer response) :
    Agree E S limits rule text m target answer response where
  performed_iff := ⟨fun _ => ⟨R, h⟩, fun _ => hexit⟩
  performed := by
    intro R' h'
    obtain rfl := Option.some.inj (Except.ok.inj (h'.symm.trans h))
    exact ⟨r, hr, hperformed⟩
  failed_iff := by
    refine ⟨fun hone => absurd (hone.symm.trans hexit) (by simp), ?_⟩
    rintro (⟨hmarker, -⟩ | ⟨f, logs, hfault, -⟩)
    · exact absurd ((Rule.parse?_eq_none_iff.mpr hmarker).symm.trans h) (by simp)
    · exact absurd (hfault.symm.trans h) (by simp)
  failure hne := absurd hexit hne

theorem Agree.of_failure {words : String} {response : Response}
    (hno : ∀ R, Rule.parse? E rule.toList ≠ .ok (some R))
    (hresponse : ¬ Rule.marker <:+: rule.toList ∧ response = .declined ∨
      ∃ f logs, Rule.parse? E rule.toList = .error (.fault f) ∧
        response = .answered logs (replyTo m f.message)) :
    Agree E S limits rule text m target (Console.failure S words) response where
  performed_iff := by
    refine ⟨fun hexit => absurd hexit (by simp [Console.failure]), ?_⟩
    rintro ⟨R, h⟩
    exact absurd h (hno R)
  performed R h := absurd h (hno R)
  failed_iff := ⟨fun _ => hresponse, fun _ => rfl⟩
  failure _ := ⟨words, rfl⟩

/-- **A rule does the same on the command line as in a chat**, up to what a result needs to be sent
and to the control sequences in it. Neither argument begins with a dash, no number in the rule is too
long, and matching is not stopped; the two sides may give it different times. -/
theorem apply_agrees_with_handler (hE : E.Steady) (hS : S.Documented) (hrule : Undashed rule)
    (htext : Undashed text) (hm : m.content = rule) (htarget : m.replied? = some target)
    (hcontent : target.content = text)
    (hnumeral : ∀ n, Rule.parse? E rule.toList ≠ .error (.numeral n))
    (hhere : Unhindered E Command.matchTimeout rule text)
    (hlimits : Unhindered E limits.timeout rule text) (V : Settings.Validator)
    (sources : Settings.Sources) (updater : Telegram.Updater) (bot : Identity) :
    Agree E S limits rule text m target (run E V S sources updater ["apply", rule, text])
      ((Handler.substitution E limits).respond bot m) := by
  rw [run_apply hS hrule htext]
  subst hm hcontent
  cases h : Rule.parse? E m.content.toList with
  | error e =>
    cases e with
    | fault f =>
      have hrefused : Dispatch.Refused E limits m f.message := .unreadable h
      obtain ⟨logs, hresponse⟩ := Dispatch.substitution_respond_refused hrefused bot
      simp only [apply, h]
      exact .of_failure (by simp [h]) (Or.inr ⟨f, logs, h, hresponse⟩)
    | numeral n => exact absurd h (hnumeral n)
  | ok R? =>
    cases R? with
    | none =>
      simp only [apply, h]
      exact .of_failure (by simp [h])
        (Or.inl ⟨Rule.parse?_eq_none_iff.mp h, respond_declined h⟩)
    | some R =>
      -- The sides give the engine different times, so they meet at the result without a limit.
      obtain ⟨r, hr⟩ := Option.ne_none_iff_exists'.mp (hhere R h)
      have hwhole : R.apply target.content.toList none = some r := by
        rw [← apply_of_not_stopped hE (hhere R h), hr]
      have hthere : R.apply target.content.toList limits.timeout = some r := by
        rw [apply_of_not_stopped hE (hlimits R h), hwhole]
      obtain ⟨line, hline, hechoed⟩ := hS.echoed_result r
      rw [apply_performed h hr, hechoed]
      exact .of_performed h hwhole rfl
        { printed := ⟨line, hline, rfl⟩
          whole_iff := printed_whole_iff hline
          sent := respond_performed h htarget hthere }

/-! ## A result that is not printed as it is sent -/

/-- A message in which a terminal is switched to red. -/
def redMessage : Message := .mk (.number 1) (.number 100) "a\x1b[31m" .notReplying

/-- A reply to it, with a rule. -/
def redReply : Message := .mk (.number 2) (.number 100) "s/a/b/" (.message redMessage)

theorem apply_agrees_with_handler_red :
    Agree Backtracking.engine Plain.shell {} "s/a/b/" "a\x1b[31m" redReply redMessage
      (run Backtracking.engine Settings.lax Plain.shell {}
        ⟨"bot", false, [], fun _ => [], [], false⟩ ["apply", "s/a/b/", "a\x1b[31m"])
      ((Handler.substitution Backtracking.engine {}).respond ⟨none⟩ redReply) := by
  have hrule : Undashed "s/a/b/" := by simp [Undashed]
  have htext : Undashed "a\x1b[31m" := by simp [Undashed]
  have hread : (Rule.parse? Backtracking.engine "s/a/b/".toList).isOk = true := by decide +kernel
  have hnumeral : ∀ n, Rule.parse? Backtracking.engine "s/a/b/".toList ≠ .error (.numeral n) := by
    intro n hn
    rw [hn] at hread
    exact absurd hread Bool.false_ne_true
  have hunhindered : ∀ timeout,
      Unhindered Backtracking.engine timeout "s/a/b/" "a\x1b[31m" :=
    fun _ _ _ => Option.some_ne_none _
  exact apply_agrees_with_handler Backtracking.engine_steady Plain.shell_documented hrule htext
    rfl rfl rfl hnumeral (hunhindered _) (hunhindered _) _ _ _ _

/-- The bot sends the result with its control sequence, and on the command line it is printed
without. -/
theorem control_sequence_not_printed :
    (Handler.substitution Backtracking.engine {}).respond ⟨none⟩ redReply =
        .answered [] { chat := .number 100, content := "b\x1b[31m", reply := .id (.number 1) } ∧
      (run Backtracking.engine Settings.lax Plain.shell {}
        ⟨"bot", false, [], fun _ => [], [], false⟩
          ["apply", "s/a/b/", "a\x1b[31m"]).exitCode = 0 ∧
      (run Backtracking.engine Settings.lax Plain.shell {}
        ⟨"bot", false, [], fun _ => [], [], false⟩
          ["apply", "s/a/b/", "a\x1b[31m"]).stdout = "b\n" := by
  decide +kernel

end SubstBot.Console
