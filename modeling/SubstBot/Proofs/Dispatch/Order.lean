import SubstBot.Proofs.Dispatch.UserInput
import SubstBot.Proofs.Text.Trim

/-!
# `SubstBot/Proofs/Dispatch/Order.lean` — the order of the handlers

A message goes to the first handler that wants it, so in general the order of the handlers counts.
It does not where **no message is wanted by two of them**: then whoever wants a message gets it,
wherever it stands in the list, and only the offers that the others decline depend on the order.
`offer_agree_of_perm` says so of one message and `run_agree_of_perm` of a whole run, for any
handlers and over any transport.

The two handlers of the bot are such a pair for every handle that a bot can sensibly have. A request
for help is fixed but for the blanks around it and the handle at its end, and `/help@` has no `s` in
it, so a marker of a rule would have to stand in the handle. `exists_contested_iff` says exactly
which handles give a text that both want: those with a marker in them that do not end with a blank,
since nothing that ends with one is left after trimming.
-/

set_option autoImplicit false

namespace SubstBot

namespace Dispatch

variable {σ ε : Type} {bot : Identity}

/-! ## Handlers that never want the same message -/

/-- No message is wanted by two of these handlers. -/
def Exclusive (bot : Identity) (hs : List (Handler ε)) : Prop :=
  hs.Pairwise fun h h' => ∀ m, h.respond bot m = .declined ∨ h'.respond bot m = .declined

theorem Exclusive.perm {hs hs' : List (Handler ε)} (hx : Exclusive bot hs) (hp : hs.Perm hs') :
    Exclusive bot hs' :=
  List.Pairwise.perm hx hp fun h m => (h m).symm

/-- A step without the offers that were made in it. -/
def Step.unoffered (s : Step) : Step :=
  { s with offers := [] }

/-- The same came of a message, apart from who declined it. -/
structure Offering.Agree (o o' : Offering σ ε) : Prop where
  step : o.step.unoffered = o'.step.unoffered
  ending : o.ending = o'.ending
  state : o.state = o'.state

theorem Offering.Agree.refl (o : Offering σ ε) : o.Agree o :=
  ⟨rfl, rfl, rfl⟩

theorem Offering.Agree.trans {o o' o'' : Offering σ ε} (h : o.Agree o') (h' : o'.Agree o'') :
    o.Agree o'' :=
  ⟨h.step.trans h'.step, h.ending.trans h'.ending, h.state.trans h'.state⟩

theorem Offering.Agree.symm {o o' : Offering σ ε} (h : o.Agree o') : o'.Agree o :=
  ⟨h.step.symm, h.ending.symm, h.state.symm⟩

/-- One more handler that declines makes no difference. -/
theorem Offering.afterDecline_agree (o : Offering σ ε) : o.afterDecline.Agree o :=
  ⟨rfl, rfl, rfl⟩

theorem offer_cons_declined (t : Transport σ) {m : Message} {h : Handler ε}
    (hr : h.respond bot m = .declined) (hs : List (Handler ε)) (s : σ) :
    (offer t bot m (h :: hs) s).Agree (offer t bot m hs s) := by
  rw [offer, hr]
  exact Offering.afterDecline_agree _

/-- What is offered first to the same handler comes to the same, if what is left comes to the
same. -/
theorem offer_cons_agree (t : Transport σ) {m : Message} {hs hs' : List (Handler ε)} {s : σ}
    (h : Handler ε) (ha : (offer t bot m hs s).Agree (offer t bot m hs' s)) :
    (offer t bot m (h :: hs) s).Agree (offer t bot m (h :: hs') s) := by
  rw [offer, offer]
  cases h.respond bot m with
  | declined =>
    have hback := (Offering.afterDecline_agree (offer t bot m hs' s)).symm
    exact ((Offering.afterDecline_agree _).trans ha).trans hback
  | claimed => exact .refl _
  | answered logs answer => exact .refl _
  | failed e => exact .refl _

/-- **Who wants a message gets it, in whatever order it is offered.** -/
theorem offer_agree_of_perm (t : Transport σ) {hs hs' : List (Handler ε)} (hp : hs.Perm hs')
    (hx : Exclusive bot hs) (m : Message) (s : σ) :
    (offer t bot m hs s).Agree (offer t bot m hs' s) := by
  induction hp with
  | nil => exact .refl _
  | cons h _ ih => exact offer_cons_agree t h (ih (List.Pairwise.of_cons hx))
  | swap h h' hs =>
    -- One of the two declines, and so can be taken out of either list.
    have hpair : h'.respond bot m = .declined ∨ h.respond bot m = .declined :=
      List.rel_of_pairwise_cons hx List.mem_cons_self m
    rcases hpair with hr | hr
    · have hleft := offer_cons_declined t hr (h :: hs) s
      have hright := offer_cons_agree t h (offer_cons_declined t hr hs s)
      exact hleft.trans hright.symm
    · have hleft := offer_cons_agree t h' (offer_cons_declined t hr hs s)
      have hright := offer_cons_declined t hr (h' :: hs) s
      exact hleft.trans hright.symm
  | trans hp _ ih ih' => exact (ih hx).trans (ih' (hx.perm hp))

/-! ## Runs -/

/-- Two runs did the same, apart from who declined which message. -/
structure Run.Agree (r r' : Run σ ε) : Prop where
  steps : r.steps.map Step.unoffered = r'.steps.map Step.unoffered
  ending : r.ending = r'.ending
  state : r.state = r'.state

/-- Whatever is read off the steps of a run without looking at the offers. -/
theorem Run.Agree.flatMap_eq {β : Type} {r r' : Run σ ε} (h : r.Agree r') (f : Step → List β)
    (hf : ∀ s : Step, f s = f s.unoffered) : r.steps.flatMap f = r'.steps.flatMap f := by
  have hthrough : ∀ steps : List Step,
      steps.flatMap f = (steps.map Step.unoffered).flatMap f := by
    intro steps
    rw [List.flatMap_map]
    exact congrArg steps.flatMap (funext hf)
  rw [hthrough r.steps, hthrough r'.steps, h.steps]

theorem runFor_agree (t : Transport σ) {hs hs' : List (Handler ε)}
    (h : ∀ m s, (offer t bot m hs s).Agree (offer t bot m hs' s)) (bound : Nat) (s : σ) :
    (runFor t bot hs bound s).Agree (runFor t bot hs' bound s) := by
  induction bound generalizing s with
  | zero => exact ⟨rfl, rfl, rfl⟩
  | succ bound ih =>
    rw [runFor, runFor]
    obtain ⟨receipt, logs, s⟩ := t.receive s
    cases receipt with
    | failed e => exact ⟨rfl, rfl, rfl⟩
    | disconnected => exact ⟨rfl, rfl, rfl⟩
    | message m =>
      obtain ⟨hstep, hending, hstate⟩ := h m s
      simp only [Step.unoffered, Step.mk.injEq] at hstep
      obtain ⟨hreceipt, -, hdelivery, hlogs⟩ := hstep
      have hfirst : ({ (offer t bot m hs s).step with
            logs := logs ++ (offer t bot m hs s).step.logs } : Step).unoffered =
          ({ (offer t bot m hs' s).step with
            logs := logs ++ (offer t bot m hs' s).step.logs } : Step).unoffered := by
        simp only [Step.unoffered, hreceipt, hdelivery, hlogs]
      dsimp only
      rw [hending]
      cases (offer t bot m hs' s).ending with
      | some ending => exact ⟨congrArg (fun step => [step]) hfirst, rfl, hstate⟩
      | none =>
        rw [hstate]
        obtain ⟨hsteps, hend, hfinal⟩ := ih (offer t bot m hs' s).state
        refine ⟨?_, hend, hfinal⟩
        rw [List.map_cons, List.map_cons, hfirst, hsteps]

/-- **The order of handlers that never want the same message does not matter to a run.** -/
theorem run_agree_of_perm (t : Transport σ) {hs hs' : List (Handler ε)} (hp : hs.Perm hs')
    (hx : Exclusive bot hs) (s : σ) : (run t bot hs s).Agree (run t bot hs' s) :=
  runFor_agree t (offer_agree_of_perm t hp hx) _ s

end Dispatch

/-! ## What asks for help -/

namespace Command.HelpInquiry

/-- A request for help without the blanks around it. -/
inductive AsksHelp (handle : Option String) : List Char → Prop where
  | bare : AsksHelp handle "/help".toList
  | addressed {name : String} (h : handle = some name) (hne : name ≠ "") :
      AsksHelp handle ("/help@".toList ++ name.toList)

variable {handle : Option String} {text : List Char}

/-- **Help is asked for by the request itself, with any blanks around it, and by nothing else.** -/
theorem recognizes_iff :
    recognizes handle text = true ↔ ∃ core, Text.Stripped text core ∧ AsksHelp handle core := by
  have hlong : ∀ name : String, "/help@".toList ++ name.toList =
      "/help".toList ++ '@' :: name.toList := fun _ => rfl
  unfold recognizes
  simp only [Bool.or_eq_true, beq_iff_eq]
  constructor
  · rintro (hbare | hname)
    · exact ⟨_, Text.trim_eq_iff.mp hbare, .bare⟩
    · cases handle with
      | none => exact absurd hname Bool.false_ne_true
      | some name =>
        simp only [Bool.and_eq_true, bne_iff_ne, beq_iff_eq] at hname
        refine ⟨_, Text.trim_eq_iff.mp hname.2, ?_⟩
        rw [← hlong]
        exact .addressed rfl hname.1
  · rintro ⟨core, hs, hcore⟩
    rw [Text.trim_eq_iff.mpr hs]
    cases hcore with
    | bare => exact Or.inl rfl
    | addressed h hne =>
      subst h
      right
      simp only [Bool.and_eq_true, bne_iff_ne, beq_iff_eq]
      exact ⟨hne, hlong _⟩

/-- The marker of a rule cannot begin before the handle: there is no `s` there. -/
theorem marker_infix_addressed {name : List Char}
    (h : Rule.marker <:+: "/help@".toList ++ name) : Rule.marker <:+: name := by
  have hchars : "/help@".toList ++ name = '/' :: 'h' :: 'e' :: 'l' :: 'p' :: '@' :: name := rfl
  rw [hchars] at h
  simpa [Rule.marker, List.infix_cons_iff] using h

theorem not_marker_bare : ¬ Rule.marker <:+: "/help".toList := by
  have hchars : "/help".toList = ['/', 'h', 'e', 'l', 'p'] := rfl
  rw [hchars]
  decide

/-- **When a text can be both a request for help and hold a rule**: when the handle has a marker in
it and does not end with a blank. -/
theorem exists_contested_iff :
    (∃ text, recognizes handle text = true ∧ Rule.marker <:+: text) ↔
      ∃ name, handle = some name ∧ Rule.marker <:+: name.toList ∧
        ∀ c ∈ name.toList.getLast?, Text.isBlank c = false := by
  have hmarker : ∀ c ∈ Rule.marker, Text.isBlank c = false := by
    intro c hc
    rw [Rule.marker, List.mem_pair] at hc
    rcases hc with rfl | rfl <;> rfl
  constructor
  · rintro ⟨text, hr, hm⟩
    obtain ⟨core, hs, hcore⟩ := recognizes_iff.mp hr
    have hinside : Rule.marker <:+: core := by
      rw [← Text.trim_eq_iff.mpr hs]
      exact (Text.infix_trim_iff (by simp [Rule.marker]) hmarker).mpr hm
    cases hcore with
    | bare => exact absurd hinside not_marker_bare
    | @addressed name h hne =>
      refine ⟨name, h, marker_infix_addressed hinside, fun c hc => hs.last c ?_⟩
      rw [List.getLast?_append, Option.mem_def.mp hc]
      rfl
  · rintro ⟨name, rfl, hm, hlast⟩
    have hne : name.toList ≠ [] := by
      intro hnil
      rw [hnil] at hm
      exact absurd hm (by decide)
    refine ⟨"/help@".toList ++ name.toList,
      recognizes_iff.mpr ⟨_, ?stripped, .addressed rfl ?_⟩, ?_⟩
    case stripped =>
      refine ⟨⟨[], [], by simp, rfl, rfl⟩, fun c hc => ?_, fun c hc => hlast c ?_⟩
      · have hslash : '/' = c := Option.some.inj hc
        rw [← hslash]
        rfl
      · rwa [List.getLast?_append_of_ne_nil _ hne] at hc
    · rintro rfl
      exact hne rfl
    · exact hm.trans (List.suffix_append _ _).isInfix

end Command.HelpInquiry

/-! ## The two handlers of the bot -/

namespace Dispatch

open Command (Limits SubstitutionRequest HelpInquiry)
open Command.HelpInquiry (recognizes AsksHelp)

variable {E : Regex.Engine} {bot : Identity}

theorem help_respond_declined {m : Message} (h : HelpInquiry.parse? bot m = none) :
    Handler.help.respond bot m = .declined := by
  simp only [Handler.help, Handler.ofCommand, h]

theorem substitution_respond_declined (limits : Limits) {m : Message}
    (h : SubstitutionRequest.parse? E m = .ok none) :
    (Handler.substitution E limits).respond bot m = .declined := by
  simp only [Handler.substitution, Handler.ofCommand, h]
  rfl

/-- A message without a marker is not for the handler of rules. -/
theorem parse?_of_not_marker {m : Message} (h : ¬ Rule.marker <:+: m.content.toList) :
    SubstitutionRequest.parse? E m = .ok none := by
  rw [SubstitutionRequest.parse?, Rule.parse?_eq_none_iff.mpr h]
  rfl

/-- **The order of the handlers of the bot does not matter**, for a handle without the marker of a
rule in it.

* Help is asked for by `/help` and by `/help@` with the handle, with any blanks around, and by
  nothing else; there is no marker in any such text.
* So no message is for both handlers: help is not asked for, or there is no rule in it, not even one
  that cannot be read.
* So, whatever is received and whichever sends fail, runs with the handlers in either order hand
  over the same answers, deliver the same of them, log the same and end alike. -/
theorem handler_order_immaterial (E : Regex.Engine) (bot : Identity) (limits : Limits)
    (h : ∀ name, bot.handle = some name → ¬ Rule.marker <:+: name.toList) :
    (∀ text, recognizes bot.handle text = true ↔
      ∃ core, Text.Stripped text core ∧ AsksHelp bot.handle core) ∧
    (∀ text, recognizes bot.handle text = true → ¬ Rule.marker <:+: text) ∧
    (∀ m, HelpInquiry.parse? bot m = none ∨ SubstitutionRequest.parse? E m = .ok none) ∧
    ∀ script : Script,
      let r := script.run bot [Handler.help, Handler.substitution E limits]
      let r' := script.run bot [Handler.substitution E limits, Handler.help]
      r.deliveries = r'.deliveries ∧ r.steps.flatMap Step.sent = r'.steps.flatMap Step.sent ∧
        r.logs = r'.logs ∧ r.ending = r'.ending := by
  have hfree : ∀ text, recognizes bot.handle text = true → ¬ Rule.marker <:+: text := by
    intro text hr hm
    obtain ⟨name, hname, hmarker, -⟩ := HelpInquiry.exists_contested_iff.mp ⟨text, hr, hm⟩
    exact h name hname hmarker
  have hone : ∀ m, HelpInquiry.parse? bot m = none ∨
      SubstitutionRequest.parse? E m = .ok none := by
    intro m
    rw [HelpInquiry.parse?]
    cases hr : recognizes bot.handle m.content.toList with
    | false => exact Or.inl rfl
    | true => exact Or.inr (parse?_of_not_marker (hfree _ hr))
  refine ⟨fun text => HelpInquiry.recognizes_iff, hfree, hone, fun script => ?_⟩
  have hexclusive : Exclusive bot [Handler.help, Handler.substitution E limits] := by
    refine List.pairwise_pair.mpr fun m => ?_
    exact (hone m).imp help_respond_declined (substitution_respond_declined limits)
  have hagree := run_agree_of_perm Script.transport (List.Perm.swap _ _ []) hexclusive script
  exact ⟨hagree.flatMap_eq _ fun _ => rfl, hagree.flatMap_eq _ fun _ => rfl,
    hagree.flatMap_eq _ fun _ => rfl, hagree.ending⟩

/-- A handle as bots have them: a request for help that names it, a rule and a rule that cannot be
read are answered alike in either order, whichever of the answers fail. -/
theorem handler_order_immaterial_sedbot :
    (∀ name, (⟨some "sedbot"⟩ : Identity).handle = some name → ¬ Rule.marker <:+: name.toList) ∧
      ∀ failure : Nat → Option TransportError,
        let script : Script :=
          { receipts := [.message (.mk (.number 1) (.number 100) " /help@sedbot\n" .notReplying),
              .message (.mk (.number 2) (.number 100) "s/a/b/" .notReplying),
              .message (.mk (.number 3) (.number 100) "s/a" .notReplying)]
            failure }
        let r := script.run ⟨some "sedbot"⟩
          [Handler.help, Handler.substitution Backtracking.engine {}]
        let r' := script.run ⟨some "sedbot"⟩
          [Handler.substitution Backtracking.engine {}, Handler.help]
        r.deliveries = r'.deliveries ∧ r.logs = r'.logs ∧ r.ending = r'.ending := by
  have hfree : ∀ name, (⟨some "sedbot"⟩ : Identity).handle = some name →
      ¬ Rule.marker <:+: name.toList := by
    rintro name ⟨⟩
    decide
  refine ⟨hfree, fun failure => ?_⟩
  obtain ⟨-, -, -, hruns⟩ :=
    handler_order_immaterial Backtracking.engine ⟨some "sedbot"⟩ {} hfree
  obtain ⟨hdeliveries, -, hlogs, hending⟩ := hruns ⟨_, 0, failure⟩
  exact ⟨hdeliveries, hlogs, hending⟩

end Dispatch

end SubstBot
