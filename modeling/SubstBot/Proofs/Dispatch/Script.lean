import SubstBot.Dispatch.Script
import SubstBot.Proofs.Dispatch.Offer

/-!
# `SubstBot/Proofs/Dispatch/Script.lean` — what a run over a script consists of

A run over a script is a recursion on the receipts that are left, and the equations of the second
section say so: the end of the list, a failure to receive, the end of the stream, and a message that
ends the run or does not. From them every fact about runs follows by induction on the receipts, for
any handlers:

- the receipts of the steps are the script's, in order, as far as the run goes (`run_receipts`);
- each delivery recorded in a step is one call to send, and there are no others (`run_tried`);
- **a step with a message is an offer of that message** (`run_step`), and whether the run goes on
  after it is decided by how the offer ended;
- a run that did not end with its script ended with an offer (`run_ending`).
-/

set_option autoImplicit false

namespace SubstBot.Dispatch

/-! ## Offers -/

theorem offer_receipt {σ ε : Type} (t : Transport σ) (bot : Identity) (m : Message)
    (handlers : List (Handler ε)) (s : σ) :
    (offer t bot m handlers s).step.receipt = .message m :=
  (offer_settled t bot m handlers s).receipt

/-- Every answer handed to the transport in a run, in order. -/
def Run.deliveries {σ ε : Type} (r : Run σ ε) : List Delivery :=
  r.steps.flatMap fun step => step.delivery.toList

namespace Script

variable {ε : Type} {bot : Identity} {handlers : List (Handler ε)}

/-- An offer takes nothing from the script and counts the call to send, if there is one. -/
theorem offer_state (bot : Identity) (m : Message) (handlers : List (Handler ε))
    (rs : List Receipt) (k : Nat) (f : Nat → Option TransportError) :
    (offer transport bot m handlers ⟨rs, k, f⟩).state =
      ⟨rs, k + (offer transport bot m handlers ⟨rs, k, f⟩).step.delivery.toList.length, f⟩ := by
  rw [offer_state_eq]
  cases (offer transport bot m handlers ⟨rs, k, f⟩).step.delivery with
  | none => rfl
  | some d => rfl

/-! ## One receipt at a time -/

theorem run_nil (k : Nat) (f : Nat → Option TransportError) :
    run bot handlers ⟨[], k, f⟩ =
      { steps := [{ receipt := .disconnected, logs := [disconnectedRecord] }]
        ending := .disconnected, state := ⟨[], k, f⟩ } := rfl

theorem run_failed (e : TransportError) (rs : List Receipt) (k : Nat)
    (f : Nat → Option TransportError) :
    run bot handlers ⟨.failed e :: rs, k, f⟩ =
      { steps := [{ receipt := .failed e }], ending := .receiverFailed e
        state := ⟨rs, k, f⟩ } := rfl

theorem run_disconnected (rs : List Receipt) (k : Nat) (f : Nat → Option TransportError) :
    run bot handlers ⟨.disconnected :: rs, k, f⟩ =
      { steps := [{ receipt := .disconnected, logs := [disconnectedRecord] }]
        ending := .disconnected, state := ⟨rs, k, f⟩ } := rfl

theorem receive_message (m : Message) (rs : List Receipt) (k : Nat)
    (f : Nat → Option TransportError) :
    transport.receive ⟨.message m :: rs, k, f⟩ = (.message m, [], ⟨rs, k, f⟩) := rfl

theorem run_message_ended {m : Message} {rs : List Receipt} {k : Nat}
    {f : Nat → Option TransportError} {e : Ending ε}
    (h : (offer transport bot m handlers ⟨rs, k, f⟩).ending = some e) :
    run bot handlers ⟨.message m :: rs, k, f⟩ =
      { steps := [(offer transport bot m handlers ⟨rs, k, f⟩).step], ending := e
        state := (offer transport bot m handlers ⟨rs, k, f⟩).state } := by
  rw [run, Dispatch.run, runFor, receive_message]
  simp only [h, List.nil_append]

/-- A message after which the run goes on, with the rest of the script and the calls to send counted
so far. -/
theorem run_message_continued {m : Message} {rs : List Receipt} {k : Nat}
    {f : Nat → Option TransportError} {o : Offering Script ε}
    (ho : offer transport bot m handlers ⟨rs, k, f⟩ = o) (h : o.ending = none) :
    run bot handlers ⟨.message m :: rs, k, f⟩ =
      { run bot handlers ⟨rs, k + o.step.delivery.toList.length, f⟩ with
        steps := o.step ::
          (run bot handlers ⟨rs, k + o.step.delivery.toList.length, f⟩).steps } := by
  have hstate := offer_state bot m handlers rs k f
  rw [ho] at hstate
  rw [run, Dispatch.run, runFor, receive_message]
  simp only [ho, h, List.nil_append]
  rw [hstate]
  rfl

/-! ## Whole runs -/

/-- The receipts of a run are those of the script, in order, up to where the run ended. -/
theorem run_receipts (rs : List Receipt) (k : Nat) (f : Nat → Option TransportError) :
    (run bot handlers ⟨rs, k, f⟩).steps.map Step.receipt <+: rs ++ [.disconnected] := by
  induction rs generalizing k with
  | nil =>
    rw [run_nil]
    exact List.prefix_rfl
  | cons r rs ih =>
    cases r with
    | failed e =>
      rw [run_failed]
      exact List.prefix_append [Receipt.failed e] _
    | disconnected =>
      rw [run_disconnected]
      exact List.prefix_append [Receipt.disconnected] _
    | message m =>
      have hm := offer_receipt transport bot m handlers ⟨rs, k, f⟩
      cases h : (offer transport bot m handlers ⟨rs, k, f⟩).ending with
      | some e =>
        rw [run_message_ended h, List.map_singleton, hm]
        exact List.prefix_append [Receipt.message m] _
      | none =>
        rw [run_message_continued rfl h, List.map_cons, hm, List.cons_append,
          List.cons_prefix_cons]
        exact ⟨rfl, ih _⟩

theorem run_tried (rs : List Receipt) (k : Nat) (f : Nat → Option TransportError) :
    (run bot handlers ⟨rs, k, f⟩).state.tried =
      k + (run bot handlers ⟨rs, k, f⟩).deliveries.length := by
  induction rs generalizing k with
  | nil => rfl
  | cons r rs ih =>
    cases r with
    | failed e => rfl
    | disconnected => rfl
    | message m =>
      cases h : (offer transport bot m handlers ⟨rs, k, f⟩).ending with
      | some e =>
        rw [run_message_ended h, offer_state]
        simp [Run.deliveries]
      | none =>
        rw [run_message_continued rfl h]
        simp only [Run.deliveries, List.flatMap_cons, List.length_append]
        rw [ih, Run.deliveries, Nat.add_assoc]

theorem run_steps_ne_nil (rs : List Receipt) (k : Nat) (f : Nat → Option TransportError) :
    (run bot handlers ⟨rs, k, f⟩).steps ≠ [] := by
  cases rs with
  | nil => simp [run_nil]
  | cons r rs =>
    cases r with
    | failed e => simp [run_failed]
    | disconnected => simp [run_disconnected]
    | message m =>
      cases h : (offer transport bot m handlers ⟨rs, k, f⟩).ending with
      | some e => simp [run_message_ended h]
      | none => simp [run_message_continued rfl h]

/-- A run that has one step, with no message in it. -/
theorem eq_of_step_singleton {step s : Step} {i : Nat} {m : Message} (hi : [s][i]? = some step)
    (hm : step.receipt = .message m) : s.receipt = .message m := by
  rw [List.getElem?_singleton] at hi
  split at hi
  · rw [Option.some.injEq] at hi
    rw [hi]
    exact hm
  · exact absurd hi (by simp)

/-- **A step with a message is an offer of it**, and the run goes on if and only if the offer did
not end it. -/
theorem run_step {rs : List Receipt} {k : Nat} {f : Nat → Option TransportError} {i : Nat}
    {step : Step} {m : Message} (hi : (run bot handlers ⟨rs, k, f⟩).steps[i]? = some step)
    (hm : step.receipt = .message m) :
    ∃ rs' k', step = (offer transport bot m handlers ⟨rs', k', f⟩).step ∧
      ((offer transport bot m handlers ⟨rs', k', f⟩).ending = none →
        i + 1 < (run bot handlers ⟨rs, k, f⟩).steps.length) ∧
      ∀ e, (offer transport bot m handlers ⟨rs', k', f⟩).ending = some e →
        i + 1 = (run bot handlers ⟨rs, k, f⟩).steps.length ∧
          (run bot handlers ⟨rs, k, f⟩).ending = e := by
  induction rs generalizing k i with
  | nil =>
    rw [run_nil] at hi
    exact absurd (eq_of_step_singleton hi hm) (by simp)
  | cons r rs ih =>
    cases r with
    | failed e =>
      rw [run_failed] at hi
      exact absurd (eq_of_step_singleton hi hm) (by simp)
    | disconnected =>
      rw [run_disconnected] at hi
      exact absurd (eq_of_step_singleton hi hm) (by simp)
    | message m' =>
      have hreceipt := offer_receipt transport bot m' handlers ⟨rs, k, f⟩
      cases h : (offer transport bot m' handlers ⟨rs, k, f⟩).ending with
      | some e =>
        rw [run_message_ended h] at hi ⊢
        have hstep := eq_of_step_singleton hi hm
        rw [hreceipt, Receipt.message.injEq] at hstep
        subst hstep
        cases i with
        -- The offer has ended the run, so there is no second step.
        | succ i => exact absurd hi (by simp)
        | zero =>
          rw [List.getElem?_cons_zero, Option.some.injEq] at hi
          refine ⟨rs, k, hi.symm, fun hn => ?_, fun e' he => ?_⟩
          · rw [h] at hn
            exact absurd hn (by simp)
          · rw [h, Option.some.injEq] at he
            exact ⟨rfl, he⟩
      | none =>
        rw [run_message_continued rfl h] at hi ⊢
        cases i with
        -- The run has gone on from this offer, and even the shortest run has a step.
        | zero =>
          rw [List.getElem?_cons_zero, Option.some.injEq] at hi
          rw [← hi, hreceipt, Receipt.message.injEq] at hm
          subst hm
          refine ⟨rs, k, hi.symm, fun _ => ?_, fun e he => ?_⟩
          · rw [List.length_cons]
            exact Nat.succ_lt_succ (List.length_pos_iff.mpr (run_steps_ne_nil rs _ f))
          · rw [h] at he
            exact absurd he (by simp)
        | succ i =>
          rw [List.getElem?_cons_succ] at hi
          obtain ⟨rs', k', hstep, hnext, hend⟩ := ih hi
          refine ⟨rs', k', hstep, fun hn => ?_, fun e he => ?_⟩
          · rw [List.length_cons]
            exact Nat.succ_lt_succ (hnext hn)
          · rw [List.length_cons]
            exact ⟨congrArg Nat.succ (hend e he).1, (hend e he).2⟩

/-- A run ends with its script, with a failure to receive, or with an offer. -/
theorem run_ending (rs : List Receipt) (k : Nat) (f : Nat → Option TransportError) :
    (run bot handlers ⟨rs, k, f⟩).ending = .disconnected ∨
    (∃ e, (run bot handlers ⟨rs, k, f⟩).ending = .receiverFailed e) ∨
    ∃ step ∈ (run bot handlers ⟨rs, k, f⟩).steps, ∃ m rs' k', step.receipt = .message m ∧
      (offer transport bot m handlers ⟨rs', k', f⟩).ending =
        some (run bot handlers ⟨rs, k, f⟩).ending := by
  induction rs generalizing k with
  | nil => exact Or.inl rfl
  | cons r rs ih =>
    cases r with
    | failed e => exact Or.inr (Or.inl ⟨e, rfl⟩)
    | disconnected => exact Or.inl rfl
    | message m =>
      have hreceipt := offer_receipt transport bot m handlers ⟨rs, k, f⟩
      cases h : (offer transport bot m handlers ⟨rs, k, f⟩).ending with
      | some e =>
        rw [run_message_ended h]
        exact Or.inr (Or.inr ⟨_, List.mem_singleton_self _, m, rs, k, hreceipt, h⟩)
      | none =>
        -- Where the run goes on, the rest of it ends as the run does.
        rw [run_message_continued rfl h]
        rcases ih (k + (offer transport bot m handlers ⟨rs, k, f⟩).step.delivery.toList.length) with
          hd | hf | ⟨step, hstep, m', rs', k', hm', he⟩
        · exact Or.inl hd
        · exact Or.inr (Or.inl hf)
        · exact Or.inr (Or.inr ⟨step, List.mem_cons_of_mem _ hstep, m', rs', k', hm', he⟩)

end Script

end SubstBot.Dispatch
