import SubstBot.Backtracking.Matcher

/-!
# `SubstBot/Proofs/Backtracking/Matching.lean` — where matching leads

Matching calls what comes next with each way through a pattern that it tries, and it gives what that
call gives. So whatever it gives was given **for some way**, and `run_reaches` says what every way
has in common: it goes on in the direction of the match and stays in the text.

The induction is on the pattern. A repetition is not a part of its own pattern, so `rounds_reaches`
goes by the bound on its rounds, for any body whose ways are as they should be.
-/

set_option autoImplicit false

namespace SubstBot.Backtracking.Matcher

open Regex (Span)

/-- **What a way through a pattern does**, forwards or backwards, from `r` to `r'`. -/
structure Reaches (s : Subject) (backwards : Bool) (r r' : Reached) : Prop where
  direction : if backwards then r'.place ≤ r.place else r.place ≤ r'.place
  inside : r.place ≤ s.text.size → r'.place ≤ s.text.size

variable {s : Subject} {backwards : Bool} {r r' r'' out : Reached} {k : Continue}

/-- A way that does not move, whatever groups it holds in the end. -/
theorem Reaches.stay (h : r'.place = r.place) : Reaches s backwards r r' := by
  constructor
  · split <;> exact Nat.le_of_eq (by rw [h])
  · intro hr
    rwa [h]

theorem Reaches.trans (h : Reaches s backwards r r') (h' : Reaches s backwards r' r'') :
    Reaches s backwards r r'' := by
  refine ⟨?_, fun hr => h'.inside (h.inside hr)⟩
  have hfirst := h.direction
  have hsecond := h'.direction
  cases backwards with
  | false => exact Nat.le_trans hfirst hsecond
  | true => exact Nat.le_trans hsecond hfirst

/-- Matching tries ways that are as they should be: what it gives is what comes next gives for one
of them. -/
def Leads (s : Subject) (backwards : Bool) (body : Reached → Continue → Option Reached) : Prop :=
  ∀ r k out, body r k = some out → ∃ r', Reaches s backwards r r' ∧ k r' = some out

/-! ## One character, one group -/

theorem step?_reaches {c : Char} {place : Nat}
    (h : step? s.text backwards r.place = some (c, place)) :
    Reaches s backwards r { r with place } := by
  unfold step? at h
  cases backwards with
  | true =>
    rw [if_pos rfl] at h
    split at h
    · exact absurd h (by simp)
    · obtain ⟨d, -, hd⟩ := Option.map_eq_some_iff.mp h
      obtain ⟨-, rfl⟩ := Prod.mk.inj hd
      exact ⟨Nat.sub_le _ _, fun hr => Nat.le_trans (Nat.sub_le _ _) hr⟩
  | false =>
    rw [if_neg Bool.false_ne_true] at h
    obtain ⟨d, hchar, hd⟩ := Option.map_eq_some_iff.mp h
    obtain ⟨-, rfl⟩ := Prod.mk.inj hd
    obtain ⟨hlt, -⟩ := Array.getElem?_eq_some_iff.mp hchar
    exact ⟨Nat.le_succ _, fun _ => hlt⟩

theorem sameText_inside {ignoreCase : Bool} {length i j : Nat}
    (h : sameText s.text ignoreCase length i j = true) (hj : j ≤ s.text.size) :
    j + length ≤ s.text.size := by
  induction length generalizing i j with
  | zero => exact hj
  | succ length ih =>
    unfold sameText at h
    split at h
    · rename_i hb
      obtain ⟨hlt, -⟩ := Array.getElem?_eq_some_iff.mp hb
      rw [Bool.and_eq_true] at h
      have hrest := ih h.2 hlt
      omega
    · exact absurd h Bool.false_ne_true

theorem repeatText?_reaches {ignoreCase : Bool} {span : Span} {place : Nat}
    (h : repeatText? s.text backwards ignoreCase span r.place = some place) :
    Reaches s backwards r { r with place } := by
  unfold repeatText? at h
  cases backwards with
  | true =>
    rw [if_pos rfl] at h
    split at h
    · obtain rfl := Option.some.inj h
      exact ⟨Nat.sub_le _ _, fun hr => Nat.le_trans (Nat.sub_le _ _) hr⟩
    · exact absurd h (by simp)
  | false =>
    rw [if_neg Bool.false_ne_true] at h
    split at h
    · rename_i hsame
      obtain rfl := Option.some.inj h
      exact ⟨Nat.le_add_right _ _, sameText_inside hsame⟩
    · exact absurd h (by simp)

/-! ## Repetition -/

/-- What comes of two ways is what comes of the one or of the other. -/
theorem eq_some_of_orElse {first : Option Reached} {second : Unit → Option Reached}
    (h : first.orElse second = some out) : first = some out ∨ second () = some out := by
  cases first with
  | none => exact Or.inr h
  | some r => exact Or.inl h

theorem rounds_reaches {body : Reached → Continue → Option Reached}
    (hbody : Leads s backwards body) {greedy : Bool} {least : Nat} {most : Option Nat}
    {bound count : Nat} (h : rounds s body greedy least most k bound count r = some out) :
    ∃ r', Reaches s backwards r r' ∧ k r' = some out := by
  induction bound generalizing count r with
  | zero => exact absurd h (by simp [rounds])
  | succ bound ih =>
    -- Whatever decides between them, there is another round or there is none.
    have hanother : (if most.any (· ≤ count) then none
        else body r fun r' =>
          if s.idle r r' then k r'
          else rounds s body greedy least most k bound (count + 1) r') = some out →
        ∃ r', Reaches s backwards r r' ∧ k r' = some out := by
      intro hround
      split at hround
      · exact absurd hround (by simp)
      · obtain ⟨r₁, hr₁, hnext⟩ := hbody _ _ _ hround
        split at hnext
        · exact ⟨r₁, hr₁, hnext⟩
        · obtain ⟨r₂, hr₂, hk⟩ := ih hnext
          exact ⟨r₂, hr₁.trans hr₂, hk⟩
    have hhere : k r = some out → ∃ r', Reaches s backwards r r' ∧ k r' = some out :=
      fun hk => ⟨r, .stay rfl, hk⟩
    rw [rounds] at h
    dsimp only at h
    split at h
    · exact hanother h
    · split at h
      · rcases eq_some_of_orElse h with hround | hk
        · exact hanother hround
        · exact hhere hk
      · rcases eq_some_of_orElse h with hk | hround
        · exact hhere hk
        · exact hanother hround

/-- What is matched for itself, and then what comes next. -/
theorem bind_reaches {body : Reached → Continue → Option Reached}
    (hbody : Leads s backwards body) (h : (body r some).bind k = some out) :
    ∃ r', Reaches s backwards r r' ∧ k r' = some out := by
  obtain ⟨r₁, hfirst, hk⟩ := Option.bind_eq_some_iff.mp h
  obtain ⟨r₂, hr₂, he⟩ := hbody _ _ _ hfirst
  obtain rfl := Option.some.inj he
  exact ⟨r₂, hr₂, hk⟩

/-! ## Every pattern -/

/-- **Whatever matching gives is what comes next gives for some way through the pattern.** -/
theorem run_reaches (s : Subject) (node : Node Nat) (backwards : Bool) :
    Leads s backwards (run s node backwards) := by
  induction node generalizing backwards with
  | empty => exact fun r k out h => ⟨r, .stay rfl, h⟩
  | char set =>
    intro r k out h
    rw [run] at h
    split at h
    · rename_i hstep
      split at h
      · exact ⟨_, step?_reaches hstep, h⟩
      · exact absurd h (by simp)
    · exact absurd h (by simp)
  | anchor a =>
    intro r k out h
    rw [run] at h
    split at h
    · exact ⟨r, .stay rfl, h⟩
    · exact absurd h (by simp)
  | seq a b iha ihb =>
    intro r k out h
    rw [run] at h
    split at h
    · obtain ⟨r₁, hr₁, h₁⟩ := ihb backwards _ _ _ h
      obtain ⟨r₂, hr₂, h₂⟩ := iha backwards _ _ _ h₁
      exact ⟨r₂, hr₁.trans hr₂, h₂⟩
    · obtain ⟨r₁, hr₁, h₁⟩ := iha backwards _ _ _ h
      obtain ⟨r₂, hr₂, h₂⟩ := ihb backwards _ _ _ h₁
      exact ⟨r₂, hr₁.trans hr₂, h₂⟩
  | alt a b iha ihb =>
    intro r k out h
    rw [run] at h
    rcases eq_some_of_orElse h with ha | hb
    · exact iha backwards _ _ _ ha
    · exact ihb backwards _ _ _ hb
  | group n body ih =>
    intro r k out h
    rw [run] at h
    obtain ⟨r₁, hr₁, hk⟩ := ih backwards _ _ _ h
    refine ⟨_, ?_, hk⟩
    exact hr₁.trans (.stay rfl)
  | rep greed least most body ih =>
    intro r k out h
    have hrounds : ∀ (greedy : Bool) (r : Reached) (k : Continue) (out : Reached),
        rounds s (fun r k => run s body backwards r k) greedy least most k s.roundLimit 0 r =
          some out → ∃ r', Reaches s backwards r r' ∧ k r' = some out :=
      fun greedy r k out => rounds_reaches (ih backwards)
    cases greed with
    | possessive =>
      rw [run] at h
      exact bind_reaches (hrounds true) h
    | greedy =>
      rw [run] at h
      · exact hrounds _ _ _ _ h
      · simp
    | minimal =>
      rw [run] at h
      · exact hrounds _ _ _ _ h
      · simp
  | atomic body ih =>
    intro r k out h
    rw [run] at h
    exact bind_reaches (ih backwards) h
  | look behind positive body ih =>
    intro r k out h
    rw [run] at h
    split at h
    · split at h
      · -- Looking along a way moves nowhere.
        refine ⟨_, ?_, h⟩
        exact .stay rfl
      · exact absurd h (by simp)
    · split at h
      · exact absurd h (by simp)
      · exact ⟨r, .stay rfl, h⟩
  | backref n ignoreCase =>
    intro r k out h
    rw [run] at h
    split at h
    · exact absurd h (by simp)
    · split at h
      · rename_i hrepeat
        exact ⟨_, repeatText?_reaches hrepeat, h⟩
      · exact absurd h (by simp)
  | cond n yes no ihyes ihno =>
    intro r k out h
    rw [run] at h
    split at h
    · exact ihyes backwards _ _ _ h
    · exact ihno backwards _ _ _ h

end SubstBot.Backtracking.Matcher
