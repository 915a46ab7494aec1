import SubstBot.Text.ControlSequence

/-!
# `SubstBot/Proofs/Text/ControlSequence.lean` — texts without control sequences

`Unstyled` says of two texts that the second is the first without its control sequences, and does so
without a program that takes them out; `unstyled_iff` connects the two. Dropping the control sequences
of a text takes characters away and puts none in, and leaves the text as it is exactly if there is no
control sequence anywhere in it (`Unstyled.eq_self_iff`).

It does not follow that nothing of the kind is left. From the text `ESC [ ESC [ m m`, whose only
control sequence is the inner one, `ESC [ m` remains.
-/

set_option autoImplicit false

namespace SubstBot.Text

variable {s r q : List Char} {c : Char}

/-- A control sequence: an escape character, an opening bracket, parameters and a letter. -/
inductive ControlSequence : List Char → Prop where
  | mk {ps : List Char} {letter : Char} (hps : ∀ p ∈ ps, isParameter p = true)
      (hletter : letter.isAlpha = true) : ControlSequence ('\x1b' :: '[' :: (ps ++ [letter]))

/-- **A text, and what is left of it without its control sequences**, which are looked for from left to
right. -/
inductive Unstyled : List Char → List Char → Prop where
  | nil : Unstyled [] []
  | keep (c : Char) {s r : List Char} (h : ∀ q, ControlSequence q → ¬ q <+: c :: s)
      (rest : Unstyled s r) : Unstyled (c :: s) (c :: r)
  | drop {q s r : List Char} (hq : ControlSequence q) (rest : Unstyled s r) : Unstyled (q ++ s) r

theorem ControlSequence.exists_getLast? (h : ControlSequence q) :
    ∃ letter, q.getLast? = some letter ∧ letter.isAlpha = true := by
  obtain @⟨ps, letter, hps, hletter⟩ := h
  refine ⟨letter, ?_, hletter⟩
  rw [← List.cons_append, ← List.cons_append]
  exact List.getLast?_concat

/-- The letter is none of the parameters. -/
theorem isParameter_eq_false_of_isAlpha (h : c.isAlpha = true) : isParameter c = false := by
  cases hp : isParameter c with
  | false => rfl
  | true =>
    simp only [isParameter, Bool.or_eq_true, beq_iff_eq] at hp
    rcases hp with (hdigit | rfl) | rfl
    · -- In code order, the digits come before all letters.
      have hupto : c.val ≤ '9'.val := of_decide_eq_true (Bool.and_eq_true_iff.mp hdigit).2
      have hfrom : 'A'.val ≤ c.val := by
        rcases Bool.or_eq_true_iff.mp h with hupper | hlower
        · exact (of_decide_eq_true hupper).1
        · have hsmall : 'a'.val ≤ c.val := of_decide_eq_true (Bool.and_eq_true_iff.mp hlower).1
          exact UInt32.le_trans (by decide) hsmall
      exact absurd (UInt32.le_trans hfrom hupto) (by decide)
    · exact absurd h (by decide)
    · exact absurd h (by decide)

/-! ## At the start of a text -/

theorem afterControl?_eq_some_iff :
    afterControl? s = some r ↔ ∃ q, ControlSequence q ∧ s = q ++ r := by
  constructor
  · intro h
    unfold afterControl? at h
    split at h
    · rename_i s
      have htake : ∀ p ∈ s.takeWhile isParameter, isParameter p = true := by
        intro p hp
        exact List.all_eq_true.mp List.all_takeWhile p hp
      split at h
      · rename_i letter r' hd
        split at h
        · rename_i hletter
          obtain rfl := Option.some.inj h
          refine ⟨_, .mk htake hletter, ?_⟩
          rw [List.cons_append, List.cons_append, List.append_assoc, List.singleton_append, ← hd,
            List.takeWhile_append_dropWhile]
        · exact absurd h (by simp)
      · exact absurd h (by simp)
    · exact absurd h (by simp)
  · rintro ⟨q, @⟨ps, letter, hps, hletter⟩, rfl⟩
    have hstop : isParameter letter = false := isParameter_eq_false_of_isAlpha hletter
    have hdrop : (ps ++ letter :: r).dropWhile isParameter = letter :: r := by
      rw [List.dropWhile_append_of_pos hps, List.dropWhile_cons_of_neg (by simp [hstop])]
    rw [List.cons_append, List.cons_append, List.append_assoc, List.singleton_append]
    simp only [afterControl?, hdrop, hletter, if_true]

theorem afterControl?_eq_none_iff :
    afterControl? s = none ↔ ∀ q, ControlSequence q → ¬ q <+: s := by
  rw [Option.eq_none_iff_forall_ne_some]
  constructor
  · rintro h q hq ⟨r, rfl⟩
    exact h r (afterControl?_eq_some_iff.mpr ⟨q, hq, rfl⟩)
  · intro h r hr
    obtain ⟨q, hq, rfl⟩ := afterControl?_eq_some_iff.mp hr
    exact h q hq (List.prefix_append q r)

/-! ## Along a text -/

theorem dropControls_of_some (h : afterControl? s = some r) : dropControls s = dropControls r := by
  cases s with
  | nil => exact absurd h (by simp [afterControl?])
  | cons c s =>
    rw [dropControls]
    split
    · rename_i h'
      rw [Option.some.inj (h'.symm.trans h)]
    · rename_i h'
      exact absurd (h'.symm.trans h) (by simp)

theorem dropControls_of_none (h : afterControl? (c :: s) = none) :
    dropControls (c :: s) = c :: dropControls s := by
  rw [dropControls]
  split
  · rename_i h'
    exact absurd (h'.symm.trans h) (by simp)
  · rfl

theorem unstyled_dropControls (s : List Char) : Unstyled s (dropControls s) := by
  fun_induction dropControls s with
  | case1 => exact .nil
  | case2 c s r h ih =>
    obtain ⟨q, hq, hs⟩ := afterControl?_eq_some_iff.mp h
    rw [hs]
    exact .drop hq ih
  | case3 c s h ih => exact .keep c (afterControl?_eq_none_iff.mp h) ih

/-- What is left is determined by the text. -/
theorem unstyled_iff : Unstyled s r ↔ dropControls s = r := by
  constructor
  · intro h
    induction h with
    | nil => rw [dropControls]
    | keep c h rest ih => rw [dropControls_of_none (afterControl?_eq_none_iff.mpr h), ih]
    | drop hq rest ih =>
      rw [dropControls_of_some (afterControl?_eq_some_iff.mpr ⟨_, hq, rfl⟩), ih]
  · rintro rfl
    exact unstyled_dropControls s

theorem dropControls_sublist (s : List Char) : (dropControls s).Sublist s := by
  fun_induction dropControls s with
  | case1 => exact List.Sublist.refl []
  | case2 c s r h ih =>
    obtain ⟨q, -, hs⟩ := afterControl?_eq_some_iff.mp h
    rw [hs]
    exact ih.trans (List.sublist_append_right q r)
  | case3 c s h ih => exact ih.cons_cons c

/-- Where there is a control sequence, something is taken away. -/
theorem dropControls_length_lt (hq : ControlSequence q) (hs : q <:+: s) :
    (dropControls s).length < s.length := by
  fun_induction dropControls s with
  | case1 =>
    obtain rfl := List.eq_nil_of_infix_nil hs
    nomatch hq
  | case2 c s r h ih =>
    exact Nat.lt_of_le_of_lt (dropControls_sublist r).length_le (afterControl?_lt h)
  | case3 c s h ih =>
    rcases List.infix_cons_iff.mp hs with hprefix | hrest
    · exact absurd hprefix (afterControl?_eq_none_iff.mp h q hq)
    · exact Nat.succ_lt_succ (ih hrest)

/-- A text without control sequences is what is left of it. -/
theorem unstyled_self (h : ∀ q, ControlSequence q → ¬ q <:+: s) : Unstyled s s := by
  induction s with
  | nil => exact .nil
  | cons c s ih =>
    exact .keep c (fun q hq hp => h q hq hp.isInfix)
      (ih fun q hq hs => h q hq (List.infix_cons hs))

/-- **A text is left as it is if there is no control sequence in it**, and only then. -/
theorem Unstyled.eq_self_iff (h : Unstyled s r) :
    r = s ↔ ∀ q, ControlSequence q → ¬ q <:+: s := by
  have hr := unstyled_iff.mp h
  constructor
  · -- What is taken away is missing, so the two differ in length.
    rintro rfl q hq hs
    have hlt := dropControls_length_lt hq hs
    rw [hr] at hlt
    exact Nat.lt_irrefl _ hlt
  · intro hnone
    rw [← hr, unstyled_iff.mp (unstyled_self hnone)]

/-- What is left can be a control sequence again. -/
example : dropControls ['\x1b', '[', '\x1b', '[', 'm', 'm'] = ['\x1b', '[', 'm'] := by cbv

/-- A character that is no letter ends no control sequence. -/
theorem afterControl?_concat_eq_none (hc : c.isAlpha = false) (h : afterControl? s = none) :
    afterControl? (s ++ [c]) = none := by
  rw [afterControl?_eq_none_iff] at h ⊢
  intro q hq hprefix
  rcases List.prefix_concat_iff.mp hprefix with heq | hs
  · obtain ⟨letter, hlast, hletter⟩ := hq.exists_getLast?
    rw [heq, List.getLast?_concat, Option.some.injEq] at hlast
    rw [← hlast, hc] at hletter
    exact absurd hletter Bool.false_ne_true
  · exact h q hq hs

theorem dropControls_concat (hc : c.isAlpha = false) (s : List Char) :
    dropControls (s ++ [c]) = dropControls s ++ [c] := by
  fun_induction dropControls s with
  | case1 => rw [List.nil_append, dropControls_of_none (by simp [afterControl?]), dropControls]
  | case2 d s r h ih =>
    obtain ⟨q, hq, hs⟩ := afterControl?_eq_some_iff.mp h
    rw [hs, List.append_assoc,
      dropControls_of_some (afterControl?_eq_some_iff.mpr ⟨q, hq, rfl⟩), ih]
  | case3 d s h ih =>
    have hnone := afterControl?_concat_eq_none hc h
    rw [List.cons_append] at hnone ⊢
    rw [dropControls_of_none hnone, ih, List.cons_append]

end SubstBot.Text
