import SubstBot.Rule.Flags

/-!
# `SubstBot/Proofs/Rule/Flags.lean` — which flags a row of letters sets

Reading goes from letter to letter with the flags so far. `has_of_parseFrom` is the invariant of
that walk: what is set at the end is what was set at the start and what some letter stands for.

The flags read so far keep no order: of the letters before, they say only which there were. They are
the `row` of those letters, and so **whether reading goes on at a letter depends on the text in
front of it alone** (`parseFrom_row_cons`). Reading stops at the first letter that is none of a flag
or was there before, and says which of the two it is (`parse_row_or_refusal`).
-/

set_option autoImplicit false

namespace SubstBot.Rule.Flags

@[simp] theorem has_insert (f : Flags) (a b : Flag) :
    (f.insert a).has b = (decide (a = b) || f.has b) := by
  cases a <;> cases b <;> simp [insert, has]

@[simp] theorem has_default (a : Flag) : ({} : Flags).has a = false := by
  cases a <;> rfl

theorem has_of_parseFrom {f f' : Flags} {s : List Char} (h : parseFrom f s = .ok f') (a : Flag) :
    f'.has a = true ↔ f.has a = true ∨ ∃ c ∈ s, Flag.ofLetter? c = some a := by
  induction s generalizing f with
  | nil =>
    rw [parseFrom, Except.ok.injEq] at h
    simp [h]
  | cons c s ih =>
    rw [parseFrom] at h
    cases hc : Flag.ofLetter? c with
    | none => rw [hc] at h; exact absurd h (by simp)
    | some b =>
      rw [hc] at h
      by_cases hb : f.has b = true
      · simp only [hb, if_true] at h
        exact absurd h (by simp)
      · simp only [hb] at h
        rw [ih h, has_insert]
        simp only [Bool.or_eq_true, decide_eq_true_eq, List.mem_cons, exists_eq_or_imp, hc,
          Option.some.injEq]
        rw [or_comm (a := b = a), or_assoc]

theorem has_of_parse {f : Flags} {s : List Char} (h : parse s = .ok f) (a : Flag) :
    f.has a = true ↔ ∃ c ∈ s, Flag.ofLetter? c = some a := by
  rw [has_of_parseFrom h]
  simp

theorem ofLetter?_eq_global_iff (c : Char) : Flag.ofLetter? c = some .global ↔ c = 'g' := by
  unfold Flag.ofLetter?
  repeat' split
  all_goals simp_all

theorem global_of_parse {f : Flags} {s : List Char} (h : parse s = .ok f) :
    f.global = true ↔ 'g' ∈ s := by
  have hg := has_of_parse h .global
  simpa [has, ofLetter?_eq_global_iff] using hg

/-! ## Rows of letters -/

/-- The letters of the flags. -/
def letters : List Char :=
  ['i', 'm', 's', 'U', 'x', 'o', 'g']

/-- The flags whose letters are there. -/
def row (s : List Char) : Flags where
  ignoreCase := decide ('i' ∈ s)
  multiLine := decide ('m' ∈ s)
  dotAll := decide ('s' ∈ s)
  swapped := decide ('U' ∈ s)
  verbose := decide ('x' ∈ s)
  octal := decide ('o' ∈ s)
  global := decide ('g' ∈ s)

/-- The options whose letters are there. -/
def optionRow (s : List Char) : Regex.Options where
  ignoreCase := decide ('i' ∈ s)
  multiLine := decide ('m' ∈ s)
  dotAll := decide ('s' ∈ s)
  verbose := decide ('x' ∈ s)

theorem row_perm {s t : List Char} (h : s.Perm t) : row s = row t := by
  simp only [row, h.mem_iff]

section Letters

variable {c : Char} {a : Flag}

theorem ofLetter?_eq_none_iff : Flag.ofLetter? c = none ↔ c ∉ letters := by
  unfold Flag.ofLetter? letters
  repeat' split
  all_goals simp_all

/-- The flag of a letter is set in a row if and only if the letter is there. -/
theorem has_row (h : Flag.ofLetter? c = some a) (p : List Char) :
    (row p).has a = decide (c ∈ p) := by
  unfold Flag.ofLetter? at h
  repeat' split at h
  all_goals cases h
  all_goals simp_all [has, row]

theorem insert_row (h : Flag.ofLetter? c = some a) (p : List Char) :
    (row p).insert a = row (p ++ [c]) := by
  unfold Flag.ofLetter? at h
  repeat' split at h
  all_goals cases h
  all_goals simp_all [insert, row]

end Letters

/-! ## Where reading stops -/

/-- Letters of flags, each of them once. -/
def Distinct (s : List Char) : Prop :=
  (∀ c ∈ s, c ∈ letters) ∧ s.Nodup

/-- The letter at this position is none of a flag, or stands in front of the position already. -/
def Misplaced (s : List Char) (i : Nat) : Prop :=
  ∃ c, s[i]? = some c ∧ (c ∉ letters ∨ c ∈ s.take i)

/-- What is said of a letter that cannot stand where it does. -/
def refusal (c : Char) : FlagError :=
  if c ∈ letters then .duplicated c else .unrecognized c

/-- How the reading of a row of letters ends. -/
inductive Reading (s : List Char) : Except FlagError Flags → Prop where
  | all (h : Distinct s) : Reading s (.ok (row s))
  | stopped {p r : List Char} {c : Char} (hs : s = p ++ c :: r) (hp : Distinct p)
      (hc : c ∉ letters ∨ c ∈ p) : Reading s (.error (refusal c))

theorem distinct_concat {p : List Char} {c : Char} :
    Distinct (p ++ [c]) ↔ Distinct p ∧ ¬ (c ∉ letters ∨ c ∈ p) := by
  simp only [Distinct, List.nodup_append, List.mem_append, List.mem_singleton]
  grind

/-- **One letter of the walk.** -/
theorem parseFrom_row_cons (p : List Char) (c : Char) (r : List Char) :
    parseFrom (row p) (c :: r) =
      if c ∉ letters ∨ c ∈ p then .error (refusal c) else parseFrom (row (p ++ [c])) r := by
  rw [parseFrom]
  cases hc : Flag.ofLetter? c with
  | none =>
    have hunknown := ofLetter?_eq_none_iff.mp hc
    rw [if_pos (Or.inl hunknown), refusal, if_neg hunknown]
  | some a =>
    have hknown : c ∈ letters := by
      refine Classical.byContradiction fun h => ?_
      rw [ofLetter?_eq_none_iff.mpr h] at hc
      exact absurd hc (by simp)
    simp only [has_row hc, insert_row hc, decide_eq_true_eq, hknown, not_true_eq_false, false_or,
      refusal, if_true]

theorem reading_parseFrom {p : List Char} (hp : Distinct p) (r : List Char) :
    Reading (p ++ r) (parseFrom (row p) r) := by
  induction r generalizing p with
  | nil =>
    rw [parseFrom, List.append_nil]
    exact .all hp
  | cons c r ih =>
    rw [parseFrom_row_cons]
    by_cases hc : c ∉ letters ∨ c ∈ p
    · rw [if_pos hc]
      exact .stopped rfl hp hc
    · rw [if_neg hc, List.append_cons]
      exact ih (distinct_concat.mpr ⟨hp, hc⟩)

theorem reading_parse (s : List Char) : Reading s (parse s) :=
  reading_parseFrom (p := []) ⟨by simp, List.nodup_nil⟩ s

/-- In front of a position, all letters can stand where they do if and only if they are letters of
flags and no two are the same. -/
theorem distinct_take_iff {s : List Char} {i : Nat} :
    Distinct (s.take i) ↔ ∀ j < i, ¬ Misplaced s j := by
  induction i with
  | zero => simp [Distinct]
  | succ i ih =>
    rw [Nat.forall_lt_succ_right, ← ih, List.take_add_one]
    cases hc : s[i]? with
    | none => simp [Misplaced, hc]
    | some c => simp [distinct_concat, Misplaced, hc]

theorem Distinct.not_misplaced {s : List Char} (h : Distinct s) (i : Nat) : ¬ Misplaced s i := by
  rw [← List.take_length (l := s), distinct_take_iff] at h
  intro hi
  by_cases hlt : i < s.length
  · exact h i hlt hi
  · obtain ⟨c, hc, -⟩ := hi
    rw [List.getElem?_eq_none (Nat.le_of_not_lt hlt)] at hc
    exact absurd hc (by simp)

/-- The first position whose letter cannot stand there. -/
structure FirstMisplaced (s : List Char) (i : Nat) (c : Char) : Prop where
  letter : s[i]? = some c
  misplaced : Misplaced s i
  first : ∀ j < i, ¬ Misplaced s j

theorem FirstMisplaced.unique {s : List Char} {i j : Nat} {c d : Char}
    (h : FirstMisplaced s i c) (h' : FirstMisplaced s j d) : c = d := by
  rcases Nat.lt_trichotomy i j with hlt | rfl | hlt
  · exact absurd h.misplaced (h'.first i hlt)
  · exact Option.some.inj (h.letter.symm.trans h'.letter)
  · exact absurd h'.misplaced (h.first j hlt)

theorem firstMisplaced_of_stopped {p : List Char} {c : Char} (hp : Distinct p)
    (hc : c ∉ letters ∨ c ∈ p) (r : List Char) : FirstMisplaced (p ++ c :: r) p.length c where
  letter := by simp
  misplaced := ⟨c, by simp, by rwa [List.take_left]⟩
  first := by rwa [← distinct_take_iff, List.take_left]

theorem parse_eq_ok_iff {s : List Char} {f : Flags} :
    parse s = .ok f ↔ Distinct s ∧ f = row s := by
  have hread := reading_parse s
  generalize parse s = x at hread
  cases hread with
  | all h =>
    rw [Except.ok.injEq]
    exact ⟨fun hf => ⟨h, hf.symm⟩, fun hf => hf.2.symm⟩
  | @stopped p r c hs hp hc =>
    subst hs
    refine ⟨fun hf => absurd hf (by simp), fun hf => ?_⟩
    exact absurd (firstMisplaced_of_stopped hp hc r).misplaced (hf.1.not_misplaced _)

theorem parse_eq_error_iff {s : List Char} {e : FlagError} :
    parse s = .error e ↔ ∃ i c, FirstMisplaced s i c ∧ e = refusal c := by
  have hread := reading_parse s
  generalize parse s = x at hread
  cases hread with
  | all h =>
    refine ⟨fun hf => absurd hf (by simp), fun hf => ?_⟩
    obtain ⟨i, c, hc, -⟩ := hf
    exact absurd hc.misplaced (h.not_misplaced i)
  | @stopped p r c hs hp hc =>
    subst hs
    have hfirst := firstMisplaced_of_stopped hp hc r
    constructor
    · intro he
      exact ⟨_, _, hfirst, (Except.error.inj he).symm⟩
    · rintro ⟨i, d, hd, rfl⟩
      rw [hfirst.unique hd]

theorem options_row (s : List Char) : (row s).options = optionRow s :=
  rfl

/-- **What a row of letters is read as.** It is accepted if and only if all its letters are letters
of flags and no two are the same; the flags set, and the options given to the engine, are then those
whose letters are there, in whatever order. Otherwise it is refused for the first letter that is
none of a flag, or was there before. -/
theorem parse_row_or_refusal (s : List Char) :
    (∀ f, parse s = .ok f ↔ ((∀ c ∈ s, c ∈ letters) ∧ s.Nodup) ∧ f = row s) ∧
      (∀ f, parse s = .ok f → f.options = optionRow s ∧ ∀ t, t.Perm s → parse t = .ok f) ∧
      (∀ e, parse s = .error e ↔ ∃ i c, FirstMisplaced s i c ∧ e = refusal c) := by
  refine ⟨fun f => parse_eq_ok_iff, fun f hf => ?_, fun e => parse_eq_error_iff⟩
  obtain ⟨⟨hletters, hnodup⟩, rfl⟩ := parse_eq_ok_iff.mp hf
  refine ⟨options_row s, fun t ht => ?_⟩
  have hdistinct : Distinct t :=
    ⟨fun c hc => hletters c (ht.mem_iff.mp hc), ht.nodup_iff.mpr hnodup⟩
  exact parse_eq_ok_iff.mpr ⟨hdistinct, row_perm ht.symm⟩

end SubstBot.Rule.Flags
