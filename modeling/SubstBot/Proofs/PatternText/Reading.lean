import SubstBot.Proofs.PatternText.Toggle

/-!
# `SubstBot/Proofs/PatternText/Reading.lean` — what an arbitrary text is read as

The swap is given any text that a user writes, and most of them are no patterns: classes and
comments that never end, a backslash with nothing behind it, quantifiers on quantifiers. `Reads`
says what such a text is made of, one rule for each piece, and without the scan. A class is a
`CharClass`, ignored text is what `Ignored` writes down, and a quantifier is one by its characters;
what is none of these stands for itself. **Every text has exactly one reading, and it is the one
that the scan finds** (`reads_iff`).

A rule has to look at what follows its piece in a few places only. Ignored text goes on as long as
it can. A quantifier takes the mark that follows it, and is greedy if there is none. A class or a
comment that is never closed takes the rest of the text, so its rule has no rest.

Every piece takes something of the text (`next_lt`), whatever the text is, so the scan always ends.
-/

set_option autoImplicit false

namespace SubstBot.PatternText

open Greed

variable {v : Bool}

/-! ## Counts -/

/-- What can stand between the braces of a quantifier: a number, or two with a comma between, of
which one may be missing. -/
inductive Count (digit : Char → Bool) : List Char → Prop where
  | exactly {m : List Char} (ne : m ≠ []) (hm : ∀ c ∈ m, digit c = true) : Count digit m
  | range {m n : List Char} (ne : m ≠ [] ∨ n ≠ []) (hm : ∀ c ∈ m, digit c = true)
      (hn : ∀ c ∈ n, digit c = true) : Count digit (m ++ ',' :: n)

/-- The characters of a quantifier, without its mark. -/
inductive Quantifies : List Char → Prop where
  | star : Quantifies ['*']
  | plus : Quantifies ['+']
  | optional : Quantifies ['?']
  | braces {w : List Char} (h : Count Text.isDecimalDigit w) :
      Quantifies ('\x7b' :: (w ++ ['\x7d']))

theorem Count.braces? {w : List Char} (h : Count Text.isDecimalDigit w) (r : List Char) :
    braces? (w ++ '\x7d' :: r) = some (w ++ ['\x7d'], r) := by
  have hclose : Text.isDecimalDigit '\x7d' = false := rfl
  have hcomma : Text.isDecimalDigit ',' = false := rfl
  cases h with
  | exactly ne hm => rw [braces?_close (digits_append_of_stop hm hclose r), if_neg ne]
  | @range m n ne hm hn =>
    have hleast := digits_append_of_stop hm hcomma (n ++ '\x7d' :: r)
    have hmost := digits_append_of_stop hn hclose r
    rw [List.append_assoc, List.cons_append, braces?_comma hleast hmost,
      if_neg fun h => ne.elim (fun hne => hne h.1) fun hne => hne h.2]

theorem exists_count {s m r : List Char} (h : braces? s = some (m, r)) :
    ∃ w, Count Text.isDecimalDigit w ∧ m = w ++ ['\x7d'] ∧ s = w ++ '\x7d' :: r := by
  have htext := braces?_text h
  unfold Greed.braces? at h
  split at h
  · rename_i least r' hds
    split at h
    · exact absurd h (by simp)
    · rename_i hne
      simp only [Option.some.injEq, Prod.mk.injEq] at h
      obtain ⟨rfl, rfl⟩ := h
      exact ⟨least, .exactly hne (isDecimalDigit_of_digits hds), rfl, by simpa using htext.symm⟩
  · rename_i least r' hds
    split at h
    · rename_i most r'' hds'
      split at h
      · exact absurd h (by simp)
      · rename_i hne
        simp only [Option.some.injEq, Prod.mk.injEq] at h
        obtain ⟨rfl, rfl⟩ := h
        have hne' : least ≠ [] ∨ most ≠ [] := by
          by_cases hl : least = []
          · exact Or.inr fun hm => hne ⟨hl, hm⟩
          · exact Or.inl hl
        exact ⟨least ++ ',' :: most, .range hne' (isDecimalDigit_of_digits hds)
          (isDecimalDigit_of_digits hds'), rfl, by simpa using htext.symm⟩
    · exact absurd h (by simp)
  · exact absurd h (by simp)

theorem braces?_eq_none_iff {s : List Char} :
    braces? s = none ↔ ∀ w r, Count Text.isDecimalDigit w → s ≠ w ++ '\x7d' :: r := by
  constructor
  · rintro h w r hw rfl
    rw [hw.braces?] at h
    exact absurd h (by simp)
  · intro h
    cases hs : braces? s with
    | none => rfl
    | some p =>
      obtain ⟨w, hw, -, htext⟩ := exists_count hs
      exact absurd htext (h w _ hw)

theorem Quantifies.quantifier? {q : List Char} (h : Quantifies q) (r : List Char) :
    quantifier? (q ++ r) = some (q, r) := by
  cases h with
  | star | plus | optional => rfl
  | @braces w hw =>
    have hbraces := hw.braces? r
    rw [List.cons_append, List.append_assoc, List.singleton_append, quantifier?_brace, hbraces]
    rfl

theorem quantifies_of_quantifier? {s q r : List Char} (h : quantifier? s = some (q, r)) :
    Quantifies q ∧ s = q ++ r := by
  refine ⟨?_, (quantifier?_text h).1.symm⟩
  cases s with
  | nil => exact absurd h (by simp [Greed.quantifier?])
  | cons c s =>
    rcases quantifier?_head (by rw [h]; simp) with rfl | rfl | rfl | rfl
    · obtain ⟨rfl, -⟩ := Prod.mk.inj (Option.some.inj h)
      exact .star
    · obtain ⟨rfl, -⟩ := Prod.mk.inj (Option.some.inj h)
      exact .plus
    · obtain ⟨rfl, -⟩ := Prod.mk.inj (Option.some.inj h)
      exact .optional
    · rw [quantifier?_brace, Option.map_eq_some_iff] at h
      obtain ⟨⟨m, rest⟩, hb, he⟩ := h
      obtain ⟨rfl, -⟩ := Prod.mk.inj he
      obtain ⟨w, hw, rfl, -⟩ := exists_count hb
      exact .braces hw

/-! ## Ignored text -/

/-- A comment that the end of the text cuts off. -/
inductive Unended (v : Bool) : List Char → Prop where
  | comment {body : List Char} (h : ')' ∉ body) : Unended v ('(' :: '?' :: '#' :: body)
  | line {body : List Char} (free : v = true) (h : '\n' ∉ body) : Unended v ('#' :: body)

/-- A text that does not begin with ignored text. -/
structure NotIgnored (v : Bool) (s : List Char) : Prop where
  not_ended : ∀ (i : Ignored v) r, s ≠ i.text ++ r
  not_unended : ¬ Unended v s

/-- A text that does not mark the quantifier in front of it. -/
def Unmarked (v : Bool) (s : List Char) : Prop :=
  ∀ (gap : List (Ignored v)) c r, s = gapText gap ++ c :: r → c ≠ '?' ∧ c ≠ '+'

theorem Ignored.text_ne_nil (i : Ignored v) : i.text ≠ [] := by
  cases i <;> simp [Ignored.text]

theorem Unended.ignoredLength {s : List Char} (h : Unended v s) :
    ignoredLength v .nothing s = s.length := by
  cases h with
  | @comment body h =>
    have hbody : Greed.ignoredLength v .parentheses (body ++ []) =
        Greed.ignoredLength v .parentheses [] + body.length :=
      ignoredLength_inside_append (by simp) h []
    rw [List.append_nil, Greed.ignoredLength, Nat.zero_add] at hbody
    rw [Greed.ignoredLength, hbody]
    rfl
  | line free h =>
    subst free
    rw [ignoredLength_nothing (by simp), ignoredLength_lastLine h]
    rfl

theorem Unended.ignored {s : List Char} (h : Unended v s) : ignored v s = (s, []) := by
  rw [Greed.ignored, h.ignoredLength, List.take_length, List.drop_length]

/-- What is ignored first. -/
theorem ignored_first {s : List Char} (h : ignoredLength v .nothing s ≠ 0) :
    (∃ (i : Ignored v) (r : List Char), s = i.text ++ r) ∨ Unended v s := by
  rcases s with _ | ⟨c, r⟩
  · exact absurd rfl h
  by_cases hcomment : c = '(' ∧ ∃ r', r = '?' :: '#' :: r'
  · obtain ⟨rfl, r', rfl⟩ := hcomment
    by_cases hclose : ')' ∈ r'
    · obtain ⟨body, rest, rfl, hbody⟩ := List.eq_append_cons_of_mem hclose
      exact Or.inl ⟨.comment body hbody, rest, by simp [Ignored.text]⟩
    · exact Or.inr (.comment hclose)
  have hopen : c = '(' → ∀ r', r ≠ '?' :: '#' :: r' := by
    rintro hp r' rfl
    exact hcomment ⟨hp, r', rfl⟩
  rw [ignoredLength_nothing hopen] at h
  cases v with
  | false => exact absurd rfl h
  | true =>
    cases hb : Text.isBlank c with
    | true => exact Or.inl ⟨.blank c rfl hb, r, rfl⟩
    | false =>
      by_cases hline : c = '#'
      · subst hline
        by_cases hend : '\n' ∈ r
        · obtain ⟨body, rest, rfl, hbody⟩ := List.eq_append_cons_of_mem hend
          exact Or.inl ⟨.line body rfl hbody, rest, by simp [Ignored.text]⟩
        · exact Or.inr (.line rfl hend)
      · exact absurd (by simp [hb, hline]) h

theorem notIgnored_iff {s : List Char} :
    NotIgnored v s ↔ ignoredLength v .nothing s = 0 := by
  constructor
  · intro h
    refine Classical.byContradiction fun hne => ?_
    rcases ignored_first hne with ⟨i, r, hs⟩ | hs
    · exact h.not_ended i r hs
    · exact h.not_unended hs
  · intro h
    refine ⟨fun i r hs => ?_, fun hs => ?_⟩
    · have hpos := List.length_pos_iff.mpr i.text_ne_nil
      rw [hs, i.skips r] at h
      omega
    · rw [hs.ignoredLength, List.length_eq_zero_iff] at h
      subst h
      cases hs

/-- **Ignored text is cut to its end**: some comments and blanks with nothing ignored behind them,
or all of the text, if the last comment does not end. -/
theorem ignored_cases (v : Bool) (s : List Char) :
    (∃ (gap : List (Ignored v)) (r : List Char), s = gapText gap ++ r ∧ NotIgnored v r ∧
      ignored v s = (gapText gap, r)) ∨
    ∃ (gap : List (Ignored v)) (i : List Char), s = gapText gap ++ i ∧ Unended v i ∧
      ignored v s = (s, []) := by
  induction hn : s.length using Nat.strongRecOn generalizing s with
  | ind n ih =>
    subst hn
    by_cases h : ignoredLength v .nothing s = 0
    · exact Or.inl ⟨[], s, rfl, notIgnored_iff.mpr h, ignored_of_length_zero h⟩
    rcases ignored_first h with ⟨i, r, rfl⟩ | hs
    · have hlt : r.length < (i.text ++ r).length := by
        have hpos := List.length_pos_iff.mpr i.text_ne_nil
        rw [List.length_append]
        omega
      have hstep := ignored_skips i.skips r
      rcases ih _ hlt r rfl with ⟨gap, rest, rfl, hrest, hr⟩ | ⟨gap, j, rfl, hj, hr⟩
      · refine Or.inl ⟨i :: gap, rest, by simp [gapText], hrest, ?_⟩
        rw [hstep, hr]
        rfl
      · refine Or.inr ⟨i :: gap, j, by simp [gapText], hj, ?_⟩
        rw [hstep, hr]
    · exact Or.inr ⟨[], s, rfl, hs, hs.ignored⟩

theorem ignored_gapText {r : List Char} (h : NotIgnored v r) (gap : List (Ignored v)) :
    ignored v (gapText gap ++ r) = (gapText gap, r) := by
  rw [ignored_skips (skips_gapText gap), ignored_of_length_zero (notIgnored_iff.mp h),
    List.append_nil]

theorem ignored_unended {i : List Char} (h : Unended v i) (gap : List (Ignored v)) :
    ignored v (gapText gap ++ i) = (gapText gap ++ i, []) := by
  rw [ignored_skips (skips_gapText gap), h.ignored]

theorem noMark_iff {s : List Char} : NoMark v s ↔ Unmarked v s := by
  constructor
  · intro h gap c r hs
    have hmark : ∀ d, d = '?' ∨ d = '+' → c ≠ d := by
      rintro d hd rfl
      have hcut := ignored_skips_mark (skips_gapText gap) hd r
      rw [← hs] at hcut
      have hne := h c r (by rw [hcut])
      exact hd.elim hne.1 hne.2
    exact ⟨hmark _ (Or.inl rfl), hmark _ (Or.inr rfl)⟩
  · intro h c r hr
    rcases ignored_cases v s with ⟨gap, rest, hs, -, hcut⟩ | ⟨gap, i, -, -, hcut⟩
    · rw [hcut] at hr
      exact h gap c r (hs.trans (congrArg (gapText gap ++ ·) hr))
    · rw [hcut] at hr
      exact absurd hr (by simp)

/-! ## Classes -/

/-- Members of a class up to the bracket that closes it, if there is one. -/
theorem classMembers_cases (s : List Char) :
    (∃ (ms : List ClassMember) (r : List Char), s = ms.flatMap ClassMember.text ++ ']' :: r) ∨
      classMembers s = (s, []) := by
  fun_induction classMembers s with
  | case1 => exact Or.inr rfl
  | case2 c r m rest hm ih =>
    rcases ih with ⟨ms, r', rfl⟩ | ih
    · exact Or.inl ⟨.pair c :: ms, r', rfl⟩
    · obtain ⟨rfl, rfl⟩ := Prod.mk.inj (hm.symm.trans ih)
      exact Or.inr rfl
  | case3 r _ => exact Or.inl ⟨[], r, rfl⟩
  | case4 c r hpair hc m rest hm ih =>
    rcases ih with ⟨ms, r', rfl⟩ | ih
    · -- A backslash with something behind it would have been a pair.
      have hplain : c ≠ ']' ∧ c ≠ '\\' := by
        refine ⟨hc, fun hb => ?_⟩
        obtain ⟨d, t, ht⟩ := List.exists_cons_of_ne_nil
          (List.append_ne_nil_of_right_ne_nil (ms.flatMap ClassMember.text)
            (List.cons_ne_nil ']' r'))
        exact hpair d t hb ht
      exact Or.inl ⟨.char c hplain :: ms, r', rfl⟩
    · obtain ⟨rfl, rfl⟩ := Prod.mk.inj (hm.symm.trans ih)
      exact Or.inr rfl

/-- A character in front is taken if it is there. -/
theorem leading_cases (d : Char) (s : List Char) :
    ∃ (found : Bool) (r : List Char), s = (if found then [d] else []) ++ r ∧
      leading d s = (if found then [d] else [], r) ∧ (found = false → ∀ r', r ≠ d :: r') := by
  cases s with
  | nil => exact ⟨false, [], rfl, rfl, fun _ r' h => absurd h (by simp)⟩
  | cons c r =>
    by_cases hc : c = d
    · subst hc
      exact ⟨true, r, rfl, leading_self c r, fun h => absurd h (by simp)⟩
    · exact ⟨false, c :: r, rfl, leading_of_ne hc r, fun _ r' h => hc (List.cons.inj h).1⟩

/-- **A class is closed, or takes the rest of the text.** -/
theorem classBody_cases (s : List Char) :
    (∃ (k : CharClass) (r : List Char), s = k.body ++ r) ∨ classBody s = (s, []) := by
  obtain ⟨caret, s₁, hs, hcaret, hfirst⟩ := leading_cases '^' s
  obtain ⟨bracket, s₂, hs₁, hbracket, hsecond⟩ := leading_cases ']' s₁
  rcases classMembers_cases s₂ with ⟨ms, r, hs₂⟩ | hm
  · left
    have nonempty : bracket = true ∨ ms ≠ [] := by
      cases bracket with
      | true => exact Or.inl rfl
      | false =>
        refine Or.inr fun hms => hsecond rfl r ?_
        rw [hs₂, hms]
        rfl
    have noCaret : caret = false → bracket = false → ∀ h, ms.head? ≠ some (.char '^' h) := by
      rintro hc rfl h hms
      obtain ⟨ms, rfl⟩ := List.head?_eq_some_iff.mp hms
      refine hfirst hc (ms.flatMap ClassMember.text ++ ']' :: r) ?_
      rw [hs₁, hs₂]
      rfl
    refine ⟨⟨caret, bracket, ms, nonempty, noCaret⟩, r, ?_⟩
    rw [hs, hs₁, hs₂]
    simp [CharClass.body]
  · right
    simp only [classBody, hcaret, hbracket, hm, List.append_assoc, ← hs₁, ← hs]

theorem classBody_open {s : List Char} (h : ∀ (k : CharClass) r, s ≠ k.body ++ r) :
    classBody s = (s, []) := by
  rcases classBody_cases s with ⟨k, r, hs⟩ | hall
  · exact absurd hs (h k r)
  · exact hall

/-! ## Readings -/

/-- What a text is made of, from left to right. -/
inductive Reads (v : Bool) : List Char → List Piece → Prop where
  | nil : Reads v [] []
  | pair {c : Char} {r : List Char} {ps : List Piece} (h : Reads v r ps) :
      Reads v ('\\' :: c :: r) (.pair c :: ps)
  | hanging : Reads v ['\\'] [.hanging]
  | ignored {gap : List (Ignored v)} {r : List Char} {ps : List Piece} (ne : gap ≠ [])
      (hr : NotIgnored v r) (h : Reads v r ps) :
      Reads v (gapText gap ++ r) (.ignored (gapText gap) :: ps)
  | unended {gap : List (Ignored v)} {i : List Char} (hi : Unended v i) :
      Reads v (gapText gap ++ i) [.ignored (gapText gap ++ i)]
  | charClass (k : CharClass) {r : List Char} {ps : List Piece} (h : Reads v r ps) :
      Reads v ('[' :: (k.body ++ r)) (.charClass k.body :: ps)
  | openClass {s : List Char} (hs : ∀ (k : CharClass) r, s ≠ k.body ++ r) :
      Reads v ('[' :: s) [.charClass s]
  | opener {r : List Char} {ps : List Piece} (hr : ∀ r', r ≠ '#' :: r') (h : Reads v r ps) :
      Reads v ('(' :: '?' :: r) (.opener :: ps)
  | greedy {q r : List Char} {ps : List Piece} (hq : Quantifies q) (hr : Unmarked v r)
      (h : Reads v r ps) : Reads v (q ++ r) (.quantifier q [] .greedy :: ps)
  | lazy {q r : List Char} {ps : List Piece} (hq : Quantifies q) (gap : List (Ignored v))
      (h : Reads v r ps) :
      Reads v (q ++ (gapText gap ++ '?' :: r)) (.quantifier q (gapText gap) .lazy :: ps)
  | possessive {q r : List Char} {ps : List Piece} (hq : Quantifies q) (gap : List (Ignored v))
      (h : Reads v r ps) :
      Reads v (q ++ (gapText gap ++ '+' :: r)) (.quantifier q (gapText gap) .possessive :: ps)
  | plain {c : Char} {r : List Char} {ps : List Piece} (hc : c ∉ ['\\', '[', '*', '+', '?'])
      (hi : NotIgnored v (c :: r)) (hopen : c = '(' → ∀ r', r ≠ '?' :: r')
      (hbrace : c = '\x7b' → ∀ w r', Count Text.isDecimalDigit w → r ≠ w ++ '\x7d' :: r')
      (h : Reads v r ps) : Reads v (c :: r) (.plain c :: ps)

theorem quantifier?_plain {c : Char} {r : List Char} (hc : c ∉ ['*', '+', '?'])
    (hbrace : c = '\x7b' → ∀ w r', Count Text.isDecimalDigit w → r ≠ w ++ '\x7d' :: r') :
    quantifier? (c :: r) = none := by
  simp only [List.mem_cons, List.not_mem_nil, or_false, not_or] at hc
  by_cases hb : c = '\x7b'
  · subst hb
    rw [quantifier?_brace, braces?_eq_none_iff.mpr (hbrace rfl)]
    rfl
  · exact quantifier?_eq_none hc.1 hc.2.1 hc.2.2 hb r

theorem pieces_ignored {s i rest : List Char} (h : ignored v s = (i, rest)) (hi : i ≠ []) :
    pieces v s = .ignored i :: pieces v rest := by
  obtain ⟨b, i, rfl⟩ := List.exists_cons_of_ne_nil hi
  cases s with
  | nil => exact absurd (Prod.mk.inj h).1 (by simp)
  | cons c r => exact pieces_cons (next_ignored h)

theorem pieces_quantifier {s q rest : List Char} (h : quantifier? s = some (q, rest)) :
    pieces v s = (marked v q rest).1 :: pieces v (marked v q rest).2 := by
  cases s with
  | nil => exact absurd h (by simp [quantifier?])
  | cons c r => exact pieces_cons (next_quantifier h)

theorem gapText_ne_nil {gap : List (Ignored v)} (h : gap ≠ []) : gapText gap ≠ [] := by
  obtain ⟨i, gap, rfl⟩ := List.exists_cons_of_ne_nil h
  exact List.append_ne_nil_of_left_ne_nil i.text_ne_nil _

theorem Unended.ne_nil {i : List Char} (h : Unended v i) : i ≠ [] := by
  cases h <;> simp

/-- **Nothing else is a reading.** -/
theorem Reads.pieces_eq {s : List Char} {ps : List Piece} (h : Reads v s ps) :
    pieces v s = ps := by
  induction h with
  | nil => rw [pieces]
  | pair _ ih => rw [pieces_cons (next_pair v _ _), ih]
  | hanging => rw [pieces_cons (next_hanging v), pieces]
  | @ignored gap r ps ne hr _ ih =>
    rw [pieces_ignored (ignored_gapText hr gap) (gapText_ne_nil ne), ih]
  | @unended gap i hi =>
    have hne : gapText gap ++ i ≠ [] := List.append_ne_nil_of_right_ne_nil _ hi.ne_nil
    rw [pieces_ignored (ignored_unended hi gap) hne, pieces]
  | charClass k _ ih => rw [pieces_cons (next_class (classBody_append k _)), ih]
  | openClass hs =>
    rw [pieces_cons (next_class (classBody_open hs)), pieces]
  | opener hr _ ih => rw [pieces_cons (next_opener hr), ih]
  | greedy hq hr _ ih =>
    rw [pieces_quantifier (hq.quantifier? _), marked_greedy (noMark_iff.mpr hr), ih]
  | lazy hq gap _ ih =>
    rw [pieces_quantifier (hq.quantifier? _), marked_lazy (skips_gapText gap), ih]
  | possessive hq gap _ ih =>
    rw [pieces_quantifier (hq.quantifier? _), marked_possessive (skips_gapText gap), ih]
  | plain hc hi hopen hbrace _ ih =>
    simp only [List.mem_cons, List.not_mem_nil, or_false, not_or] at hc
    obtain ⟨hescape, hclass, hquantifier⟩ := hc
    have hnone := quantifier?_plain (by simpa using hquantifier) hbrace
    rw [pieces_cons (next_plain hescape hclass (notIgnored_iff.mp hi) hopen hnone), ih]

theorem mark_cases (v : Bool) (s : List Char) :
    (∃ (gap : List (Ignored v)) (c : Char) (r : List Char), (c = '?' ∨ c = '+') ∧
      s = gapText gap ++ c :: r) ∨ Unmarked v s := by
  by_cases h : ∃ (gap : List (Ignored v)) (c : Char) (r : List Char), (c = '?' ∨ c = '+') ∧
      s = gapText gap ++ c :: r
  · exact Or.inl h
  · exact Or.inr fun gap c r hs =>
      ⟨fun hc => h ⟨gap, c, r, Or.inl hc, hs⟩, fun hc => h ⟨gap, c, r, Or.inr hc, hs⟩⟩

/-- A quantifier with whatever follows it, when all that is shorter can be read. -/
theorem exists_reads_quantifier {q rest : List Char} (hq : Quantifies q)
    (ih : ∀ r, r.length ≤ rest.length → ∃ ps, Reads v r ps) :
    ∃ ps, Reads v (q ++ rest) ps := by
  rcases mark_cases v rest with ⟨gap, c, r, hc, rfl⟩ | hgreedy
  · obtain ⟨ps, hr⟩ := ih r (by simp only [List.length_append, List.length_cons]; omega)
    rcases hc with rfl | rfl
    · exact ⟨_, .lazy hq gap hr⟩
    · exact ⟨_, .possessive hq gap hr⟩
  · obtain ⟨ps, hr⟩ := ih rest (Nat.le_refl _)
    exact ⟨_, .greedy hq hgreedy hr⟩

/-- A text in front of which nothing is ignored or escaped, when all that is shorter can be read. -/
theorem exists_reads_cons {c : Char} {r : List Char} (hescape : c ≠ '\\')
    (hi : NotIgnored v (c :: r)) (ih : ∀ s, s.length ≤ r.length → ∃ ps, Reads v s ps) :
    ∃ ps, Reads v (c :: r) ps := by
  by_cases hclass : c = '['
  · subst hclass
    by_cases hclosed : ∃ (k : CharClass) (r' : List Char), r = k.body ++ r'
    · obtain ⟨k, r', rfl⟩ := hclosed
      obtain ⟨ps, hr⟩ := ih r' (by rw [List.length_append]; omega)
      exact ⟨_, .charClass k hr⟩
    · exact ⟨_, .openClass fun k r' hr => hclosed ⟨k, r', hr⟩⟩
  by_cases hopener : c = '(' ∧ ∃ r', r = '?' :: r'
  · obtain ⟨rfl, r', rfl⟩ := hopener
    have hcomment : ∀ r'', r' ≠ '#' :: r'' := by
      rintro r'' rfl
      have hopen := notIgnored_iff.mp hi
      rw [ignoredLength] at hopen
      exact absurd hopen (by simp)
    obtain ⟨ps, hr⟩ := ih r' (by simp)
    exact ⟨_, .opener hcomment hr⟩
  have hopen : c = '(' → ∀ r', r ≠ '?' :: r' := fun hp r' hr => hopener ⟨hp, r', hr⟩
  cases hq : quantifier? (c :: r) with
  | some p =>
    obtain ⟨q, rest⟩ := p
    obtain ⟨hquantifies, htext⟩ := quantifies_of_quantifier? hq
    have hle : rest.length ≤ r.length := by
      have hpos := List.length_pos_iff.mpr (quantifier?_text hq).2
      have hlength := congrArg List.length htext
      rw [List.length_cons, List.length_append] at hlength
      omega
    rw [htext]
    exact exists_reads_quantifier hquantifies fun s hs => ih s (Nat.le_trans hs hle)
  | none =>
    have hplain : c ∉ ['\\', '[', '*', '+', '?'] := by
      simp only [List.mem_cons, List.not_mem_nil, or_false, not_or]
      refine ⟨hescape, hclass, ?_, ?_, ?_⟩ <;> rintro rfl <;>
        exact absurd hq (by simp [quantifier?])
    have hbrace : c = '\x7b' → ∀ w r', Count Text.isDecimalDigit w → r ≠ w ++ '\x7d' :: r' := by
      rintro rfl
      rw [quantifier?_brace, Option.map_eq_none_iff] at hq
      exact braces?_eq_none_iff.mp hq
    obtain ⟨ps, hr⟩ := ih r (Nat.le_refl _)
    exact ⟨_, .plain hplain hi hopen hbrace hr⟩

/-- **Every text has a reading**, however it is made. -/
theorem exists_reads (v : Bool) (s : List Char) : ∃ ps, Reads v s ps := by
  induction hn : s.length using Nat.strongRecOn generalizing s with
  | ind n ih =>
    subst hn
    rcases s with _ | ⟨c, r⟩
    · exact ⟨_, .nil⟩
    by_cases hescape : c = '\\'
    · subst hescape
      rcases r with _ | ⟨c, r⟩
      · exact ⟨_, .hanging⟩
      · obtain ⟨ps, hr⟩ := ih r.length (by simp only [List.length_cons]; omega) r rfl
        exact ⟨_, .pair hr⟩
    rcases ignored_cases v (c :: r) with ⟨gap, rest, hs, hrest, -⟩ | ⟨gap, i, hs, hi, -⟩
    · by_cases hgap : gap = []
      · have hnone : rest = c :: r := by rw [hs, hgap]; rfl
        rw [hnone] at hrest
        exact exists_reads_cons hescape hrest fun t ht =>
          ih t.length (Nat.lt_succ_of_le ht) t rfl
      · have hpos := List.length_pos_iff.mpr (gapText_ne_nil hgap)
        rw [hs]
        obtain ⟨ps, hr⟩ := ih rest.length (by rw [hs, List.length_append]; omega) rest rfl
        exact ⟨_, .ignored hgap hrest hr⟩
    · rw [hs]
      exact ⟨_, .unended hi⟩

/-- The scan finds the one reading that there is. -/
theorem reads_iff {s : List Char} {ps : List Piece} : Reads v s ps ↔ pieces v s = ps := by
  refine ⟨Reads.pieces_eq, ?_⟩
  rintro rfl
  obtain ⟨ps, hps⟩ := exists_reads v s
  rwa [hps.pieces_eq]

end SubstBot.PatternText
