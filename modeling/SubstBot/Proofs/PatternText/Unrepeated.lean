import SubstBot.Proofs.PatternText.Undamaged

/-!
# `SubstBot/Proofs/PatternText/Unrepeated.lean` — patterns without quantifiers

A pattern in which nothing is repeated has no greed to swap, and one would expect to get it back.
What can go wrong is braces. Whether `a{3}` repeats something hangs on whether `3` is a digit, and
the swap and the engine that reads its result do not ask that of the same characters: the engine
counts in ASCII digits and takes all other braces for themselves, the swap knows the digits of every
script.

So `Unrepeated` takes the notion of a digit as a parameter. Of a pattern that has no quantifiers to
the engine, **the swap changes nothing exactly if there are none in the digits of all scripts
either** (`swap_eq_self_iff_unrepeated`). Otherwise a question mark is put behind braces that were
literal, and makes the closing one optional (`arabic_digit_in_braces`).
-/

set_option autoImplicit false

namespace SubstBot.PatternText

open Greed

variable {v : Bool} {digit digit' : Char → Bool}

/-! ## Patterns -/

/-- Pattern text that is read in whole whatever follows it. -/
inductive Element (v : Bool) : List Char → Prop where
  | pair (c : Char) : Element v ['\\', c]
  | charClass (k : CharClass) : Element v ('[' :: k.body)
  | ignored (i : Ignored v) : Element v i.text

/-- A pattern without quantifiers, when counts are written in the given digits. The parenthesis that
closes a group is a literal here, so that nothing has to balance, and the last comment need not end.
Under the free-spacing flag a `#` is no literal, because it begins a comment. -/
inductive Unrepeated (digit : Char → Bool) (v : Bool) : List Char → Prop where
  | nil : Unrepeated digit v []
  | literal {c : Char} {r : List Char} (hc : c ∉ ['\\', '[', '(', '*', '+', '?'])
      (hline : v = true → c ≠ '#')
      (hbrace : c = '\x7b' → ∀ w r', Count digit w → r ≠ w ++ '\x7d' :: r')
      (h : Unrepeated digit v r) : Unrepeated digit v (c :: r)
  | element {t r : List Char} (ht : Element v t) (h : Unrepeated digit v r) :
      Unrepeated digit v (t ++ r)
  | group {r : List Char} (h : Unrepeated digit v r) : Unrepeated digit v ('(' :: r)
  | special {r : List Char} (hr : ∀ r', r ≠ '#' :: r') (h : Unrepeated digit v r) :
      Unrepeated digit v ('(' :: '?' :: r)
  | unended {i : List Char} (hi : Unended v i) : Unrepeated digit v i

/-! ## Digits -/

theorem Count.mono {w : List Char} (h : Count digit w)
    (hd : ∀ c ∈ w, digit c = true → digit' c = true) : Count digit' w := by
  cases h with
  | exactly ne hm => exact .exactly ne fun c hc => hd c hc (hm c hc)
  | range ne hm hn =>
    refine .range ne (fun c hc => hd c ?_ (hm c hc)) fun c hc => hd c ?_ (hn c hc)
    · exact List.mem_append_left _ hc
    · exact List.mem_append_right _ (List.mem_cons_of_mem _ hc)

theorem Count.head {c : Char} {w : List Char} (h : Count digit (c :: w)) :
    digit c = true ∨ c = ',' := by
  generalize hs : c :: w = s at h
  cases h with
  | exactly _ hm =>
    subst hs
    exact Or.inl (hm c List.mem_cons_self)
  | @range m n _ hm _ =>
    cases m with
    | nil => exact Or.inr (List.cons.inj hs).1
    | cons d m =>
      obtain ⟨rfl, -⟩ := List.cons.inj hs
      exact Or.inl (hm c List.mem_cons_self)

theorem Count.ne_nil {w : List Char} (h : Count digit w) : w ≠ [] := by
  cases h with
  | exactly ne _ => exact ne
  | range _ _ _ => simp

/-- With fewer digits there are fewer counts, and only the digits that occur matter. -/
theorem Unrepeated.mono {s : List Char} (h : Unrepeated digit v s)
    (hd : ∀ c ∈ s, digit' c = true → digit c = true) : Unrepeated digit' v s := by
  induction h with
  | nil => exact .nil
  | literal hc hline hbrace _ ih =>
    refine .literal hc hline (fun hb w r' hw hr => ?_)
      (ih fun d hm => hd d (List.mem_cons_of_mem _ hm))
    refine hbrace hb w r' (hw.mono fun d hm => hd d (List.mem_cons_of_mem _ ?_)) hr
    rw [hr]
    exact List.mem_append_left _ hm
  | element ht _ ih => exact .element ht (ih fun d hm => hd d (List.mem_append_right _ hm))
  | group _ ih => exact .group (ih fun d hm => hd d (List.mem_cons_of_mem _ hm))
  | special hr _ ih =>
    exact .special hr (ih fun d hm => hd d (List.mem_cons_of_mem _ (List.mem_cons_of_mem _ hm)))
  | unended hi => exact .unended hi

/-! ## The start of a pattern -/

theorem noMark_element {t r : List Char} (ht : Element v t) (h : NoMark v r) :
    NoMark v (t ++ r) := by
  cases ht with
  | pair c => exact NoMark.of_not_ignored (ignoredLength_solid rfl _) (by simp) (by simp)
  | charClass k => exact NoMark.of_not_ignored (ignoredLength_solid rfl _) (by simp) (by simp)
  | ignored i => exact (noMark_skips i.skips).mpr h

/-- A literal is ignored or not; either way it is copied, and what follows it is not looked at. -/
theorem literal_cases {c : Char} (hc : c ∉ ['\\', '[', '(', '*', '+', '?'])
    (hline : v = true → c ≠ '#') :
    Skips v [c] ∨ ∀ r, ignoredLength v .nothing (c :: r) = 0 := by
  simp only [List.mem_cons, List.not_mem_nil, or_false, not_or] at hc
  by_cases hb : v = true ∧ Text.isBlank c = true
  · exact Or.inl (skips_blank hb.1 hb.2)
  · refine Or.inr fun r => ignoredLength_eq_zero hc.2.2.1 fun hv => ⟨?_, hline hv⟩
    exact Bool.eq_false_iff.mpr fun h => hb ⟨hv, h⟩

theorem Unrepeated.noMark {s : List Char} (h : Unrepeated digit v s) : NoMark v s := by
  induction h with
  | nil => exact NoMark.nil v
  | @literal c r hc hline _ _ ih =>
    rcases literal_cases hc hline with hskips | hsolid
    · exact (noMark_skips hskips).mpr ih
    · simp only [List.mem_cons, List.not_mem_nil, or_false, not_or] at hc
      exact NoMark.of_not_ignored (hsolid r) hc.2.2.2.2.2 hc.2.2.2.2.1
  | element ht _ ih => exact noMark_element ht ih
  | group _ ih => exact noMark_parenthesis fun r' => ih.ne_cons _
  | special hr _ _ => exact noMark_parenthesis fun r' hr' => hr r' (List.cons.inj hr').2
  | unended hi =>
    intro c r hc
    rw [hi.ignored] at hc
    exact absurd hc (by simp)

theorem Element.not_inert {c : Char} {t r s : List Char} (ht : Element v t) (h : c :: s = t ++ r) :
    isInert c = false := by
  cases ht with
  | pair d =>
    rw [(List.cons.inj h).1]
    rfl
  | charClass k =>
    rw [(List.cons.inj h).1]
    rfl
  | ignored i =>
    cases i with
    | comment body closed =>
      rw [(List.cons.inj h).1]
      rfl
    | blank d free blank =>
      rw [(List.cons.inj h).1]
      simp [isInert, isSolid, blank]
    | line body free oneLine =>
      rw [(List.cons.inj h).1]
      rfl

/-- A character that is read alone can only be a literal. -/
theorem Unrepeated.rest_of_inert {c : Char} {r : List Char} (hc : isInert c = true)
    (h : Unrepeated digit v (c :: r)) : Unrepeated digit v r := by
  generalize hs : c :: r = s at h
  cases h with
  | nil => exact absurd hs (by simp)
  | literal _ _ _ h =>
    rw [(List.cons.inj hs).2]
    exact h
  | element ht _ =>
    rw [ht.not_inert hs] at hc
    exact absurd hc (by simp)
  | group | special =>
    rw [(List.cons.inj hs).1] at hc
    exact absurd hc (by decide)
  | unended hi =>
    cases hi with
    | comment | line =>
      rw [(List.cons.inj hs).1] at hc
      exact absurd hc (by decide)

/-- And a literal it is, in front of any pattern. -/
theorem Unrepeated.inert {c : Char} {r : List Char} (hc : isInert c = true)
    (h : Unrepeated digit v r) : Unrepeated digit v (c :: r) := by
  simp only [isInert, isSolid, Bool.and_eq_true, Bool.not_eq_true', decide_eq_false_iff_not,
    List.mem_cons, List.not_mem_nil, or_false, not_or, bne_iff_ne] at hc
  obtain ⟨⟨⟨hopen, hline⟩, -⟩, hescape, hclass, hbrace, hquantifier⟩ := hc
  exact .literal (by simp [*]) (fun _ => hline) (fun hb => absurd hb hbrace) h

theorem Unrepeated.of_braces?_eq_none {r : List Char} (hr : braces? r = none)
    (h : Unrepeated Char.isDigit v r) : Unrepeated Char.isDigit v ('\x7b' :: r) := by
  refine .literal (by decide) (by simp) (fun _ w r' hw => ?_) h
  exact braces?_eq_none_iff.mp hr w r' (hw.mono fun _ _ => Text.isDecimalDigit_of_isDigit)

theorem Unrepeated.rest_of_inerts {w r : List Char} (hw : ∀ c ∈ w, isInert c = true)
    (h : Unrepeated digit v (w ++ r)) : Unrepeated digit v r := by
  induction w with
  | nil => exact h
  | cons c w ih =>
    have hrest := h.rest_of_inert (hw c List.mem_cons_self)
    exact ih (fun d hd => hw d (List.mem_cons_of_mem c hd)) hrest

/-! ## The swap -/

theorem swap_element {t : List Char} (ht : Element v t) (r : List Char) :
    swap v (t ++ r) = t ++ swap v r := by
  cases ht with
  | pair c => exact swap_pair c r
  | charClass k => exact swap_class (classBody_append k r)
  | ignored i => exact swap_skips i.skips r

theorem swap_unrepeated_literal {c : Char} {r : List Char}
    (hc : c ∉ ['\\', '[', '(', '*', '+', '?']) (hline : v = true → c ≠ '#')
    (hbrace : c = '\x7b' → ∀ w r', Count Text.isDecimalDigit w → r ≠ w ++ '\x7d' :: r') :
    swap v (c :: r) = c :: swap v r := by
  rcases literal_cases hc hline with hskips | hsolid
  · exact swap_skips hskips r
  · simp only [List.mem_cons, List.not_mem_nil, or_false, not_or] at hc
    obtain ⟨hescape, hclass, hopen, hquantifier⟩ := hc
    exact swap_plain hescape hclass (hsolid r) (fun hp => absurd hp hopen)
      (quantifier?_plain (by simpa using hquantifier) hbrace)

theorem swap_unended {i : List Char} (hi : Unended v i) : swap v i = i := by
  rw [swap_eq_ignored, hi.ignored, swap_nil, List.append_nil]

/-- A count is given a question mark, if nothing marks it. -/
theorem swap_count {w r : List Char} (hw : Count Text.isDecimalDigit w) (hr : NoMark v r) :
    swap v ('\x7b' :: (w ++ '\x7d' :: r)) = '\x7b' :: (w ++ '\x7d' :: '?' :: swap v r) := by
  have hswap := swap_greedy ((Quantifies.braces hw).quantifier? r) hr
  simpa using hswap

/-- **The swap leaves a pattern alone that has no quantifiers in its own digits.** -/
theorem swap_of_unrepeated {s : List Char} (h : Unrepeated Text.isDecimalDigit v s) :
    swap v s = s := by
  induction h with
  | nil => exact swap_nil v
  | literal hc hline hbrace _ ih => rw [swap_unrepeated_literal hc hline hbrace, ih]
  | element ht _ ih => rw [swap_element ht, ih]
  | group h ih => rw [swap_parenthesis h.noMark.ne_cons, ih]
  | special hr _ ih => rw [swap_opener_append hr, ih]
  | unended hi => exact swap_unended hi

/-- What is left alone has no quantifiers in any digits: the question mark behind one would stand
where the pattern had none. -/
theorem unrepeated_of_swap {s : List Char} (h : Unrepeated digit v s) (hs : swap v s = s) :
    Unrepeated Text.isDecimalDigit v s := by
  induction h with
  | nil => exact .nil
  | @literal c r hc hline _ hrest ih =>
    have hbrace : c = '\x7b' → ∀ w r', Count Text.isDecimalDigit w → r ≠ w ++ '\x7d' :: r' := by
      rintro rfl w r' hw rfl
      rw [List.append_cons] at hrest
      have hmark := (hrest.rest_of_inerts hw.inert).noMark
      rw [swap_count hw hmark] at hs
      have htail : '?' :: swap v r' = r' := by simpa using hs
      exact hmark.ne_cons _ htail.symm
    rw [swap_unrepeated_literal hc hline hbrace, List.cons.injEq] at hs
    exact .literal hc hline hbrace (ih hs.2)
  | element ht _ ih =>
    rw [swap_element ht, List.append_cancel_left_eq] at hs
    exact .element ht (ih hs)
  | group h ih =>
    rw [swap_parenthesis h.noMark.ne_cons, List.cons.injEq] at hs
    exact .group (ih hs.2)
  | special hr _ ih =>
    rw [swap_opener_append hr] at hs
    exact .special hr (ih (by simpa using hs))
  | unended hi => exact .unended hi

/-- **A pattern without quantifiers is left alone if and only if it has none in other digits
either.** What is a quantifier to the engine is written in ASCII digits; a pattern that has no
others at all is always left alone. -/
theorem swap_eq_self_iff_unrepeated {s : List Char} (h : Unrepeated Char.isDigit v s) :
    (swap v s = s ↔ Unrepeated Text.isDecimalDigit v s) ∧
      ((∀ c ∈ s, Text.isDecimalDigit c = true → c.isDigit = true) → swap v s = s) :=
  ⟨⟨unrepeated_of_swap h, swap_of_unrepeated⟩, fun hs => swap_of_unrepeated (h.mono hs)⟩

/-- Braces around a letter, in a group with a class and an escape, and a comment to the end of the
line. -/
theorem swap_eq_self_iff_unrepeated_braces :
    Unrepeated Char.isDigit true
        ['(', '?', ':', 'a', '\x7b', 'x', '\x7d', '[', '*', ']', '\\', '+', ')',
          '#', '?', '\n'] ∧
      swap true
        ['(', '?', ':', 'a', '\x7b', 'x', '\x7d', '[', '*', ']', '\\', '+', ')',
          '#', '?', '\n'] =
        ['(', '?', ':', 'a', '\x7b', 'x', '\x7d', '[', '*', ']', '\\', '+', ')',
          '#', '?', '\n'] := by
  have hline : Unrepeated Char.isDigit true ['#', '?', '\n'] :=
    .element (.ignored (.line ['?'] rfl (by decide))) .nil
  have hescape : Unrepeated Char.isDigit true ['\\', '+', ')', '#', '?', '\n'] :=
    .element (.pair '+') (.inert rfl hline)
  have hclass : Unrepeated Char.isDigit true ['[', '*', ']', '\\', '+', ')', '#', '?', '\n'] :=
    .element (.charClass ⟨false, false, [.char '*' (by decide)], by simp, by simp⟩) hescape
  have hliteral : Unrepeated Char.isDigit true
      ['\x7b', 'x', '\x7d', '[', '*', ']', '\\', '+', ')', '#', '?', '\n'] :=
    .of_braces?_eq_none rfl (.inert rfl (.inert rfl hclass))
  have hheader : Unrepeated Char.isDigit true
      [':', 'a', '\x7b', 'x', '\x7d', '[', '*', ']', '\\', '+', ')', '#', '?', '\n'] :=
    .inert rfl (.inert rfl hliteral)
  have h := Unrepeated.special (by simp) hheader
  refine ⟨h, (swap_eq_self_iff_unrepeated h).2 ?_⟩
  simp only [List.forall_mem_cons, List.not_mem_nil, false_implies, implies_true, and_true]
  decide

/-- The engine reads braces around a digit of another script as literal, and the swap makes the
closing one optional. -/
theorem arabic_digit_in_braces :
    Unrepeated Char.isDigit false ['a', '\x7b', '\u0663', '\x7d'] ∧
      swap false ['a', '\x7b', '\u0663', '\x7d'] = ['a', '\x7b', '\u0663', '\x7d', '?'] := by
  have hcount : Count Text.isDecimalDigit ['\u0663'] :=
    .exactly (by simp) (List.forall_mem_singleton.mpr rfl)
  have hletter (r : List Char) : swap false ('a' :: r) = 'a' :: swap false r :=
    swap_plain (by simp) (by simp) (ignoredLength_solid rfl r) (by simp) rfl
  constructor
  · have hclose : Unrepeated Char.isDigit false ['\u0663', '\x7d'] :=
      .inert rfl (.inert rfl .nil)
    refine .inert rfl (.literal (by decide) (by simp) (fun _ w r' hw hr => ?_) hclose)
    rcases w with _ | ⟨c, w⟩
    · exact hw.ne_nil rfl
    · obtain ⟨rfl, -⟩ := List.cons.inj hr
      exact absurd hw.head (by decide)
  · calc
      _ = 'a' :: swap false ('\x7b' :: (['\u0663'] ++ ['\x7d'])) := hletter _
      _ = _ := by
        rw [swap_count hcount (NoMark.nil false), swap_nil]
        rfl

end SubstBot.PatternText
