import SubstBot.Proofs.Template.Seam
import SubstBot.Proofs.Text.DecimalDigit

/-!
# `SubstBot/Proofs/Template/Spellings.lean` — the spellings of a reference

A reference can be spelled in four ways. The closed spellings, in braces and in angles, say where the
number ends, so they can stand in front of any text. The open ones, behind a dollar sign or a backslash,
end where the digits do, and **take every digit there is**: in front of a text that begins with digits
these are part of the number.

An opener with digits that is not closed is no reference but text. It is only that much text: what
follows is read as it would be alone, with its own escapes and references (`parse_unfinished`).
-/

set_option autoImplicit false

namespace SubstBot.Rule.Template

variable {ds s t : List Char} {vs : List Nat} {u : Template}

/-! ## Texts that begin with a reference -/

theorem parse_of_begins (h : Begins s (.group ds) t) (hlen : ds.length ≤ numeralLimit)
    (hds : List.Forall₂ Text.IsDigit ds vs) (ht : parse t = .ok u) :
    parse s = .ok (.index (Nat.ofDigits 10 vs.reverse) :: u) := by
  have hvalue : Text.readDigits 0 ds = Nat.ofDigits 10 vs.reverse := by
    simp [Text.readDigits_eq_ofDigits hds]
  have hmarks : ofMarks (marks t) = .ok u := ht
  rw [parse, marks_of_begins h, ofMarks, if_neg (Nat.not_lt.mpr hlen), hmarks, hvalue]
  rfl

theorem parse_of_begins_overlong (h : Begins s (.group ds) t) (hlen : numeralLimit < ds.length) :
    parse s = .error ⟨ds.length⟩ := by
  rw [parse, marks_of_begins h, ofMarks, if_pos hlen]

/-! ## Texts that begin with digits -/

theorem Digits.plain (h : ∀ c ∈ ds, Text.isDecimalDigit c = true) :
    ∀ c ∈ ds, c ≠ '\\' ∧ c ≠ '$' := by
  intro c hc
  have hdecimal := h c hc
  constructor
  · rintro rfl
    exact absurd hdecimal (by decide)
  · rintro rfl
    exact absurd hdecimal (by decide)

/-- A text is the digits that it begins with, if any, and a rest that begins with none. -/
theorem exists_leading_digits (t : List Char) :
    ∃ es r, t = es ++ r ∧ (∀ c ∈ es, Text.isDecimalDigit c = true) ∧ NoDigit r := by
  cases h : digits? t with
  | none => exact ⟨[], t, rfl, by simp, digits?_eq_none_iff.mp h⟩
  | some p =>
    obtain ⟨ht, hes, hr⟩ := digits?_eq_some_iff.mp h
    exact ⟨p.1, p.2, ht, hes.decimal, hr⟩

/-- If a text can be read, so can what stands behind characters that begin nothing. -/
theorem exists_parse_of_plain (hs : ∀ c ∈ s, c ≠ '\\' ∧ c ≠ '$') (h : parse (s ++ t) = .ok u) :
    ∃ v, parse t = .ok v := by
  cases s with
  | nil => exact ⟨u, h⟩
  | cons c s =>
    rw [parse, marks_plain_append hs, ofMarks_chars_append (by simp)] at h
    cases hrest : ofMarks (marks t) with
    | error e =>
      rw [hrest] at h
      exact absurd h (by simp [Except.map])
    | ok v => exact ⟨v, hrest⟩

/-- Digits that follow an open spelling belong to it. -/
theorem begins_absorbed {lead : Char} (hl : lead = '$' ∨ lead = '\\') {es r : List Char}
    (hds : Digits ds) (hes : ∀ c ∈ es, Text.isDecimalDigit c = true) (hr : NoDigit r) :
    Begins (lead :: (ds ++ (es ++ r))) (.group (ds ++ es)) r := by
  have hall : Digits (ds ++ es) := by
    refine ⟨fun h => hds.ne_nil (List.append_eq_nil_iff.mp h).1, ?_⟩
    intro c hc
    exact (List.mem_append.mp hc).elim (hds.decimal c) (hes c)
  rw [← List.append_assoc]
  exact .digits hl.symm hall hr

/-! ## Openers that are not closed -/

/-- An opener with digits behind it that begins nothing is text, and what follows is read as it would be
alone. -/
theorem parse_unclosed {lead : Char} {o : List Char} (ho : ∀ c ∈ o, c ≠ '\\' ∧ c ≠ '$')
    (hds : Digits ds) (hno : ∀ m r, ¬ Begins (lead :: (o ++ ds ++ t)) m r) (ht : parse t = .ok u) :
    parse (lead :: (o ++ ds ++ t)) = .ok (join [.text (lead :: (o ++ ds))] u) := by
  have hplain : ∀ c ∈ o ++ ds, c ≠ '\\' ∧ c ≠ '$' := by
    intro c hc
    exact (List.mem_append.mp hc).elim (ho c) (Digits.plain hds.decimal c)
  have hmarks : marks (lead :: (o ++ ds ++ t)) = (lead :: (o ++ ds)).map .char ++ marks t := by
    rw [marks_of_not_begins hno, marks_plain_append hplain]
    rfl
  rw [parse, hmarks]
  exact ofMarks_text (List.cons_ne_nil _ _) ht

/-- Digits are closed by what stands directly behind the last of them or not at all. -/
theorem not_closed {close : Char} (hclose : Text.isDecimalDigit close = false)
    (hds : Digits ds) (ht : NoDigit t) (hhead : t.head? ≠ some close) {ds' r : List Char}
    (hds' : Digits ds') : ds ++ t ≠ ds' ++ close :: r := by
  intro h
  have hread := digits?_append hds.ne_nil hds.decimal ht
  rw [h, digits?_append hds'.ne_nil hds'.decimal (.cons hclose r), Option.some.injEq,
    Prod.mk.injEq] at hread
  rw [← hread.2] at hhead
  exact hhead rfl

theorem Digits.exists_cons (h : Digits ds) :
    ∃ d r, ds = d :: r ∧ Text.isDecimalDigit d = true := by
  cases ds with
  | nil => exact absurd rfl h.ne_nil
  | cons d r => exact ⟨d, r, rfl, h.decimal d List.mem_cons_self⟩

theorem not_begins_unclosed_braces (hds : Digits ds) (ht : NoDigit t)
    (hhead : t.head? ≠ some '\x7d') (m : Mark) (r : List Char) :
    ¬ Begins ('$' :: '\x7b' :: (ds ++ t)) m r := by
  intro h
  generalize hs : '$' :: '\x7b' :: (ds ++ t) = s at h
  cases h with
  | backslash | slash | newline | tab | angles => exact absurd (List.cons.inj hs).1 (by simp)
  | dollar => exact absurd (List.cons.inj (List.cons.inj hs).2).1 (by simp)
  | digits hl hd hr =>
    obtain ⟨d, q, rfl, hdecimal⟩ := hd.exists_cons
    rw [← (List.cons.inj (List.cons.inj hs).2).1] at hdecimal
    exact absurd hdecimal (by decide)
  | braces hd => exact not_closed rfl hds ht hhead hd (List.cons.inj (List.cons.inj hs).2).2

theorem not_begins_unclosed_angles (hds : Digits ds) (ht : NoDigit t)
    (hhead : t.head? ≠ some '>') (m : Mark) (r : List Char) :
    ¬ Begins ('\\' :: 'g' :: '<' :: (ds ++ t)) m r := by
  intro h
  generalize hs : '\\' :: 'g' :: '<' :: (ds ++ t) = s at h
  cases h with
  | backslash | slash | newline | tab =>
    exact absurd (List.cons.inj (List.cons.inj hs).2).1 (by simp)
  | dollar | braces => exact absurd (List.cons.inj hs).1 (by simp)
  | digits hl hd hr =>
    obtain ⟨d, q, rfl, hdecimal⟩ := hd.exists_cons
    rw [← (List.cons.inj (List.cons.inj hs).2).1] at hdecimal
    exact absurd hdecimal (by decide)
  | angles hd =>
    have hrest := (List.cons.inj (List.cons.inj (List.cons.inj hs).2).2).2
    exact not_closed rfl hds ht hhead hd hrest

/-! ## The four spellings -/

/-- **The spellings of a reference agree.** Digits of any scripts are the reference to the group of
their value in base ten: in either closed spelling in front of any text that can be read, and in either
open one in front of a text that begins with no digit. In front of others, the open spellings take the
digits there as well, and the number may then be too long. Behind an opener and without the closer,
digits are text, and what follows them is read as it would be alone. -/
theorem reference_spellings (hne : ds ≠ []) (hds : List.Forall₂ Text.IsDigit ds vs)
    (ht : parse t = .ok u) :
    (ds.length ≤ numeralLimit →
      parse ('$' :: '\x7b' :: (ds ++ '\x7d' :: t)) =
          .ok (.index (Nat.ofDigits 10 vs.reverse) :: u) ∧
      parse ('\\' :: 'g' :: '<' :: (ds ++ '>' :: t)) =
          .ok (.index (Nat.ofDigits 10 vs.reverse) :: u) ∧
      (NoDigit t → ∀ lead, lead = '$' ∨ lead = '\\' →
        parse (lead :: (ds ++ t)) = .ok (.index (Nat.ofDigits 10 vs.reverse) :: u))) ∧
    (∃ es ws r v, t = es ++ r ∧ List.Forall₂ Text.IsDigit es ws ∧ NoDigit r ∧ parse r = .ok v ∧
      ∀ lead, lead = '$' ∨ lead = '\\' →
        parse (lead :: (ds ++ t)) =
          if ds.length + es.length ≤ numeralLimit then
            .ok (.index (Nat.ofDigits 10 (vs ++ ws).reverse) :: v)
          else .error ⟨ds.length + es.length⟩) ∧
    (NoDigit t → t.head? ≠ some '\x7d' →
      parse ('$' :: '\x7b' :: (ds ++ t)) = .ok (join [.text ('$' :: '\x7b' :: ds)] u)) ∧
    (NoDigit t → t.head? ≠ some '>' →
      parse ('\\' :: 'g' :: '<' :: (ds ++ t)) =
        .ok (join [.text ('\\' :: 'g' :: '<' :: ds)] u)) := by
  have hdigits : Digits ds := ⟨hne, Text.isDecimalDigit_of_forall₂ hds⟩
  refine ⟨fun hlen => ⟨?braces, ?angles, ?alone⟩, ?absorbed, ?unclosedBraces, ?unclosedAngles⟩
  case braces => exact parse_of_begins (.braces hdigits t) hlen hds ht
  case angles => exact parse_of_begins (.angles hdigits t) hlen hds ht
  case alone =>
    intro hno lead hl
    exact parse_of_begins (.digits hl.symm hdigits hno) hlen hds ht
  case absorbed =>
    obtain ⟨es, r, rfl, hes, hr⟩ := exists_leading_digits t
    obtain ⟨ws, hws⟩ := Text.exists_values hes
    obtain ⟨v, hv⟩ := exists_parse_of_plain (Digits.plain hes) ht
    refine ⟨es, ws, r, v, rfl, hws, hr, hv, ?_⟩
    intro lead hl
    have hbegins := begins_absorbed hl hdigits hes hr
    have hlength : (ds ++ es).length = ds.length + es.length := List.length_append
    split
    · rename_i hlen
      rw [← hlength] at hlen
      exact parse_of_begins hbegins hlen (List.rel_append hds hws) hv
    · rename_i hlen
      rw [← hlength] at hlen ⊢
      exact parse_of_begins_overlong hbegins (Nat.not_le.mp hlen)
  case unclosedBraces =>
    intro hno hhead
    have hplain : ∀ c ∈ ['\x7b'], c ≠ '\\' ∧ c ≠ '$' := by simp
    exact parse_unclosed hplain hdigits (not_begins_unclosed_braces hdigits hno hhead) ht
  case unclosedAngles =>
    intro hno hhead
    have hplain : ∀ c ∈ ['g', '<'], c ≠ '\\' ∧ c ≠ '$' := by simp
    exact parse_unclosed hplain hdigits (not_begins_unclosed_angles hdigits hno hhead) ht

/-- An Arabic digit in front of a European one is the group 31. -/
theorem reference_spellings_mixed :
    parse ('$' :: '\x7b' :: (['٣', '1'] ++ '\x7d' :: ['x'])) = .ok [.index 31, .text ['x']] ∧
      parse ('\\' :: (['٣', '1'] ++ ['x'])) = .ok [.index 31, .text ['x']] := by
  have hds : List.Forall₂ Text.IsDigit ['٣', '1'] [3, 1] := by
    refine .cons ⟨by simp, 0x660, ?_, rfl⟩ (.cons ⟨by simp, 0x30, ?_, rfl⟩ .nil)
    · decide
    · decide
  have hx : parse ['x'] = .ok [.text ['x']] := by
    rw [parse, marks_plain (by simp) (by simp), marks_nil]
    rfl
  have hno : NoDigit ['x'] := .cons rfl []
  obtain ⟨hspellings, -⟩ := reference_spellings (by simp) hds hx
  obtain ⟨hbraces, -, halone⟩ := hspellings (by simp [numeralLimit])
  exact ⟨hbraces, halone hno '\\' (Or.inr rfl)⟩

end SubstBot.Rule.Template
