import Mathlib.Data.List.TakeWhile
import SubstBot.Proofs.Template.Marks

/-!
# `SubstBot/Proofs/Template/Forms.lean` — the forms a mark is written in

`Begins` lists the ways in which a text can begin with an escape or a reference, with what follows.
Five are escapes of two characters and three are references: by digits alone, which are all the
digits there are, in braces, and in angles. `next_cases` says that **the first mark of a text is the
form that it begins with, and its first character if it begins with none**.

What is shown of marks later is shown form by form, from this list and not from the reader.
-/

set_option autoImplicit false

namespace SubstBot.Rule.Template

/-- Decimal digits of any script, at least one. -/
structure Digits (ds : List Char) : Prop where
  ne_nil : ds ≠ []
  decimal : ∀ c ∈ ds, Text.isDecimalDigit c = true

/-- The text begins with the written form of a mark that is not just its first character, and what
follows. -/
inductive Begins : List Char → Mark → List Char → Prop where
  | backslash (t : List Char) : Begins ('\\' :: '\\' :: t) (.char '\\') t
  | slash (t : List Char) : Begins ('\\' :: '/' :: t) (.char '/') t
  | newline (t : List Char) : Begins ('\\' :: 'n' :: t) (.char '\n') t
  | tab (t : List Char) : Begins ('\\' :: 't' :: t) (.char '\t') t
  | dollar (t : List Char) : Begins ('$' :: '$' :: t) (.char '$') t
  | digits {lead : Char} {ds t : List Char} (hl : lead = '\\' ∨ lead = '$') (hd : Digits ds)
      (ht : NoDigit t) : Begins (lead :: (ds ++ t)) (.group ds) t
  | braces {ds : List Char} (hd : Digits ds) (t : List Char) :
      Begins ('$' :: '\x7b' :: (ds ++ '\x7d' :: t)) (.group ds) t
  | angles {ds : List Char} (hd : Digits ds) (t : List Char) :
      Begins ('\\' :: 'g' :: '<' :: (ds ++ '>' :: t)) (.group ds) t

/-! ## Digits -/

theorem digits?_eq_none_iff {s : List Char} : digits? s = none ↔ NoDigit s := by
  cases s with
  | nil => exact ⟨fun _ => .nil, fun _ => rfl⟩
  | cons c r =>
    constructor
    · intro h
      cases hc : Text.isDecimalDigit c with
      | false => exact .cons hc r
      | true =>
        rw [digits?, List.takeWhile_cons, hc] at h
        exact absurd h (by simp)
    · intro h
      exact digits?_of_not_digit (h c r rfl) r

theorem digits?_eq_some_iff {s ds r : List Char} :
    digits? s = some (ds, r) ↔ s = ds ++ r ∧ Digits ds ∧ NoDigit r := by
  constructor
  · intro h
    unfold digits? at h
    split at h
    · exact absurd h (by simp)
    · rename_i d ds' htake
      simp only [Option.some.injEq, Prod.mk.injEq] at h
      obtain ⟨rfl, rfl⟩ := h
      refine ⟨?_, ⟨by simp, fun c hc => ?_⟩, fun c r hr => ?_⟩
      · rw [← htake, List.takeWhile_append_dropWhile]
      · rw [← htake] at hc
        exact List.mem_takeWhile_imp hc
      · -- What is left begins with the character at which the digits stopped.
        have hstop := List.head?_dropWhile_not Text.isDecimalDigit s
        rw [hr] at hstop
        exact hstop
  · rintro ⟨rfl, hds, hr⟩
    exact digits?_append hds.ne_nil hds.decimal hr

theorem closedDigits?_eq_some {close : Char} {s ds r : List Char}
    (h : closedDigits? close s = some (ds, r)) : s = ds ++ close :: r ∧ Digits ds := by
  unfold closedDigits? at h
  split at h
  · rename_i ds' c r' hdigits
    split at h
    · rename_i hc
      simp only [Option.some.injEq, Prod.mk.injEq] at h
      obtain ⟨rfl, rfl⟩ := h
      obtain ⟨hs, hds, -⟩ := digits?_eq_some_iff.mp hdigits
      rw [← hc]
      exact ⟨hs, hds⟩
    · exact absurd h (by simp)
  · exact absurd h (by simp)

/-! ## What is read is a form -/

theorem begins_of_afterBackslash? {s t : List Char} {m : Mark}
    (h : afterBackslash? s = some (m, t)) : Begins ('\\' :: s) m t := by
  unfold afterBackslash? at h
  split at h
  · rename_i ds r hdigits
    simp only [Option.some.injEq, Prod.mk.injEq] at h
    obtain ⟨rfl, rfl⟩ := h
    obtain ⟨rfl, hds, hr⟩ := digits?_eq_some_iff.mp hdigits
    exact .digits (Or.inl rfl) hds hr
  · split at h
    · obtain ⟨⟨ds, r⟩, hclosed, he⟩ := Option.map_eq_some_iff.mp h
      simp only [Prod.mk.injEq] at he
      obtain ⟨rfl, rfl⟩ := he
      obtain ⟨rfl, hds⟩ := closedDigits?_eq_some hclosed
      exact .angles hds r
    · obtain ⟨rfl, rfl⟩ := Prod.mk.inj (Option.some.inj h)
      exact .backslash _
    · obtain ⟨rfl, rfl⟩ := Prod.mk.inj (Option.some.inj h)
      exact .slash _
    · obtain ⟨rfl, rfl⟩ := Prod.mk.inj (Option.some.inj h)
      exact .newline _
    · obtain ⟨rfl, rfl⟩ := Prod.mk.inj (Option.some.inj h)
      exact .tab _
    · exact absurd h (by simp)

theorem begins_of_afterDollar? {s t : List Char} {m : Mark}
    (h : afterDollar? s = some (m, t)) : Begins ('$' :: s) m t := by
  unfold afterDollar? at h
  split at h
  · rename_i ds r hdigits
    simp only [Option.some.injEq, Prod.mk.injEq] at h
    obtain ⟨rfl, rfl⟩ := h
    obtain ⟨rfl, hds, hr⟩ := digits?_eq_some_iff.mp hdigits
    exact .digits (Or.inr rfl) hds hr
  · split at h
    · obtain ⟨⟨ds, r⟩, hclosed, he⟩ := Option.map_eq_some_iff.mp h
      simp only [Prod.mk.injEq] at he
      obtain ⟨rfl, rfl⟩ := he
      obtain ⟨rfl, hds⟩ := closedDigits?_eq_some hclosed
      exact .braces hds r
    · obtain ⟨rfl, rfl⟩ := Prod.mk.inj (Option.some.inj h)
      exact .dollar _
    · exact absurd h (by simp)

/-! ## A form is what is read -/

theorem marks_of_begins {s t : List Char} {m : Mark} (h : Begins s m t) :
    marks s = m :: marks t := by
  cases h with
  | backslash => exact marks_escaped_backslash t
  | slash => exact marks_escaped_slash t
  | newline =>
    apply marks_backslash
    rw [afterBackslash?, digits?_of_not_digit rfl]
  | tab =>
    apply marks_backslash
    rw [afterBackslash?, digits?_of_not_digit rfl]
  | dollar => exact marks_escaped_dollar t
  | @digits lead ds t hl hd ht =>
    rcases hl with rfl | rfl
    · apply marks_backslash
      unfold afterBackslash?
      rw [digits?_append hd.ne_nil hd.decimal ht]
    · exact marks_digits hd.ne_nil hd.decimal ht
  | braces hd => exact marks_braces hd.ne_nil hd.decimal t
  | angles hd => exact marks_angles hd.ne_nil hd.decimal t

/-- **A text begins with a form, or its first character is itself.** -/
theorem next_cases (c : Char) (r : List Char) :
    Begins (c :: r) (next c r).1 (next c r).2 ∨ next c r = (.char c, r) := by
  unfold next
  by_cases h1 : c = '\\'
  · subst h1
    rw [if_pos rfl]
    cases h : afterBackslash? r with
    | none => exact Or.inr rfl
    | some p => exact Or.inl (begins_of_afterBackslash? h)
  · rw [if_neg h1]
    by_cases h2 : c = '$'
    · subst h2
      rw [if_pos rfl]
      cases h : afterDollar? r with
      | none => exact Or.inr rfl
      | some p => exact Or.inl (begins_of_afterDollar? h)
    · rw [if_neg h2]
      exact Or.inr rfl

theorem marks_of_not_begins {c : Char} {r : List Char} (h : ∀ m t, ¬ Begins (c :: r) m t) :
    marks (c :: r) = .char c :: marks r := by
  have hnext := (next_cases c r).resolve_left (h _ _)
  rw [marks_cons, hnext]

/-- A form is taken from the start, and the rest is the end of the text. -/
theorem Begins.suffix {s t : List Char} {m : Mark} (h : Begins s m t) : t <:+ s := by
  cases h with
  | backslash | slash | newline | tab | dollar => exact ⟨[_, _], rfl⟩
  | @digits lead ds t hl hd ht => exact ⟨lead :: ds, rfl⟩
  | @braces ds hd => exact ⟨'$' :: '\x7b' :: (ds ++ ['\x7d']), by simp⟩
  | @angles ds hd => exact ⟨'\\' :: 'g' :: '<' :: (ds ++ ['>']), by simp⟩

theorem Begins.length_lt {s t : List Char} {m : Mark} (h : Begins s m t) :
    t.length < s.length := by
  cases h <;> simp <;> omega

/-- **Induction over the forms of a text**: it is empty, it begins with a form, or it begins with a
character that is itself. -/
theorem forms_induction {motive : List Char → Prop} (nil : motive [])
    (form : ∀ s m t, Begins s m t → motive t → motive s)
    (char : ∀ c r, (∀ m t, ¬ Begins (c :: r) m t) → motive r → motive (c :: r))
    (s : List Char) : motive s := by
  match s with
  | [] => exact nil
  | c :: r =>
    by_cases h : ∃ m t, Begins (c :: r) m t
    · obtain ⟨m, t, hb⟩ := h
      exact form _ m t hb (forms_induction nil form char t)
    · exact char c r (fun m t hb => h ⟨m, t, hb⟩) (forms_induction nil form char r)
termination_by s.length
decreasing_by
  · exact hb.length_lt
  · exact Nat.lt_succ_self r.length

end SubstBot.Rule.Template
