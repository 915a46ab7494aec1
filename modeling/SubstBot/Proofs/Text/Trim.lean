import Mathlib.Data.List.DropRight
import SubstBot.Text.Blank

/-!
# `SubstBot/Proofs/Text/Trim.lean` — what trimming leaves

Trimming goes over a text twice, once from each end. What it leaves can be said without either walk:
a stretch of the text that has only blanks around it and neither begins nor ends with one.
`trim_eq_iff` says that **there is exactly one such stretch, and trimming gives it**.

A pattern of characters that are not blank stands in a text if and only if it stands in what
trimming leaves (`infix_trim_iff`), since blanks at the ends can be no part of it.
-/

set_option autoImplicit false

namespace SubstBot.Text

/-- `core` is the text without the blanks around it. -/
structure Stripped (s core : List Char) : Prop where
  around : ∃ before after, s = before ++ core ++ after ∧ allBlank before = true ∧
    allBlank after = true
  first : ∀ c ∈ core.head?, isBlank c = false
  last : ∀ c ∈ core.getLast?, isBlank c = false

/-! ## One end at a time -/

theorem allBlank_iff {s : List Char} : allBlank s = true ↔ ∀ c ∈ s, isBlank c = true := by
  unfold allBlank
  exact List.all_eq_true

theorem trimRight_eq_rdropWhile (s : List Char) : trimRight s = s.rdropWhile isBlank := by
  induction s with
  | nil => rfl
  | cons c r ih =>
    have hsplit : List.rdropWhile isBlank (c :: r) =
        if r.rdropWhile isBlank = [] then (if isBlank c then [] else [c])
        else c :: r.rdropWhile isBlank := by
      unfold List.rdropWhile
      rw [List.reverse_cons, List.dropWhile_append]
      by_cases hr : List.dropWhile isBlank r.reverse = []
      · simp only [hr, List.isEmpty_nil, if_true, List.reverse_nil]
        cases hc : isBlank c <;> simp [hc]
      · simp [hr]
    rw [trimRight, ih, hsplit]
    cases r.rdropWhile isBlank with
    | nil => rfl
    | cons d q => rfl

theorem trimLeft_append {before : List Char} (hb : allBlank before = true) (s : List Char) :
    trimLeft (before ++ s) = trimLeft s := by
  unfold trimLeft
  rw [List.dropWhile_append, List.dropWhile_eq_nil_iff.mpr (allBlank_iff.mp hb)]
  rfl

theorem trimRight_append {after : List Char} (ha : allBlank after = true) (s : List Char) :
    trimRight (s ++ after) = trimRight s := by
  have hreverse : ∀ c ∈ after.reverse, isBlank c = true := by
    intro c hc
    exact allBlank_iff.mp ha c (List.mem_reverse.mp hc)
  rw [trimRight_eq_rdropWhile, trimRight_eq_rdropWhile]
  unfold List.rdropWhile
  rw [List.reverse_append, List.dropWhile_append, List.dropWhile_eq_nil_iff.mpr hreverse]
  rfl

/-- A text that does not end with a blank keeps its end. -/
theorem trimRight_of_last {s : List Char} (h : ∀ c ∈ s.getLast?, isBlank c = false) :
    trimRight s = s := by
  rw [trimRight_eq_rdropWhile, List.rdropWhile_eq_self_iff]
  intro hs
  rw [h _ (List.getLast_mem_getLast? hs)]
  exact Bool.false_ne_true

theorem trimLeft_of_first {s : List Char} (h : ∀ c ∈ s.head?, isBlank c = false) :
    trimLeft s = s := by
  cases s with
  | nil => rfl
  | cons c r =>
    have hc : isBlank c = false := h c rfl
    simp [trimLeft, hc]

/-! ## Both ends -/

theorem stripped_trim (s : List Char) : Stripped s (trim s) := by
  have hleft : s.takeWhile isBlank ++ trimLeft s = s := List.takeWhile_append_dropWhile
  have hright : trim s ++ (trimLeft s).rtakeWhile isBlank = trimLeft s := by
    rw [trim, trimRight_eq_rdropWhile]
    exact List.rdropWhile_append_rtakeWhile
  refine ⟨⟨s.takeWhile isBlank, (trimLeft s).rtakeWhile isBlank, ?split, ?before, ?after⟩, ?first,
    ?last⟩
  case split => rw [List.append_assoc, hright, hleft]
  case before => exact allBlank_iff.mpr fun c hc => List.mem_takeWhile_imp hc
  case after => exact allBlank_iff.mpr fun c hc => List.mem_rtakeWhile_imp hc
  case first =>
    intro c hc
    -- What is dropped at the end leaves the first character alone, unless nothing is left.
    have hprefix : trim s <+: trimLeft s := ⟨_, hright⟩
    have hhead : c ∈ (trimLeft s).head? := by
      obtain ⟨rest, hrest⟩ := hprefix
      rw [← hrest, List.head?_append, Option.mem_def.mp hc]
      rfl
    have hdrop := List.head?_dropWhile_not isBlank s
    rw [← trimLeft, Option.mem_def.mp hhead] at hdrop
    exact hdrop
  case last =>
    intro c hc
    rw [trim, trimRight_eq_rdropWhile] at hc
    obtain ⟨hne, rfl⟩ := List.mem_getLast?_eq_getLast hc
    exact Bool.eq_false_iff.mpr (List.rdropWhile_last_not isBlank _ hne)

/-- **Trimming gives the one stretch that has only blanks around it and none at its ends.** -/
theorem trim_eq_iff {s core : List Char} : trim s = core ↔ Stripped s core := by
  constructor
  · rintro rfl
    exact stripped_trim s
  · rintro ⟨⟨before, after, rfl, hb, ha⟩, hfirst, hlast⟩
    rw [List.append_assoc, trim, trimLeft_append hb]
    cases core with
    | nil =>
      have hnone : trimLeft after = [] := List.dropWhile_eq_nil_iff.mpr (allBlank_iff.mp ha)
      rw [List.nil_append, hnone]
      rfl
    | cons c r =>
      have hkeep : trimLeft (c :: r ++ after) = c :: r ++ after := trimLeft_of_first hfirst
      rw [hkeep, trimRight_append ha, trimRight_of_last hlast]

/-! ## What stands in a text -/

/-- Blanks in front are no part of a pattern that does not begin with one. -/
theorem infix_of_infix_append {p : Char} {ps before s : List Char} (hp : isBlank p = false)
    (hb : allBlank before = true) (h : p :: ps <:+: before ++ s) : p :: ps <:+: s := by
  induction before with
  | nil => exact h
  | cons c r ih =>
    have hall := allBlank_iff.mp hb
    rcases List.infix_cons_iff.mp h with hprefix | hrest
    · obtain ⟨rfl, -⟩ := List.cons_prefix_cons.mp hprefix
      have hblank := hall p List.mem_cons_self
      rw [hp] at hblank
      exact absurd hblank Bool.false_ne_true
    · exact ih (allBlank_iff.mpr fun c hc => hall c (List.mem_cons_of_mem _ hc)) hrest

/-- **Trimming neither loses nor makes an occurrence** of a pattern whose ends are not blank. -/
theorem infix_trim_iff {ps s : List Char} (hne : ps ≠ []) (hps : ∀ c ∈ ps, isBlank c = false) :
    ps <:+: trim s ↔ ps <:+: s := by
  obtain ⟨⟨before, after, hs, hb, ha⟩, -, -⟩ := stripped_trim s
  generalize trim s = core at hs
  subst hs
  constructor
  · intro h
    exact h.trans ⟨before, after, rfl⟩
  · intro h
    -- From the left, and then, with everything turned around, from the right.
    have hright : ps <:+: core ++ after := by
      cases ps with
      | nil => exact absurd rfl hne
      | cons p ps =>
        rw [List.append_assoc] at h
        exact infix_of_infix_append (hps p List.mem_cons_self) hb h
    have hafter : allBlank after.reverse = true :=
      allBlank_iff.mpr fun c hc => allBlank_iff.mp ha c (List.mem_reverse.mp hc)
    rw [← List.reverse_infix, List.reverse_append] at hright
    rw [← List.reverse_infix]
    cases hq : ps.reverse with
    | nil => exact absurd (List.reverse_eq_nil_iff.mp hq) hne
    | cons q qs =>
      have hmem : q ∈ ps := List.mem_reverse.mp (hq ▸ List.mem_cons_self)
      rw [hq] at hright
      exact infix_of_infix_append (hps q hmem) hafter hright

end SubstBot.Text
