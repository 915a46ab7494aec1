import SubstBot.Proofs.Template.Forms
import SubstBot.Proofs.Template.Print

/-!
# `SubstBot/Proofs/Template/Seam.lean` — templates read in parts

When a text falls into two, its template need not: an escape or a reference may begin in the first
part and end in the second. **Where no mark reaches across the seam, the parts can be read apart**
and their templates joined (`parse_append`). Two seams of this kind are found here. The backslash that
begins a run is one, whatever stands on either side of the run, since no mark has a backslash in it
other than at its start or directly behind another (`marks_append_backslash`). The other is any place
behind characters that begin nothing (`marks_plain_append`).
-/

set_option autoImplicit false

namespace SubstBot.Rule.Template

/-! ## Joining the templates of marks -/

theorem join_text_cons_cons (s : List Char) (m : TemplateNode) (t u : Template) :
    join (.text s :: m :: t) u = .text s :: join (m :: t) u := by
  rw [join]
  simp

theorem pushChar_join (c : Char) (t u : Template) :
    pushChar c (join t u) = join (pushChar c t) u := by
  cases t with
  | nil => rw [join_nil, pushChar_eq_join, pushChar_eq_join, join_nil_right]
  | cons m t =>
    cases m with
    | index n =>
      have hpush : pushChar c (.index n :: t) = .text [c] :: .index n :: t := rfl
      rw [hpush, join_index, join_text_index]
      rfl
    | text s =>
      have hpush : pushChar c (.text s :: t) = .text (c :: s) :: t := rfl
      rw [hpush]
      cases t with
      | nil => rw [join_text_cons]
      | cons m t =>
        rw [join_text_cons_cons, join_text_cons_cons]
        rfl

/-- **The template of two rows of marks** is that of the one and that of the other, joined. A number
that is too long is reported where the first of them stands. -/
theorem ofMarks_append (ms ns : List Mark) :
    ofMarks (ms ++ ns) = (ofMarks ms).bind fun t => (ofMarks ns).map (join t) := by
  induction ms with
  | nil =>
    rw [List.nil_append, ofMarks]
    cases ofMarks ns <;> rfl
  | cons m ms ih =>
    cases m with
    | char c =>
      rw [List.cons_append, ofMarks, ih, ofMarks]
      cases ofMarks ms with
      | error e => rfl
      | ok t =>
        cases ofMarks ns with
        | error e => rfl
        | ok u =>
          have hjoin := pushChar_join c t u
          simp only [Except.bind, Except.map, hjoin]
    | group ds =>
      rw [List.cons_append, ofMarks, ih, ofMarks]
      split
      · rfl
      · cases ofMarks ms with
        | error e => rfl
        | ok t =>
          cases ofMarks ns with
          | error e => rfl
          | ok u =>
            have hjoin := join_index (Text.readDigits 0 ds) t u
            simp only [Except.bind, Except.map, hjoin]

theorem ofMarks_chars_append {s : List Char} (hs : s ≠ []) (ms : List Mark) :
    ofMarks (s.map .char ++ ms) = (ofMarks ms).map (join [.text s]) := by
  cases h : ofMarks ms with
  | ok u => exact ofMarks_text hs h
  | error e =>
    have hmarks := ofMarks_append (s.map .char) ms
    rw [h] at hmarks
    have hchars : ofMarks (s.map .char) = .ok (join [.text s] []) := by
      have htext := ofMarks_text hs (rfl : ofMarks [] = .ok [])
      rwa [List.append_nil] at htext
    rw [hmarks, hchars]
    rfl

theorem parse_append {s t : List Char} (h : marks (s ++ t) = marks s ++ marks t) :
    parse (s ++ t) = (parse s).bind fun a => (parse t).map (join a) := by
  rw [parse, h, ofMarks_append]
  rfl

/-! ## Behind characters that begin nothing -/

theorem marks_plain_append {s : List Char} (hs : ∀ c ∈ s, c ≠ '\\' ∧ c ≠ '$') (t : List Char) :
    marks (s ++ t) = s.map .char ++ marks t := by
  induction s with
  | nil => rfl
  | cons c s ih =>
    obtain ⟨h1, h2⟩ := hs c List.mem_cons_self
    have hrest := ih fun b hb => hs b (List.mem_cons_of_mem c hb)
    rw [List.cons_append, marks_plain h1 h2, hrest, List.map_cons, List.cons_append]

/-! ## In front of a run of backslashes -/

theorem not_isDecimalDigit_backslash : Text.isDecimalDigit '\\' = false := rfl

theorem NoDigit.append_backslash {s : List Char} (hs : NoDigit s) (t : List Char) :
    NoDigit (s ++ '\\' :: t) := by
  cases s with
  | nil => exact .cons not_isDecimalDigit_backslash t
  | cons c r => exact .cons (hs c r rfl) (r ++ '\\' :: t)

theorem NoDigit.of_append {s t : List Char} (h : NoDigit (s ++ t)) : NoDigit s := by
  intro c r hs
  rw [hs] at h
  exact h c (r ++ t) rfl

/-- Digits in front of a text with a backslash in it end before the backslash. -/
theorem digits_before_backslash {ds t s x : List Char}
    (hds : ∀ c ∈ ds, Text.isDecimalDigit c = true) (h : ds ++ t = s ++ '\\' :: x) :
    ∃ q, s = ds ++ q ∧ t = q ++ '\\' :: x := by
  induction ds generalizing s with
  | nil => exact ⟨s, rfl, h⟩
  | cons d ds ih =>
    cases s with
    | nil =>
      have hd := hds d List.mem_cons_self
      rw [(List.cons.inj h).1, not_isDecimalDigit_backslash] at hd
      exact absurd hd Bool.false_ne_true
    | cons b s =>
      obtain ⟨rfl, hrest⟩ := List.cons.inj h
      obtain ⟨q, rfl, rfl⟩ := ih (fun c hc => hds c (List.mem_cons_of_mem d hc)) hrest
      exact ⟨q, rfl, rfl⟩

/-- The same for a character of the text that is no backslash. -/
theorem cons_before_backslash {c : Char} (hc : c ≠ '\\') {t s x : List Char}
    (h : c :: t = s ++ '\\' :: x) : ∃ q, s = c :: q ∧ t = q ++ '\\' :: x := by
  cases s with
  | nil => exact absurd (List.cons.inj h).1 hc
  | cons b s =>
    obtain ⟨rfl, ht⟩ := List.cons.inj h
    exact ⟨s, rfl, ht⟩

/-- The first two characters of a text stand before the run, unless the second is its first. -/
theorem pair_before_backslash {a b : Char} (hab : b = '\\' → a = '\\') {s t x : List Char}
    (hne : s ≠ []) (hlast : s.getLast? ≠ some '\\') (h : a :: b :: t = s ++ '\\' :: x) :
    ∃ q, s = a :: b :: q ∧ t = q ++ '\\' :: x := by
  rcases s with _ | ⟨a', _ | ⟨b', s⟩⟩
  · exact absurd rfl hne
  · obtain ⟨ha, ht⟩ := List.cons.inj h
    rw [← ha, hab (List.cons.inj ht).1] at hlast
    exact absurd rfl hlast
  · obtain ⟨rfl, ht⟩ := List.cons.inj h
    obtain ⟨rfl, hrest⟩ := List.cons.inj ht
    exact ⟨s, rfl, hrest⟩

/-- A form is the same form in front of a backslash. -/
theorem Begins.append_backslash {s t : List Char} {m : Mark} (h : Begins s m t) (x : List Char) :
    Begins (s ++ '\\' :: x) m (t ++ '\\' :: x) := by
  cases h with
  | backslash => exact .backslash _
  | slash => exact .slash _
  | newline => exact .newline _
  | tab => exact .tab _
  | dollar => exact .dollar _
  | digits hl hd ht =>
    rw [List.cons_append, List.append_assoc]
    exact .digits hl hd (ht.append_backslash x)
  | braces hd =>
    rw [List.cons_append, List.cons_append, List.append_assoc]
    exact .braces hd (t ++ '\\' :: x)
  | angles hd =>
    rw [List.cons_append, List.cons_append, List.cons_append, List.append_assoc]
    exact .angles hd (t ++ '\\' :: x)

/-- **No form reaches into a run of backslashes from before it.** Only an escape of two characters has
a backslash that is not its first, and then the first is one as well. -/
theorem Begins.of_append_backslash {s x t : List Char} {m : Mark}
    (h : Begins (s ++ '\\' :: x) m t) (hne : s ≠ []) (hlast : s.getLast? ≠ some '\\') :
    ∃ q, t = q ++ '\\' :: x ∧ Begins s m q := by
  generalize hw : s ++ '\\' :: x = w at h
  cases h with
  | backslash =>
    obtain ⟨q, rfl, rfl⟩ := pair_before_backslash (fun _ => rfl) hne hlast hw.symm
    exact ⟨q, rfl, .backslash q⟩
  | slash =>
    obtain ⟨q, rfl, rfl⟩ := pair_before_backslash (fun _ => rfl) hne hlast hw.symm
    exact ⟨q, rfl, .slash q⟩
  | newline =>
    obtain ⟨q, rfl, rfl⟩ := pair_before_backslash (fun _ => rfl) hne hlast hw.symm
    exact ⟨q, rfl, .newline q⟩
  | tab =>
    obtain ⟨q, rfl, rfl⟩ := pair_before_backslash (fun _ => rfl) hne hlast hw.symm
    exact ⟨q, rfl, .tab q⟩
  | dollar =>
    obtain ⟨q, rfl, rfl⟩ := pair_before_backslash (by simp) hne hlast hw.symm
    exact ⟨q, rfl, .dollar q⟩
  | digits hl hd ht =>
    cases s with
    | nil => exact absurd rfl hne
    | cons a s =>
      obtain ⟨rfl, hrest⟩ := List.cons.inj hw
      obtain ⟨q, rfl, rfl⟩ := digits_before_backslash hd.decimal hrest.symm
      exact ⟨q, rfl, .digits hl hd ht.of_append⟩
  | braces hd =>
    obtain ⟨s, rfl, hs⟩ := pair_before_backslash (by simp) hne hlast hw.symm
    obtain ⟨s, rfl, hclose⟩ := digits_before_backslash hd.decimal hs
    obtain ⟨q, rfl, rfl⟩ := cons_before_backslash (by simp) hclose
    exact ⟨q, rfl, .braces hd q⟩
  | angles hd =>
    obtain ⟨s, rfl, hopen⟩ := pair_before_backslash (fun _ => rfl) hne hlast hw.symm
    obtain ⟨s, rfl, hs⟩ := cons_before_backslash (by simp) hopen
    obtain ⟨s, rfl, hclose⟩ := digits_before_backslash hd.decimal hs
    obtain ⟨q, rfl, rfl⟩ := cons_before_backslash (by simp) hclose
    exact ⟨q, rfl, .angles hd q⟩

theorem getLast?_of_suffix {s t : List Char} {c : Char} (h : t <:+ s)
    (ht : t.getLast? = some c) : s.getLast? = some c := by
  obtain ⟨w, rfl⟩ := h
  rw [List.getLast?_append, ht]
  rfl

/-- **A run of backslashes is read from its first.** By induction over the forms of what stands before
it, each of which ends there at the latest. -/
theorem marks_append_backslash {s : List Char} (hlast : s.getLast? ≠ some '\\') (x : List Char) :
    marks (s ++ '\\' :: x) = marks s ++ marks ('\\' :: x) := by
  induction s using forms_induction with
  | nil => rw [marks_nil, List.nil_append, List.nil_append]
  | form s m t hb ih =>
    have ht : t.getLast? ≠ some '\\' := fun h => hlast (getLast?_of_suffix hb.suffix h)
    rw [marks_of_begins (hb.append_backslash x), ih ht, marks_of_begins hb, List.cons_append]
  | char c r hno ih =>
    have hr : r.getLast? ≠ some '\\' :=
      fun h => hlast (getLast?_of_suffix (List.suffix_cons c r) h)
    have hno' : ∀ m t, ¬ Begins (c :: (r ++ '\\' :: x)) m t := by
      intro m t hb
      rw [← List.cons_append] at hb
      obtain ⟨q, -, hq⟩ := hb.of_append_backslash (by simp) hlast
      exact hno m q hq
    rw [List.cons_append, marks_of_not_begins hno', ih hr, marks_of_not_begins hno,
      List.cons_append]

end SubstBot.Rule.Template
