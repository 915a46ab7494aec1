import SubstBot.Proofs.Rule.Grammar
import SubstBot.Proofs.Template.Marks

/-!
# `SubstBot/Proofs/Template/Print.lean` — writing a template down and reading it back

Reading joins neighbouring characters, so what it gives is always `Normal`: no text is empty and no
two texts stand next to each other. Every normal template can be written down, `print`, and is read
back from there. What is written may be followed by any text that can be read: **the two are read
apart and joined at the seam** (`parse_print_append`). It may also stand in a rule, because the
printer writes every slash behind a backslash of its own.

The proof goes through the marks that a template stands for. Printing writes a form for each mark,
so `marks` gives exactly these marks back, and `ofMarks` joins them to the template.
-/

set_option autoImplicit false

namespace SubstBot.Rule.Template

/-! ## Normal templates -/

/-- No text in the template is empty, and no two texts stand next to each other. -/
structure Normal (t : Template) : Prop where
  nonempty : .text [] ∉ t
  apart : ∀ a b, ¬ [.text a, .text b] <:+: t

theorem normal_nil : Normal [] :=
  ⟨by simp, fun a b h => absurd h (by simp)⟩

theorem normal_cons_index {n : Nat} {t : Template} : Normal (.index n :: t) ↔ Normal t := by
  constructor
  · intro h
    exact ⟨fun hm => h.nonempty (List.mem_cons_of_mem _ hm),
      fun a b hi => h.apart a b (List.infix_cons hi)⟩
  · intro h
    refine ⟨fun hm => ?_, fun a b hi => ?_⟩
    · rw [List.mem_cons] at hm
      exact h.nonempty (hm.resolve_left (by simp))
    · rw [List.infix_cons_iff] at hi
      exact h.apart a b (hi.resolve_left (by simp))

theorem normal_cons_text {s : List Char} {t : Template} :
    Normal (.text s :: t) ↔ s ≠ [] ∧ (∀ s' t', t ≠ .text s' :: t') ∧ Normal t := by
  constructor
  · intro h
    refine ⟨?_, ?_, fun hm => h.nonempty (List.mem_cons_of_mem _ hm),
      fun a b hi => h.apart a b (List.infix_cons hi)⟩
    · rintro rfl
      exact h.nonempty List.mem_cons_self
    · rintro s' t' rfl
      exact h.apart s s' ⟨[], t', rfl⟩
  · rintro ⟨hs, ht, h⟩
    refine ⟨fun hm => ?_, fun a b hi => ?_⟩
    · rw [List.mem_cons] at hm
      refine h.nonempty (hm.resolve_left ?_)
      rw [TemplateNode.text.injEq]
      exact fun h => hs h.symm
    · rw [List.infix_cons_iff] at hi
      refine h.apart a b (hi.resolve_left fun hp => ?_)
      rw [List.cons_prefix_cons] at hp
      obtain ⟨t', ht'⟩ := hp.2
      exact ht b t' ht'.symm

theorem normal_pushChar {t : Template} (h : Normal t) (c : Char) : Normal (pushChar c t) := by
  cases t with
  | nil =>
    rw [pushChar, normal_cons_text]
    · exact ⟨by simp, fun s' t' => by simp, normal_nil⟩
    · exact fun s' t' => by simp
  | cons m t =>
    cases m with
    | text s =>
      rw [normal_cons_text] at h
      rw [pushChar, normal_cons_text]
      exact ⟨by simp, h.2⟩
    | index n =>
      rw [pushChar, normal_cons_text]
      · exact ⟨by simp, fun s' t' => by simp, h⟩
      · exact fun s' t' => by simp

theorem normal_ofMarks {ms : List Mark} {t : Template} (h : ofMarks ms = .ok t) : Normal t := by
  induction ms generalizing t with
  | nil =>
    rw [ofMarks, Except.ok.injEq] at h
    rw [← h]
    exact normal_nil
  | cons m ms ih =>
    cases m with
    | char c =>
      rw [ofMarks] at h
      cases hms : ofMarks ms with
      | error e => rw [hms] at h; exact absurd h (by simp [Except.map])
      | ok u =>
        rw [hms, Except.map, Except.ok.injEq] at h
        rw [← h]
        exact normal_pushChar (ih hms) c
    | group ds =>
      rw [ofMarks] at h
      split at h
      · exact absurd h (by simp)
      · cases hms : ofMarks ms with
        | error e => rw [hms] at h; exact absurd h (by simp [Except.map])
        | ok u =>
          rw [hms, Except.map, Except.ok.injEq] at h
          rw [← h, normal_cons_index]
          exact ih hms

theorem normal_of_parse {s : List Char} {t : Template} (h : parse s = .ok t) : Normal t :=
  normal_ofMarks h

/-! ## Joining -/

/-- One template after another, with the texts at the seam made one. -/
def join : Template → Template → Template
  | [], u => u
  | [.text s], .text s' :: u => .text (s ++ s') :: u
  | m :: t, u => m :: join t u

@[simp] theorem join_nil (u : Template) : join [] u = u := rfl

theorem join_index (n : Nat) (t u : Template) :
    join (.index n :: t) u = .index n :: join t u := by
  rw [join]
  simp

theorem join_text_index (s : List Char) (n : Nat) (t u : Template) :
    join (.text s :: .index n :: t) u = .text s :: .index n :: join t u := by
  rw [join, join_index]
  simp

theorem pushChar_eq_join (c : Char) (u : Template) : pushChar c u = join [.text [c]] u := by
  cases u with
  | nil => rfl
  | cons m u => cases m <;> rfl

theorem join_text_cons (c : Char) (s : List Char) (u : Template) :
    pushChar c (join [.text s] u) = join [.text (c :: s)] u := by
  cases u with
  | nil => rfl
  | cons m u => cases m <;> rfl

theorem join_nil_right (t : Template) : join t [] = t := by
  induction t with
  | nil => rfl
  | cons m t ih =>
    rw [join, ih]
    simp

/-! ## Printing -/

/-- The two closed spellings of a reference. -/
inductive Spelling where
  | braces
  | angles
  deriving DecidableEq, Repr

/-- A reference, spelled as told. -/
def printIndex (n : Nat) : Spelling → List Char
  | .braces => '$' :: '\x7b' :: (Nat.toDigits 10 n ++ ['\x7d'])
  | .angles => '\\' :: 'g' :: '<' :: (Nat.toDigits 10 n ++ ['>'])

/-- A character of a text, written so that it is read as itself and cuts no rule. -/
def printChar (c : Char) : List Char :=
  if c = '\\' then ['\\', '\\']
  else if c = '$' then ['$', '$']
  else if c = '/' then ['\\', '/']
  else [c]

/-- A template written down; `spelling i` is how the node at place `i` is spelled if it is a
reference. -/
def print (spelling : Nat → Spelling) : Template → List Char
  | [] => []
  | .text s :: t => s.flatMap printChar ++ print (fun i => spelling (i + 1)) t
  | .index n :: t => printIndex n (spelling 0) ++ print (fun i => spelling (i + 1)) t

/-- No number in the template has more digits than are read. -/
def Readable (t : Template) : Prop :=
  ∀ n, .index n ∈ t → (Nat.toDigits 10 n).length ≤ numeralLimit

/-- The marks that a template is written with. -/
def toMarks : Template → List Mark
  | [] => []
  | .text s :: t => s.map .char ++ toMarks t
  | .index n :: t => .group (Nat.toDigits 10 n) :: toMarks t

theorem Readable.tail {m : TemplateNode} {t : Template} (h : Readable (m :: t)) : Readable t :=
  fun n hn => h n (List.mem_cons_of_mem m hn)

/-! ## The marks of what is printed -/

theorem marks_printChar (c : Char) (t : List Char) :
    marks (printChar c ++ t) = .char c :: marks t := by
  unfold printChar
  by_cases h1 : c = '\\'
  · rw [if_pos h1, h1]
    exact marks_escaped_backslash t
  · rw [if_neg h1]
    by_cases h2 : c = '$'
    · rw [if_pos h2, h2]
      exact marks_escaped_dollar t
    · rw [if_neg h2]
      by_cases h3 : c = '/'
      · rw [if_pos h3, h3]
        exact marks_escaped_slash t
      · rw [if_neg h3]
        exact marks_plain h1 h2 t

theorem marks_printText (s t : List Char) :
    marks (s.flatMap printChar ++ t) = s.map .char ++ marks t := by
  induction s with
  | nil => rfl
  | cons c s ih =>
    rw [List.flatMap_cons, List.append_assoc, marks_printChar, ih]
    rfl

theorem marks_printIndex (n : Nat) (sp : Spelling) (t : List Char) :
    marks (printIndex n sp ++ t) = .group (Nat.toDigits 10 n) :: marks t := by
  have hds : ∀ c ∈ Nat.toDigits 10 n, Text.isDecimalDigit c = true :=
    fun c hc => isDecimalDigit_of_mem_toDigits hc
  cases sp with
  | braces =>
    have h := marks_braces Nat.toDigits_ne_nil hds t
    simpa [printIndex] using h
  | angles =>
    have h := marks_angles Nat.toDigits_ne_nil hds t
    simpa [printIndex] using h

/-- **What is printed is cut into the marks of the template**, and what follows is cut as it would
be alone. -/
theorem marks_print_append (spelling : Nat → Spelling) (t : Template) (s : List Char) :
    marks (print spelling t ++ s) = toMarks t ++ marks s := by
  induction t generalizing spelling with
  | nil => rfl
  | cons m t ih =>
    cases m with
    | text a =>
      rw [print, List.append_assoc, marks_printText, ih, toMarks, List.append_assoc]
    | index n =>
      rw [print, List.append_assoc, marks_printIndex, ih, toMarks, List.cons_append]

/-! ## The template of these marks -/

theorem ofMarks_text {s : List Char} (hs : s ≠ []) {ms : List Mark} {u : Template}
    (h : ofMarks ms = .ok u) : ofMarks (s.map .char ++ ms) = .ok (join [.text s] u) := by
  induction s with
  | nil => exact absurd rfl hs
  | cons c s ih =>
    rw [List.map_cons, List.cons_append, ofMarks]
    cases s with
    | nil =>
      rw [List.map_nil, List.nil_append, h, Except.map, pushChar_eq_join]
    | cons d s =>
      rw [ih (by simp), Except.map, join_text_cons]

/-- The marks of a normal template, followed by others, give the two templates joined. -/
theorem ofMarks_toMarks_append {t : Template} (hn : Normal t) (hr : Readable t) {ms : List Mark}
    {u : Template} (h : ofMarks ms = .ok u) : ofMarks (toMarks t ++ ms) = .ok (join t u) := by
  induction t with
  | nil => exact h
  | cons m t ih =>
    cases m with
    | index n =>
      have hlen : ¬ numeralLimit < (Nat.toDigits 10 n).length :=
        Nat.not_lt.mpr (hr n List.mem_cons_self)
      rw [toMarks, List.cons_append, ofMarks, if_neg hlen,
        ih (normal_cons_index.mp hn) hr.tail, Except.map, readDigits_toDigits, join_index]
    | text s =>
      obtain ⟨hs, hhead, hn⟩ := normal_cons_text.mp hn
      rw [toMarks, List.append_assoc, ofMarks_text hs (ih hn hr.tail)]
      -- What follows a text in a normal template is nothing or a reference.
      cases t with
      | nil => rfl
      | cons m t =>
        cases m with
        | text s' => exact absurd rfl (hhead s' t)
        | index n => rw [join_index, join_text_index]; rfl

/-! ## Reading back -/

theorem parse_print_append {t : Template} (hn : Normal t) (hr : Readable t)
    (spelling : Nat → Spelling) {s : List Char} {u : Template} (h : parse s = .ok u) :
    parse (print spelling t ++ s) = .ok (join t u) := by
  rw [parse, marks_print_append]
  exact ofMarks_toMarks_append hn hr h

theorem parse_print {t : Template} (hn : Normal t) (hr : Readable t) (spelling : Nat → Spelling) :
    parse (print spelling t) = .ok t := by
  have hnil : parse [] = .ok [] := by
    rw [parse, marks_nil]
    rfl
  have h := parse_print_append hn hr spelling hnil
  rwa [List.append_nil, join_nil_right] at h

/-! ## Standing in a rule -/

theorem segment_printChar (c : Char) : Segment '/' (printChar c) := by
  unfold printChar
  by_cases h1 : c = '\\'
  · rw [if_pos h1]
    exact Segment.escape (by simp) '\\'
  · rw [if_neg h1]
    by_cases h2 : c = '$'
    · rw [if_pos h2]
      exact Segment.of_plain (by simp)
    · rw [if_neg h2]
      by_cases h3 : c = '/'
      · rw [if_pos h3]
        exact Segment.escape (by simp) '/'
      · rw [if_neg h3]
        exact Segment.of_plain (by simp [h1, h3])

theorem segment_printText (s : List Char) : Segment '/' (s.flatMap printChar) := by
  induction s with
  | nil => exact Segment.nil '/'
  | cons c s ih =>
    rw [List.flatMap_cons]
    exact (segment_printChar c).append ih

theorem plain_of_mem_toDigits {n : Nat} {c : Char} (h : c ∈ Nat.toDigits 10 n) :
    c ≠ '\\' ∧ c ≠ '/' := by
  have hc := isDigit_of_mem_toDigits h
  refine ⟨?_, ?_⟩
  · rintro rfl
    exact absurd hc (by simp)
  · rintro rfl
    exact absurd hc (by simp)

theorem segment_printIndex (n : Nat) (sp : Spelling) : Segment '/' (printIndex n sp) := by
  have hds : Segment '/' (Nat.toDigits 10 n) :=
    Segment.of_plain fun c hc => plain_of_mem_toDigits hc
  cases sp with
  | braces =>
    have hopen : Segment '/' ['$', '\x7b'] := Segment.of_plain (by simp)
    have hclose : Segment '/' ['\x7d'] := Segment.of_plain (by simp)
    simpa [printIndex] using (hopen.append hds).append hclose
  | angles =>
    -- To the scan for slashes, the backslash of this spelling escapes the `g`.
    have hescape : Segment '/' ['\\', 'g'] := Segment.escape (by simp) 'g'
    have hopen : Segment '/' ['<'] := Segment.of_plain (by simp)
    have hclose : Segment '/' ['>'] := Segment.of_plain (by simp)
    simpa [printIndex] using ((hescape.append hopen).append hds).append hclose

theorem segment_print (spelling : Nat → Spelling) (t : Template) :
    Segment '/' (print spelling t) := by
  induction t generalizing spelling with
  | nil => exact Segment.nil '/'
  | cons m t ih =>
    cases m with
    | text s => exact (segment_printText s).append (ih _)
    | index n => exact (segment_printIndex n (spelling 0)).append (ih _)

theorem parse?_print {E : Regex.Engine} {t : Template} (hn : Normal t) (hr : Readable t)
    (spelling : Nat → Spelling) {query flags : List Char} (hq : Segment '/' query) {f : Flags}
    (hf : Flags.parse flags = .ok f) {pattern : E.Pattern}
    (hp : f.compile E query = .ok pattern) :
    Rule.parse? E (marker ++ (query ++ '/' :: (print spelling t ++ '/' :: flags))) =
      .ok (some { pattern, template := t, global := f.global }) := by
  have hw : ¬ marker <:+: [] := by simp [marker]
  have hparts : Parts (query ++ '/' :: (print spelling t ++ '/' :: flags)) query
      (print spelling t) flags := .closed hq (segment_print spelling t)
  have h := parse?_parts (E := E) hw hparts
  rw [List.nil_append] at h
  rw [h, ofSegments, hf]
  simp only [hp, parse_print hn hr spelling]
  rfl

/-- **Templates and their texts.** What is read is normal; a normal template is read back from its
printed form, also in front of any text that can be read, where only the texts at the seam are
joined; and its printed form can stand in every rule whose query an engine can compile. -/
theorem parse_print_roundTrip (E : Regex.Engine) :
    (∀ s t, parse s = .ok t → Normal t) ∧
    (∀ t spelling, Normal t → Readable t →
      (∀ s u, parse s = .ok u → parse (print spelling t ++ s) = .ok (join t u)) ∧
      parse (print spelling t) = .ok t ∧
      ∀ query flags f pattern, Segment '/' query → Flags.parse flags = .ok f →
        f.compile E query = .ok pattern →
        Rule.parse? E (marker ++ (query ++ '/' :: (print spelling t ++ '/' :: flags))) =
          .ok (some { pattern, template := t, global := f.global })) := by
  refine ⟨fun s t h => normal_of_parse h, fun t spelling hn hr => ⟨fun s u h => ?_, ?_, ?_⟩⟩
  · exact parse_print_append hn hr spelling h
  · exact parse_print hn hr spelling
  · intro query flags f pattern hq hf hp
    exact parse?_print hn hr spelling hq hf hp

/-- A template with a slash in its text, in front of another text and in a rule. -/
theorem parse_print_roundTrip_slash :
    parse (print (fun _ => .angles) [.index 12, .text ['/']] ++ ['x']) =
        .ok [.index 12, .text ['/', 'x']] ∧
    ∃ pattern, Rule.parse? Backtracking.engine (marker ++ (['a'] ++
        '/' :: (print (fun _ => .angles) [.index 12, .text ['/']] ++ '/' :: []))) =
      .ok (some { pattern, template := [.index 12, .text ['/']], global := false }) := by
  have hn : Normal [.index 12, .text ['/']] := by
    rw [normal_cons_index, normal_cons_text]
    exact ⟨by simp, by simp, normal_nil⟩
  have hr : Readable [.index 12, .text ['/']] := by
    intro n hn
    have h12 : n = 12 := by simpa using hn
    have hdigits : Nat.toDigits 10 12 = ['1', '2'] := rfl
    rw [h12, hdigits]
    simp [numeralLimit]
  have hx : parse ['x'] = .ok [.text ['x']] := by
    rw [parse, marks_plain (by simp) (by simp), marks_nil]
    rfl
  have hq : Segment '/' ['a'] := .of_plain (by simp)
  obtain ⟨pattern, hp⟩ : ∃ p, Rule.Flags.compile Backtracking.engine {} ['a'] = .ok p :=
    ⟨_, rfl⟩
  obtain ⟨-, h⟩ := parse_print_roundTrip Backtracking.engine
  obtain ⟨happend, -, hrule⟩ := h _ (fun _ => .angles) hn hr
  exact ⟨happend ['x'] _ hx, pattern, hrule ['a'] [] {} pattern hq rfl hp⟩

end SubstBot.Rule.Template
