import Mathlib.Data.List.Forall2
import SubstBot.Proofs.PatternText.Reading
import SubstBot.Proofs.Text.DecimalDigit

/-!
# `SubstBot/Proofs/PatternText/Undamaged.lean` — the swap touches nothing but marks

On a text that is no pattern, the swap still does something, and nobody says what it should be. What
can be asked is that it does no harm: question marks come and go behind quantifiers and nowhere else
(`Rewritten`), and everything that is no quantifier is there as before.

**There as before** is more than being copied. The new text is read again, by the engine if by
nobody else, and a question mark that comes or goes might change what is read behind it: an opened
group, the mark of the quantifier in front, a brace that begins a count. Quantifiers can be
affected. In `a*?+` the star is lazy and the plus is a quantifier; in what becomes of it, `a*+?`,
the star is possessive. Nothing else is (`kept_swap`), and the reason is that for everything else it
does not matter whether a quantifier takes a mark or the mark is a quantifier of its own
(`kept_quantifier`).
-/

set_option autoImplicit false

namespace SubstBot.PatternText

open Greed

variable {v : Bool}

/-! ## Piece by piece -/

/-- What stands in the new text for a piece of the old one: a quantifier without a mark gains a
question mark right behind it, one with a lazy mark loses that, and everything else is copied. -/
inductive Rewritten : Piece → List Char → Prop where
  | inserted {q : List Char} (hq : Quantifies q) :
      Rewritten (.quantifier q [] .greedy) (q ++ ['?'])
  | removed {q gap : List Char} (hq : Quantifies q) :
      Rewritten (.quantifier q gap .lazy) (q ++ gap)
  | copied {p : Piece} (h : ∀ q gap, p ≠ .quantifier q gap .greedy ∧ p ≠ .quantifier q gap .lazy) :
      Rewritten p p.text

theorem Reads.rewritten {s : List Char} {ps : List Piece} (h : Reads v s ps) :
    List.Forall₂ Rewritten ps (ps.map fun p => p.swapped.text) := by
  induction h with
  | nil => exact .nil
  | hanging | unended | openClass => exact .cons (.copied (by simp)) .nil
  | pair _ ih | ignored _ _ _ ih | charClass _ _ ih | opener _ _ ih | plain _ _ _ _ _ ih =>
    exact .cons (.copied (by simp)) ih
  | possessive _ _ _ ih => exact .cons (.copied (by simp)) ih
  | @greedy q r ps hq _ _ ih =>
    have hinserted : Rewritten (.quantifier q [] .greedy) (q ++ [] ++ ['?']) := by
      rw [List.append_nil]
      exact .inserted hq
    exact .cons hinserted ih
  | @lazy q r ps hq gap _ ih =>
    have hremoved : Rewritten (.quantifier q (gapText gap) .lazy) (q ++ gapText gap ++ []) := by
      rw [List.append_nil]
      exact .removed hq
    exact .cons hremoved ih

theorem swapped_text_filter (p : Piece) :
    p.swapped.text.filter (· ≠ '?') = p.text.filter (· ≠ '?') := by
  cases p with
  | quantifier q gap mark =>
    cases mark <;> simp [Piece.swapped, Piece.text, Mark.swapped, Mark.text]
  | _ => rfl

/-- **Only question marks make the difference.** -/
theorem swap_filter (v : Bool) (s : List Char) :
    (swap v s).filter (· ≠ '?') = s.filter (· ≠ '?') := by
  calc
    _ = (pieces v s).flatMap fun p => p.swapped.text.filter (· ≠ '?') := by
      rw [swap, List.filter_flatMap]
    _ = (pieces v s).flatMap fun p => p.text.filter (· ≠ '?') := by
      simp only [swapped_text_filter]
    _ = _ := by rw [← List.filter_flatMap, text_pieces]

/-! ## What is no quantifier -/

/-- Ignored text, one character at a time. How it falls into pieces depends on the marks between. -/
def spread (s : List Char) : List Piece :=
  s.map fun c => .ignored [c]

/-- What of a piece belongs to no quantifier. -/
def Greed.Piece.kept : Piece → List Piece
  | .ignored s => spread s
  | .quantifier _ gap _ => spread gap
  | p => [p]

/-- Everything in a text that belongs to no quantifier. -/
def kept (v : Bool) (s : List Char) : List Piece :=
  (pieces v s).flatMap Piece.kept

theorem kept_cons {c : Char} {r rest : List Char} {p : Piece} (h : next v c r = (p, rest)) :
    kept v (c :: r) = p.kept ++ kept v rest := by
  rw [kept, pieces_cons h]
  rfl

theorem kept_eq_ignored (v : Bool) (s : List Char) :
    kept v s = spread (ignored v s).1 ++ kept v (ignored v s).2 := by
  have htext := ignored_text v s
  cases h : ignored v s with
  | mk i rest =>
    rw [h] at htext
    by_cases hi : i = []
    · subst hi
      exact congrArg (kept v) htext.symm
    · rw [kept, pieces_ignored h hi]
      rfl

theorem kept_skips {i : List Char} (hi : Skips v i) (r : List Char) :
    kept v (i ++ r) = spread i ++ kept v r := by
  rw [kept_eq_ignored v (i ++ r), ignored_skips hi, kept_eq_ignored v r]
  simp [spread]

/-- **Marks do not matter to what is no quantifier.** A quantifier takes its mark with it; but a
mark without a quantifier in front is a quantifier itself, and nothing else is lost with either. -/
theorem kept_quantifier {q : List Char} (hq : Quantifies q) (r : List Char) :
    kept v (q ++ r) = kept v r := by
  induction hn : r.length using Nat.strongRecOn generalizing q r with
  | ind n ih =>
    subst hn
    have hstep : kept v (q ++ r) = (marked v q r).1.kept ++ kept v (marked v q r).2 := by
      rw [kept, pieces_quantifier (hq.quantifier? r)]
      rfl
    rcases mark_cases v r with ⟨gap, c, r', hc, rfl⟩ | hgreedy
    · have hgap := skips_gapText gap
      have hshort : r'.length < (gapText gap ++ c :: r').length := by
        simp only [List.length_append, List.length_cons]
        omega
      have hmark : kept v (c :: r') = kept v r' := by
        rcases hc with rfl | rfl
        · exact ih _ hshort .optional r' rfl
        · exact ih _ hshort .plus r' rfl
      rw [kept_skips hgap, hmark, hstep]
      rcases hc with rfl | rfl
      · rw [marked_lazy hgap]
        rfl
      · rw [marked_possessive hgap]
        rfl
    · rw [hstep, marked_greedy (noMark_iff.mpr hgreedy)]
      rfl

/-! ## Characters that are read alone -/

/-- Whether a character is read as itself wherever it stands outside classes and ignored text. -/
def isInert (c : Char) : Bool :=
  isSolid c && !(c ∈ ['\\', '[', '\x7b', '*', '+', '?'])

theorem next_inert {c : Char} (h : isInert c = true) (r : List Char) :
    next v c r = (.plain c, r) := by
  simp only [isInert, Bool.and_eq_true, Bool.not_eq_true', decide_eq_false_iff_not, List.mem_cons,
    List.not_mem_nil, or_false, not_or] at h
  obtain ⟨hsolid, hescape, hclass, hbrace, hstar, hplus, hmark⟩ := h
  have hopen : c ≠ '(' := by
    rintro rfl
    exact absurd hsolid (by decide)
  exact next_plain hescape hclass (ignoredLength_solid hsolid r) (fun hp => absurd hp hopen)
    (quantifier?_eq_none hstar hplus hmark hbrace r)

theorem head_of_swap {s x : List Char} {c : Char} (h : swap v s = c :: x) : ∃ r, s = c :: r := by
  rcases s with _ | ⟨b, r⟩
  · exact absurd h (by simp)
  · obtain ⟨y, hy⟩ := next_swapped_head v b r
    rw [swap_cons, hy, List.cons_append, List.cons.injEq] at h
    exact ⟨r, by rw [h.1]⟩

/-- The swap makes no new run of such characters. -/
theorem exists_of_swap_eq_append {w s x : List Char} (hw : ∀ c ∈ w, isInert c = true)
    (h : swap v s = w ++ x) : ∃ r, s = w ++ r := by
  induction w generalizing s with
  | nil => exact ⟨s, rfl⟩
  | cons c w ih =>
    obtain ⟨r, rfl⟩ := head_of_swap h
    rw [swap_cons, next_inert (hw c List.mem_cons_self)] at h
    obtain ⟨r', rfl⟩ := ih (fun d hd => hw d (List.mem_cons_of_mem c hd)) (List.cons.inj h).2
    exact ⟨r', rfl⟩

theorem isInert_of_isDecimalDigit {c : Char} (h : Text.isDecimalDigit c = true) :
    isInert c = true := by
  have hne : ∀ d, Text.isDecimalDigit d = false → c ≠ d := by
    rintro d hd rfl
    exact absurd (hd.symm.trans h) (by simp)
  have hsolid : isSolid c = true := by
    simp [isSolid, Text.not_blank_of_isDecimalDigit h, hne '(' rfl, hne '#' rfl]
  simp [isInert, hsolid, hne '\\' rfl, hne '[' rfl, hne '\x7b' rfl, hne '*' rfl, hne '+' rfl,
    hne '?' rfl]

theorem Count.inert {w : List Char} (h : Count Text.isDecimalDigit w) :
    ∀ c ∈ w ++ ['\x7d'], isInert c = true := by
  have hdigits : ∀ {ds : List Char}, (∀ c ∈ ds, Text.isDecimalDigit c = true) →
      ∀ c ∈ ds, isInert c = true :=
    fun hds c hc => isInert_of_isDecimalDigit (hds c hc)
  intro c hc
  rw [List.mem_append, List.mem_singleton] at hc
  rcases hc with hc | rfl
  · cases h with
    | exactly _ hm => exact hdigits hm c hc
    | range _ hm hn =>
      rw [List.mem_append, List.mem_cons] at hc
      rcases hc with hc | rfl | hc
      · exact hdigits hm c hc
      · rfl
      · exact hdigits hn c hc
  · rfl

/-! ## The new text -/

/-- **Everything but quantifiers is read from the new text as from the old one.** -/
theorem kept_swap (v : Bool) (s : List Char) : kept v (swap v s) = kept v s := by
  obtain ⟨ps, hps⟩ := exists_reads v s
  induction hps with
  | nil => rw [swap_nil]
  | pair _ ih =>
    rw [swap_pair, kept_cons (next_pair v _ _), kept_cons (next_pair v _ _), ih]
  | hanging => rw [swap_hanging]
  | @ignored gap r _ _ _ _ ih =>
    have hgap := skips_gapText gap
    rw [swap_skips hgap, kept_skips hgap, kept_skips hgap, ih]
  | @unended gap i hi =>
    rw [swap_eq_ignored, ignored_unended hi gap, swap_nil, List.append_nil]
  | charClass k _ ih =>
    have hbody := classBody_append k
    rw [swap_class (hbody _), kept_cons (next_class (hbody _)), kept_cons (next_class (hbody _)),
      ih]
  | openClass hs =>
    rw [swap_class (classBody_open hs), swap_nil, List.append_nil]
  | @opener r _ hr _ ih =>
    have hr' : ∀ x, swap v r ≠ '#' :: x := by
      intro x hx
      obtain ⟨r', hr'⟩ := head_of_swap hx
      exact hr r' hr'
    rw [swap_opener_append hr, kept_cons (next_opener hr'), kept_cons (next_opener hr), ih]
  | @greedy q r _ hq hr _ ih =>
    calc
      _ = kept v (q ++ '?' :: swap v r) := by
        rw [swap_greedy (hq.quantifier? r) (noMark_iff.mpr hr)]
      _ = kept v (swap v r) := by
        rw [kept_quantifier hq]
        exact kept_quantifier .optional (swap v r)
      _ = _ := by rw [ih, kept_quantifier hq]
  | @lazy q r _ hq gap _ ih =>
    have hgap := skips_gapText gap
    calc
      _ = kept v (q ++ (gapText gap ++ swap v r)) := by rw [swap_lazy hgap (hq.quantifier? _)]
      _ = spread (gapText gap) ++ kept v r := by rw [kept_quantifier hq, kept_skips hgap, ih]
      _ = spread (gapText gap) ++ kept v ('?' :: r) := by
        rw [← kept_quantifier .optional r]
        rfl
      _ = _ := by rw [kept_quantifier hq, kept_skips hgap]
  | @possessive q r _ hq gap _ ih =>
    have hgap := skips_gapText gap
    have hplus : ∀ x, kept v ('+' :: x) = kept v x := kept_quantifier .plus
    rw [swap_possessive hgap (hq.quantifier? _), kept_quantifier hq, kept_quantifier hq,
      kept_skips hgap, kept_skips hgap, hplus, hplus, ih]
  | @plain c r _ hc hi hopen hbrace _ ih =>
    simp only [List.mem_cons, List.not_mem_nil, or_false, not_or] at hc
    obtain ⟨hescape, hclass, hquantifier⟩ := hc
    have hplain : c ∉ ['*', '+', '?'] := by simpa using hquantifier
    have h0 := notIgnored_iff.mp hi
    have hopen' : c = '(' → ∀ x, swap v r ≠ '?' :: x := by
      intro hp x hx
      obtain ⟨r', hr'⟩ := head_of_swap hx
      exact hopen hp r' hr'
    have h0' : ignoredLength v .nothing (c :: swap v r) = 0 := by
      by_cases hp : c = '('
      · subst hp
        exact ignoredLength_parenthesis fun x => hopen' rfl _
      · exact ignoredLength_eq_zero hp (not_blank_of_not_ignored h0)
    have hbrace' : c = '\x7b' →
        ∀ w x, Count Text.isDecimalDigit w → swap v r ≠ w ++ '\x7d' :: x := by
      intro hb w x hw hx
      rw [List.append_cons] at hx
      obtain ⟨r', rfl⟩ := exists_of_swap_eq_append hw.inert hx
      exact hbrace hb w r' hw (List.append_cons w _ r').symm
    have hnext := next_plain hescape hclass h0 hopen (quantifier?_plain hplain hbrace)
    have hnext' := next_plain hescape hclass h0' hopen' (quantifier?_plain hplain hbrace')
    rw [swap_cons, hnext, kept_cons hnext, ← ih]
    exact kept_cons hnext'

/-- **The swap does no harm to any text.** The text has one reading, and the new text stands to it
piece by piece as in `Rewritten`; so the two differ in question marks only. And the new text is read
into the same escapes, classes, openers, plain characters and ignored text, in the same order. -/
theorem swap_touches_marks_only (v : Bool) (s : List Char) :
    ∃ (ps : List Piece) (ts : List (List Char)), (∀ ps', Reads v s ps' ↔ ps' = ps) ∧
      List.Forall₂ Rewritten ps ts ∧ s = ps.flatMap Piece.text ∧ swap v s = ts.flatten ∧
      (swap v s).filter (· ≠ '?') = s.filter (· ≠ '?') ∧
      ∃ ps', Reads v (swap v s) ps' ∧ ps'.flatMap Piece.kept = ps.flatMap Piece.kept := by
  have hread : Reads v s (pieces v s) := reads_iff.mpr rfl
  refine ⟨pieces v s, (pieces v s).map fun p => p.swapped.text, fun ps' => ?_, hread.rewritten,
    (text_pieces v s).symm, ?_, swap_filter v s, pieces v (swap v s), reads_iff.mpr rfl,
    kept_swap v s⟩
  · rw [reads_iff]
    exact eq_comm
  · rw [swap, List.flatMap_def]

end SubstBot.PatternText
