import SubstBot.Rule.Template

/-!
# `SubstBot/Proofs/Template/Marks.lean` — cutting a template into marks

One equation for each form in which a mark can be written: an escape, a reference in one of its
closed spellings, or any other character, each followed by an arbitrary text. That the text is
arbitrary is the point. No form looks at what follows it, so a cut through a template written from
these forms falls at every seam between them.
-/

set_option autoImplicit false

namespace SubstBot.Rule.Template

/-! ## Numbers -/

/-- ASCII digits are read as core reads them. -/
theorem readDigits_eq_ofDigitChars {ds : List Char} (h : ∀ c ∈ ds, c.isDigit = true) (acc : Nat) :
    Text.readDigits acc ds = Nat.ofDigitChars 10 ds acc := by
  induction ds generalizing acc with
  | nil => rw [Text.readDigits, Nat.ofDigitChars_nil]
  | cons c ds ih =>
    have hc : Text.digitValue? c = some (c.toNat - '0'.toNat) :=
      Text.digitValue?_of_isDigit (h c List.mem_cons_self)
    rw [Text.readDigits, Nat.ofDigitChars_cons, hc, Option.getD_some, Nat.mul_comm acc 10]
    exact ih (fun d hd => h d (List.mem_cons_of_mem c hd)) _

theorem isDigit_of_mem_toDigits {n : Nat} {c : Char} (h : c ∈ Nat.toDigits 10 n) :
    c.isDigit = true :=
  Nat.isDigit_of_mem_toDigits (by simp) (Nat.le_refl 10) h

theorem readDigits_toDigits (n : Nat) : Text.readDigits 0 (Nat.toDigits 10 n) = n := by
  rw [readDigits_eq_ofDigitChars fun c hc => isDigit_of_mem_toDigits hc]
  exact Nat.ofDigitChars_ten_toDigits

theorem isDecimalDigit_of_mem_toDigits {n : Nat} {c : Char} (h : c ∈ Nat.toDigits 10 n) :
    Text.isDecimalDigit c = true :=
  Text.isDecimalDigit_of_isDigit (isDigit_of_mem_toDigits h)

/-! ## Runs of digits -/

theorem digits?_of_not_digit {c : Char} (h : Text.isDecimalDigit c = false) (r : List Char) :
    digits? (c :: r) = none := by
  unfold digits?
  rw [List.takeWhile_cons, h]
  rfl

/-- A text that does not go on with a digit. -/
def NoDigit (s : List Char) : Prop :=
  ∀ c r, s = c :: r → Text.isDecimalDigit c = false

theorem NoDigit.nil : NoDigit [] := by
  intro c r h
  exact absurd h (by simp)

theorem NoDigit.cons {c : Char} (h : Text.isDecimalDigit c = false) (r : List Char) :
    NoDigit (c :: r) := by
  intro b s hb
  rw [List.cons.injEq] at hb
  rw [← hb.1]
  exact h

/-- All digits at the start of a text are taken. -/
theorem digits?_append {ds r : List Char} (hne : ds ≠ [])
    (hds : ∀ c ∈ ds, Text.isDecimalDigit c = true) (hr : NoDigit r) :
    digits? (ds ++ r) = some (ds, r) := by
  have htake : r.takeWhile Text.isDecimalDigit = [] := by
    cases r with
    | nil => rfl
    | cons c r => rw [List.takeWhile_cons, hr c r rfl]; rfl
  have hdrop : r.dropWhile Text.isDecimalDigit = r := by
    cases r with
    | nil => rfl
    | cons c r => rw [List.dropWhile_cons, hr c r rfl]; rfl
  rw [digits?, List.takeWhile_append_of_pos hds, List.dropWhile_append_of_pos hds, htake, hdrop,
    List.append_nil]
  cases ds with
  | nil => exact absurd rfl hne
  | cons d ds => rfl

theorem closedDigits?_append {close : Char} (hclose : Text.isDecimalDigit close = false)
    {ds : List Char} (hne : ds ≠ []) (hds : ∀ c ∈ ds, Text.isDecimalDigit c = true)
    (r : List Char) : closedDigits? close (ds ++ close :: r) = some (ds, r) := by
  rw [closedDigits?, digits?_append hne hds (.cons hclose r)]
  simp

/-! ## One mark in front of any text -/

@[simp] theorem marks_nil : marks [] = [] := by
  rw [marks]

theorem marks_cons (c : Char) (r : List Char) :
    marks (c :: r) = (next c r).1 :: marks (next c r).2 := by
  rw [marks]

/-- A character that begins no escape and no reference is itself. -/
theorem marks_plain {c : Char} (h1 : c ≠ '\\') (h2 : c ≠ '$') (t : List Char) :
    marks (c :: t) = .char c :: marks t := by
  have h : next c t = (.char c, t) := by
    rw [next, if_neg h1, if_neg h2]
    rfl
  rw [marks_cons, h]

theorem marks_backslash {s : List Char} {m : Mark} {t : List Char}
    (h : afterBackslash? s = some (m, t)) : marks ('\\' :: s) = m :: marks t := by
  have hn : next '\\' s = (m, t) := by
    rw [next, if_pos rfl, h]
    rfl
  rw [marks_cons, hn]

theorem marks_dollar {s : List Char} {m : Mark} {t : List Char}
    (h : afterDollar? s = some (m, t)) : marks ('$' :: s) = m :: marks t := by
  have hn : next '$' s = (m, t) := by
    rw [next, if_neg (by simp), if_pos rfl, h]
    rfl
  rw [marks_cons, hn]

theorem marks_escaped_backslash (t : List Char) :
    marks ('\\' :: '\\' :: t) = .char '\\' :: marks t := by
  apply marks_backslash
  rw [afterBackslash?, digits?_of_not_digit rfl]

theorem marks_escaped_slash (t : List Char) :
    marks ('\\' :: '/' :: t) = .char '/' :: marks t := by
  apply marks_backslash
  rw [afterBackslash?, digits?_of_not_digit rfl]

theorem marks_escaped_dollar (t : List Char) :
    marks ('$' :: '$' :: t) = .char '$' :: marks t := by
  apply marks_dollar
  rw [afterDollar?, digits?_of_not_digit rfl]

/-- A reference by digits alone takes all the digits there are. -/
theorem marks_digits {ds r : List Char} (hne : ds ≠ [])
    (hds : ∀ c ∈ ds, Text.isDecimalDigit c = true) (hr : NoDigit r) :
    marks ('$' :: (ds ++ r)) = .group ds :: marks r := by
  apply marks_dollar
  -- Which of its equations holds is decided by the digits, so none of them can be used yet.
  unfold afterDollar?
  rw [digits?_append hne hds hr]

theorem marks_braces {ds : List Char} (hne : ds ≠ [])
    (hds : ∀ c ∈ ds, Text.isDecimalDigit c = true) (t : List Char) :
    marks ('$' :: '\x7b' :: (ds ++ '\x7d' :: t)) = .group ds :: marks t := by
  apply marks_dollar
  rw [afterDollar?, digits?_of_not_digit rfl]
  simp only [closedDigits?_append (rfl : Text.isDecimalDigit '\x7d' = false) hne hds,
    Option.map_some]

theorem marks_angles {ds : List Char} (hne : ds ≠ [])
    (hds : ∀ c ∈ ds, Text.isDecimalDigit c = true) (t : List Char) :
    marks ('\\' :: 'g' :: '<' :: (ds ++ '>' :: t)) = .group ds :: marks t := by
  apply marks_backslash
  rw [afterBackslash?, digits?_of_not_digit rfl]
  simp only [closedDigits?_append (rfl : Text.isDecimalDigit '>' = false) hne hds,
    Option.map_some]

end SubstBot.Rule.Template
