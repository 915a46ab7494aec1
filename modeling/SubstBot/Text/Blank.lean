/-!
# `SubstBot/Text/Blank.lean` — blank characters and trimming

A message counts as empty when it holds nothing but blanks, a command is recognized after the
blanks around it are dropped, and a pattern under the free-spacing flag may be laid out with
blanks that mean nothing. All three use the one class below. It is wider than ASCII white space
and not the same as the `White_Space` property: the four separators U+001C to U+001F are in it.
-/

set_option autoImplicit false

namespace SubstBot.Text

/-- The 29 blank characters. Zero-width characters (U+200B, U+FEFF) and U+180E are not blank. -/
def isBlank (c : Char) : Bool :=
  let n := c.toNat
  (0x09 ≤ n && n ≤ 0x0D) || (0x1C ≤ n && n ≤ 0x20) || n == 0x85 || n == 0xA0 || n == 0x1680 ||
    (0x2000 ≤ n && n ≤ 0x200A) || n == 0x2028 || n == 0x2029 || n == 0x202F || n == 0x205F ||
    n == 0x3000

/-- The text without the blanks at its start. -/
def trimLeft (s : List Char) : List Char :=
  s.dropWhile isBlank

/-- The text without the blanks at its end. -/
def trimRight : List Char → List Char
  | [] => []
  | c :: r =>
    match trimRight r with
    | [] => if isBlank c then [] else [c]
    | d :: q => c :: d :: q

/-- The text without the blanks at either end. -/
def trim (s : List Char) : List Char :=
  trimRight (trimLeft s)

/-- A text that does not begin with a blank begins as before when it is trimmed. -/
theorem trim_cons {c : Char} (hc : isBlank c = false) (r : List Char) :
    ∃ q, trim (c :: r) = c :: q := by
  rw [trim, trimLeft, List.dropWhile_cons, hc]
  simp only [Bool.false_eq_true, if_false, trimRight, hc]
  cases trimRight r with
  | nil => exact ⟨[], rfl⟩
  | cons d q => exact ⟨d :: q, rfl⟩

/-- Nothing but blanks, or nothing at all. -/
def allBlank (s : List Char) : Bool :=
  s.all isBlank

end SubstBot.Text
