/-!
# `SubstBot/PatternText/Octal.lean` — octal escapes in a pattern

Under the octal flag, a backslash and up to three octal digits stand for the character with that
code, and never for a group. The pattern text is changed before it is read: each such escape becomes
the character itself, behind a backslash if it would otherwise mean something else.

A pattern is cut into **pieces** from left to right, a backslash always together with what it
escapes, and the change is made piece by piece. So what an escape yields is never looked at
again, and a digit after a complete escape is not drawn into it.
-/

set_option autoImplicit false

namespace SubstBot.PatternText.Octal

/-- An octal digit; only the ASCII ones count. -/
def isOctal (c : Char) : Bool :=
  '0' ≤ c && c ≤ '7'

/-- A piece of a pattern, as octal escapes see it. -/
inductive Piece where
  /-- A character that is no backslash. -/
  | plain (c : Char)
  /-- A backslash and a character that is no octal digit. -/
  | pair (c : Char)
  /-- A backslash and one to three octal digits. -/
  | octal (digits : List Char)
  /-- A backslash at the very end. -/
  | hanging
  deriving DecidableEq, Repr

namespace Piece

/-- The piece as it stands in the pattern. -/
def text : Piece → List Char
  | plain c => [c]
  | pair c => ['\\', c]
  | octal digits => '\\' :: digits
  | hanging => ['\\']

end Piece

def pieces : List Char → List Piece
  | [] => []
  | c :: r =>
    if c ≠ '\\' then .plain c :: pieces r
    else
      match r with
      | [] => [.hanging]
      | a :: r =>
        if !isOctal a then .pair a :: pieces r
        else
          match r with
          | [] => [.octal [a]]
          | b :: r' =>
            if !isOctal b then .octal [a] :: pieces (b :: r')
            else
              match r' with
              | [] => [.octal [a, b]]
              | d :: r'' =>
                if isOctal d then .octal [a, b, d] :: pieces r''
                else .octal [a, b] :: pieces (d :: r'')

def value (digits : List Char) : Nat :=
  digits.foldl (fun n d => n * 8 + (d.toNat - '0'.toNat)) 0

/-- Whether a character means something in a pattern, or would under the free-spacing flag, so
that a backslash is needed for it to stand for itself. -/
def isSpecial (c : Char) : Bool :=
  c ∈ ['(', ')', '[', ']', '\x7b', '\x7d', '?', '*', '+', '-', '|', '^', '$', '\\', '.', '&', '~',
    '#', ' ', '\t', '\n', '\r', '\x0b', '\x0c']

/-- A character written so that it stands for itself. -/
def literal (c : Char) : List Char :=
  if isSpecial c then ['\\', c] else [c]

/-- A text written so that it stands for itself. -/
def literalText (s : List Char) : List Char :=
  s.flatMap literal

/-- The piece with an octal escape replaced by its character. -/
def Piece.expanded : Piece → List Char
  | .octal digits => literal (Char.ofNat (value digits))
  | p => p.text

/-- The pattern with every octal escape replaced by its character. -/
def expand (s : List Char) : List Char :=
  (pieces s).flatMap Piece.expanded

theorem text_pieces (s : List Char) : (pieces s).flatMap Piece.text = s := by
  fun_induction pieces s <;> simp_all [Piece.text]

end SubstBot.PatternText.Octal
