/-!
# `SubstBot/Text/ControlSequence.lean` — what steers a terminal

Some sequences of characters are instructions to a terminal, to change a colour or to move: an escape
character, an opening bracket, parameters, and a letter for what is to be done. A text that goes
elsewhere goes without them.

They are dropped in one pass. **What then comes to stand together is not looked at again**, even where
it is such a sequence itself.
-/

set_option autoImplicit false

namespace SubstBot.Text

/-- The characters that the parameters of a control sequence are written with. -/
def isParameter (c : Char) : Bool :=
  c.isDigit || c == ';' || c == '?'

/-- What follows the control sequence at the start of a text, if there is one. -/
def afterControl? : List Char → Option (List Char)
  | '\x1b' :: '[' :: s =>
    match s.dropWhile isParameter with
    | c :: r => if c.isAlpha then some r else none
    | [] => none
  | _ => none

theorem afterControl?_lt {s r : List Char} (h : afterControl? s = some r) :
    r.length < s.length := by
  unfold afterControl? at h
  split at h
  · rename_i s
    have hle := (List.dropWhile_sublist isParameter (l := s)).length_le
    split at h
    · rename_i hd
      split at h
      · rw [hd, Option.some.inj h, List.length_cons] at hle
        simp only [List.length_cons]
        omega
      · simp at h
    · simp at h
  · simp at h

/-- The text without its control sequences. -/
def dropControls : List Char → List Char
  | [] => []
  | c :: s =>
    match _h : afterControl? (c :: s) with
    | some r => dropControls r
    | none => c :: dropControls s
termination_by s => s.length
decreasing_by
  · exact afterControl?_lt ‹_›
  · exact Nat.lt_succ_self _

end SubstBot.Text
