import SubstBot.Text.Blank

/-!
# `SubstBot/Text/Wrap.lean` — breaking console text into lines

Text for a person at a console is broken after blanks so that no line is wider than the console,
unless a single word is. The blanks at which a line is broken stay at its end, as far as they fit.
-/

set_option autoImplicit false

namespace SubstBot.Text

/-- A text cut behind each run of blanks: words with the blanks that follow them. `word` is the
word begun, last character first. -/
def wordsFrom (word : List Char) : List Char → List (List Char)
  | [] => if word.isEmpty then [] else [word.reverse]
  | c :: r =>
    match word with
    | b :: _ =>
      if isBlank b && !isBlank c then word.reverse :: wordsFrom [c] r else wordsFrom (c :: word) r
    | [] => wordsFrom [c] r

def words (s : List Char) : List (List Char) :=
  wordsFrom [] s

/-- Words put into lines. `line` is the line begun, and a word fits if it does without the blanks
after it. -/
def fill (width : Nat) (line : List Char) : List (List Char) → List (List Char)
  | [] => [line]
  | w :: ws =>
    if line.isEmpty || line.length + (trimRight w).length ≤ width then fill width (line ++ w) ws
    else line :: fill width w ws

def crop (width : Nat) (line : List Char) : List Char :=
  if line.length ≤ width then line
  else line.take (max width (trimRight line).length)

/-- The lines of a text on a console of a given width. -/
def wrap (width : Nat) (s : List Char) : List (List Char) :=
  (fill width [] (words s)).map (crop width)

end SubstBot.Text
