import SubstBot.PatternText.Greed

/-!
# `SubstBot/Proofs/PatternText/Syntax.lean` — well-formed patterns

The patterns that the swap of quantifiers is meant for, as trees. A tree is written down by `text`,
and the tree with greedy quantifiers made lazy and lazy ones greedy is `toggled`; neither knows of
the scan that works on the text.

Which characters may stand where depends on the free-spacing flag, so the types carry it: a
`Literal v` is no character that is ignored or means something under `v`. **What is well-formed is
said in the types**, and every tree can be written down.

A quantifier belongs to one atom. Ignored text may stand in front of it and between it and its mark;
behind a quantifier without a mark, ignored text is an item of its own. So a lazy quantifier that
becomes greedy leaves the ignored text in front of its mark behind (`Marking.released`).
-/

set_option autoImplicit false

namespace SubstBot.PatternText

/-! ## Characters and ignored text -/

/-- Whether a character stands for itself outside classes. -/
def isLiteral (v : Bool) (c : Char) : Bool :=
  !(c ∈ ['\\', '[', '(', ')', '\x7b', '*', '+', '?']) && !(v && (Text.isBlank c || c = '#'))

/-- A character that stands for itself outside classes. -/
abbrev Literal (v : Bool) : Type := { c : Char // isLiteral v c = true }

/-- A comment, or under the free-spacing flag a blank or a comment to the end of a line. -/
inductive Ignored (v : Bool) where
  | comment (body : List Char) (closed : ')' ∉ body)
  | blank (c : Char) (free : v = true) (blank : Text.isBlank c = true)
  | line (body : List Char) (free : v = true) (oneLine : '\n' ∉ body)

def Ignored.text {v : Bool} : Ignored v → List Char
  | comment body _ => '(' :: '?' :: '#' :: (body ++ [')'])
  | blank c _ _ => [c]
  | line body _ _ => '#' :: (body ++ ['\n'])

/-- Ignored text, one piece after another. -/
def gapText {v : Bool} (gap : List (Ignored v)) : List Char :=
  gap.flatMap Ignored.text

/-! ## Classes -/

/-- A member of a class: an escape, or a character that neither closes the class nor escapes. -/
inductive ClassMember where
  | pair (c : Char)
  | char (c : Char) (plain : c ≠ ']' ∧ c ≠ '\\')

def ClassMember.text : ClassMember → List Char
  | pair c => ['\\', c]
  | char c _ => [c]

/-- A class, perhaps with a caret that complements it, perhaps with a bracket as its first member.
A class has members, and the first one is no caret that would be taken for a complement. -/
structure CharClass where
  caret : Bool
  bracket : Bool
  members : List ClassMember
  nonempty : bracket = true ∨ members ≠ []
  noCaret : caret = false → bracket = false → ∀ h, members.head? ≠ some (.char '^' h)

def CharClass.body (k : CharClass) : List Char :=
  (if k.caret then ['^'] else []) ++ (if k.bracket then [']'] else []) ++
    (k.members.flatMap ClassMember.text ++ [']'])

/-! ## Quantifiers -/

abbrev Digits : Type := { ds : List Char // ds ≠ [] ∧ ∀ c ∈ ds, c.isDigit = true }

/-- A quantifier without its mark. -/
inductive Quantifier where
  | star
  | plus
  | optional
  | exactly (m : Digits)
  | atLeast (m : Digits)
  | between (m n : Digits)
  | atMost (n : Digits)

def Quantifier.text : Quantifier → List Char
  | star => ['*']
  | plus => ['+']
  | optional => ['?']
  | exactly m => '\x7b' :: (m.val ++ ['\x7d'])
  | atLeast m => '\x7b' :: (m.val ++ [',', '\x7d'])
  | between m n => '\x7b' :: (m.val ++ ',' :: (n.val ++ ['\x7d']))
  | atMost n => '\x7b' :: ',' :: (n.val ++ ['\x7d'])

/-- What follows a quantifier and belongs to it: nothing, or ignored text and a mark. -/
inductive Marking (v : Bool) where
  | greedy
  | lazy (gap : List (Ignored v))
  | possessive (gap : List (Ignored v))

namespace Marking

variable {v : Bool}

def text : Marking v → List Char
  | greedy => []
  | lazy gap => gapText gap ++ ['?']
  | possessive gap => gapText gap ++ ['+']

/-- Greedy for lazy and lazy for greedy. -/
def toggled : Marking v → Marking v
  | greedy => lazy []
  | lazy _ => greedy
  | possessive gap => possessive gap

/-- A lazy mark in front of the ignored text that it stood behind. -/
def settled : Marking v → Marking v
  | greedy => greedy
  | lazy _ => lazy []
  | possessive gap => possessive gap

/-- The ignored text that stands in front of a lazy mark, and belongs to no quantifier any more once
the mark is dropped or moved. -/
def released : Marking v → List (Ignored v)
  | lazy gap => gap
  | _ => []

end Marking

structure Repetition (v : Bool) where
  before : List (Ignored v)
  quantifier : Quantifier
  marking : Marking v

def Repetition.text {v : Bool} (q : Repetition v) : List Char :=
  gapText q.before ++ (q.quantifier.text ++ q.marking.text)

def Repetition.toggled {v : Bool} (q : Repetition v) : Repetition v :=
  { q with marking := q.marking.toggled }

def Repetition.settled {v : Bool} (q : Repetition v) : Repetition v :=
  { q with marking := q.marking.settled }

/-! ## Patterns -/

/-- What stands between the opening of a special group and its body: literals, at least one, and no
number sign at their start. -/
structure Header (v : Bool) where
  first : Literal v
  rest : List (Literal v)
  noComment : first.val ≠ '#'

def Header.text {v : Bool} (h : Header v) : List Char :=
  h.first.val :: h.rest.map Subtype.val

mutual

/-- What a quantifier can belong to. -/
inductive Atom (v : Bool) where
  | literal (c : Literal v)
  | pair (c : Char)
  | charClass (k : CharClass)
  | group (body : Items v)
  | special (header : Header v) (body : Items v)

/-- Atoms, each with a quantifier or without, and ignored text among them. -/
inductive Items (v : Bool) where
  | nil
  | ignored (i : Ignored v) (rest : Items v)
  | once (a : Atom v) (rest : Items v)
  | repeated (a : Atom v) (q : Repetition v) (rest : Items v)

end

/-- A whole pattern. Under the free-spacing flag its last line may end in a comment. -/
structure Pattern (v : Bool) where
  items : Items v
  lastLine : Option { body : List Char // v = true ∧ '\n' ∉ body }

/-! ## Writing down -/

mutual

def Atom.text {v : Bool} : Atom v → List Char
  | .literal c => [c.val]
  | .pair c => ['\\', c]
  | .charClass k => '[' :: k.body
  | .group body => '(' :: (body.text ++ [')'])
  | .special header body => '(' :: '?' :: (header.text ++ (body.text ++ [')']))

def Items.text {v : Bool} : Items v → List Char
  | .nil => []
  | .ignored i rest => i.text ++ rest.text
  | .once a rest => a.text ++ rest.text
  | .repeated a q rest => a.text ++ (q.text ++ rest.text)

end

/-- The comment on the last line, if there is one. -/
def Pattern.endText {v : Bool} (p : Pattern v) : List Char :=
  match p.lastLine with
  | none => []
  | some body => '#' :: body.val

def Pattern.text {v : Bool} (p : Pattern v) : List Char :=
  p.items.text ++ p.endText

/-! ## Toggling -/

def Items.behind {v : Bool} (gap : List (Ignored v)) (items : Items v) : Items v :=
  gap.foldr .ignored items

mutual

def Atom.toggled {v : Bool} : Atom v → Atom v
  | .group body => .group body.toggled
  | .special header body => .special header body.toggled
  | a => a

/-- The items with every quantifier toggled. -/
def Items.toggled {v : Bool} : Items v → Items v
  | .nil => .nil
  | .ignored i rest => .ignored i rest.toggled
  | .once a rest => .once a.toggled rest.toggled
  | .repeated a q rest => .repeated a.toggled q.toggled (.behind q.marking.released rest.toggled)

end

def Pattern.toggled {v : Bool} (p : Pattern v) : Pattern v :=
  { p with items := p.items.toggled }

/-! ## Marks behind their quantifiers -/

mutual

def Atom.settled {v : Bool} : Atom v → Atom v
  | .group body => .group body.settled
  | .special header body => .special header body.settled
  | a => a

/-- The items with the mark of every lazy quantifier moved in front of the ignored text. -/
def Items.settled {v : Bool} : Items v → Items v
  | .nil => .nil
  | .ignored i rest => .ignored i rest.settled
  | .once a rest => .once a.settled rest.settled
  | .repeated a q rest => .repeated a.settled q.settled (.behind q.marking.released rest.settled)

end

def Pattern.settled {v : Bool} (p : Pattern v) : Pattern v :=
  { p with items := p.items.settled }

end SubstBot.PatternText
