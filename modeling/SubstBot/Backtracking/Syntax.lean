import SubstBot.Regex.Engine
import SubstBot.Text.CaseFold
import SubstBot.Text.DecimalDigit
import SubstBot.Text.WordChar

/-!
# `SubstBot/Backtracking/Syntax.lean` — query patterns as trees

The tree that a pattern text stands for. It is parameterized by how a group is referred to: as
written (by number or name, with the place of the reference) while the text is being read, and by
number once every reference is known to be good. Options do not appear in it: each node already
has the meaning that the options in force at its place give it.
-/

set_option autoImplicit false

namespace SubstBot.Regex.Options

/-- All options that are in force in either. -/
def union (a b : Options) : Options :=
  ⟨a.ignoreCase || b.ignoreCase, a.multiLine || b.multiLine, a.dotAll || b.dotAll,
    a.verbose || b.verbose⟩

/-- The options of the first that are not in the second. -/
def without (a b : Options) : Options :=
  ⟨a.ignoreCase && !b.ignoreCase, a.multiLine && !b.multiLine, a.dotAll && !b.dotAll,
    a.verbose && !b.verbose⟩

/-- The option that a letter in `(?…)` stands for. -/
def ofLetter? (c : Char) : Option Options :=
  if c = 'i' then some { ignoreCase := true }
  else if c = 'm' then some { multiLine := true }
  else if c = 's' then some { dotAll := true }
  else if c = 'x' then some { verbose := true }
  else if c = 'u' then some {}
  else none

end SubstBot.Regex.Options

namespace SubstBot.Backtracking

open Regex (Options)

/-! ## Tests of one character -/

/-- The classes that have an escape of their own. -/
inductive NamedClass where
  | digit
  | word
  | space
  deriving DecidableEq, Repr

def NamedClass.holds : NamedClass → Char → Bool
  | digit, c => Text.isDecimalDigit c
  | word, c => Text.isWordChar c
  | space, c => Text.isWhiteSpace c

/-- A part of a character set: the code points of a range, ends included, or a named class or its
complement. Ranges are of code points and not of characters, since an escape can name a code point
that is no character. -/
inductive Member where
  | range (first last : Nat)
  | named (which : NamedClass) (complement : Bool)
  deriving DecidableEq, Repr

def Member.holds : Member → Char → Bool
  | range first last, c => first ≤ c.toNat && c.toNat ≤ last
  | named which complement, c => which.holds c != complement

/-- A test of one character. -/
structure CharSet where
  members : List Member
  complement : Bool := false
  ignoreCase : Bool := false
  deriving DecidableEq, Repr

namespace CharSet

/-- Whether a character passes. Without regard to case it does if any of its variants is in the
set, and a complement is taken after that. -/
def holds (s : CharSet) (c : Char) : Bool :=
  (s.members.any (·.holds c) ||
    (s.ignoreCase && (Text.caseVariants c).any fun v => s.members.any (·.holds v)))
    != s.complement

def single (n : Nat) (ignoreCase : Bool) : CharSet :=
  { members := [.range n n], ignoreCase := ignoreCase }

def any : CharSet :=
  { members := [], complement := true }

def notLineFeed : CharSet :=
  { members := [.range 10 10], complement := true }

end CharSet

/-! ## Trees -/

/-- The places that a pattern can ask for without consuming anything. -/
inductive Anchor where
  /-- The start of the text. -/
  | start
  /-- The end of the text. -/
  | finish
  /-- The end of the text, or before a line feed that ends it. -/
  | lastLine
  /-- The start of the text, or after a line feed. -/
  | lineStart
  /-- The end of the text, or before a line feed. -/
  | lineEnd
  /-- Between a word character and something else. -/
  | boundary
  /-- Anywhere else. -/
  | inside
  deriving DecidableEq, Repr

/-- How many repetitions are preferred: as many as possible, as few as possible, or as many as
possible without ever giving one back. -/
inductive Greed where
  | greedy
  | minimal
  | possessive
  deriving DecidableEq, Repr

/-- A pattern, with groups referred to by `ρ`. -/
inductive Node (ρ : Type) where
  | empty
  | char (set : CharSet)
  | anchor (a : Anchor)
  | seq (first second : Node ρ)
  | alt (first second : Node ρ)
  | group (number : Nat) (body : Node ρ)
  | rep (greed : Greed) (least : Nat) (most : Option Nat) (body : Node ρ)
  | atomic (body : Node ρ)
  | look (behind positive : Bool) (body : Node ρ)
  | backref (ref : ρ) (ignoreCase : Bool)
  | cond (ref : ρ) (yes no : Node ρ)
  deriving Repr

namespace Node

/-- Whether a pattern has nothing in it, groups of nothing included. Repeating it is pointless. -/
def isEmpty {ρ : Type} : Node ρ → Bool
  | empty => true
  | seq a b => a.isEmpty && b.isEmpty
  | alt a b => a.isEmpty && b.isEmpty
  | group _ body => body.isEmpty
  | atomic body => body.isEmpty
  | _ => false

def concat {ρ : Type} : List (Node ρ) → Node ρ
  | [] => empty
  | [a] => a
  | a :: b :: r => seq a (concat (b :: r))

def refs {ρ : Type} : Node ρ → List ρ
  | seq a b => a.refs ++ b.refs
  | alt a b => a.refs ++ b.refs
  | group _ body => body.refs
  | rep _ _ _ body => body.refs
  | atomic body => body.refs
  | look _ _ body => body.refs
  | backref ref _ => [ref]
  | cond ref yes no => ref :: (yes.refs ++ no.refs)
  | _ => []

/-- The same pattern with each reference replaced, in the order of the text, until one cannot be. -/
def mapRefs {ρ τ ε : Type} (f : ρ → Except ε τ) : Node ρ → Except ε (Node τ)
  | empty => .ok empty
  | char set => .ok (char set)
  | anchor a => .ok (anchor a)
  | seq a b => do return seq (← a.mapRefs f) (← b.mapRefs f)
  | alt a b => do return alt (← a.mapRefs f) (← b.mapRefs f)
  | group number body => do return group number (← body.mapRefs f)
  | rep greed least most body => do return rep greed least most (← body.mapRefs f)
  | atomic body => do return atomic (← body.mapRefs f)
  | look behind positive body => do return look behind positive (← body.mapRefs f)
  | backref ref ignoreCase => do return backref (← f ref) ignoreCase
  | cond ref yes no => do
    let ref ← f ref
    return cond ref (← yes.mapRefs f) (← no.mapRefs f)

end Node

end SubstBot.Backtracking
