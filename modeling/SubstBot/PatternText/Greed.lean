import SubstBot.Text.Blank
import SubstBot.Text.DecimalDigit

/-!
# `SubstBot/PatternText/Greed.lean` — swapping greedy and lazy quantifiers

Under the swap flag, a quantifier that would be greedy is lazy and the other way round. The pattern
text is changed before it is read: a greedy quantifier gains a `?` and a lazy one loses its `?`. A
possessive quantifier stays as it is.

The pattern is cut into **pieces** from left to right. A quantifier is one piece with its mark, and
with the text ignored between the two; every other piece is copied as it is. The cutting knows just
enough of patterns not to take for a quantifier what is none: escapes, character classes, comments,
the `?` of a group opener and, under the free-spacing flag, blanks and comments to the end of a
line.
-/

set_option autoImplicit false

namespace SubstBot.PatternText.Greed

/-! ## Ignored text -/

/-- Whether the text read so far ends inside a comment, and of which kind. -/
inductive Inside where
  | nothing
  | parentheses
  | line
  deriving DecidableEq, Repr

/-- The number of characters at the start of a text that are ignored: comments in parentheses and,
with `verbose`, blanks and comments to the end of a line. A comment that never ends takes all. -/
def ignoredLength (verbose : Bool) : Inside → List Char → Nat
  | _, [] => 0
  | .parentheses, c :: r =>
    ignoredLength verbose (if c = ')' then .nothing else .parentheses) r + 1
  | .line, c :: r => ignoredLength verbose (if c = '\n' then .nothing else .line) r + 1
  | .nothing, '(' :: '?' :: '#' :: r => ignoredLength verbose .parentheses r + 3
  | .nothing, c :: r =>
    if verbose && Text.isBlank c then ignoredLength verbose .nothing r + 1
    else if verbose && c = '#' then ignoredLength verbose .line r + 1
    else 0

def ignored (verbose : Bool) (s : List Char) : List Char × List Char :=
  let n := ignoredLength verbose .nothing s
  (s.take n, s.drop n)

/-! ## Character classes -/

/-- The members of a class through the closing bracket, and what follows. A class that is not
closed takes all. -/
def classMembers : List Char → List Char × List Char
  | [] => ([], [])
  | '\\' :: c :: r => let (m, rest) := classMembers r; ('\\' :: c :: m, rest)
  | c :: r =>
    if c = ']' then ([c], r)
    else let (m, rest) := classMembers r; (c :: m, rest)

/-- One given character at the start of a text, if it stands there, and what follows. -/
def leading (d : Char) : List Char → List Char × List Char
  | [] => ([], [])
  | c :: r => if c = d then ([c], r) else ([], c :: r)

/-- A class after its opening bracket: a `]` at once, or after a `^`, is a member. -/
def classBody (s : List Char) : List Char × List Char :=
  let caret := leading '^' s
  let bracket := leading ']' caret.2
  let members := classMembers bracket.2
  (caret.1 ++ bracket.1 ++ members.1, members.2)

/-! ## Quantifiers -/

def digits (s : List Char) : List Char × List Char :=
  (s.takeWhile Text.isDecimalDigit, s.dropWhile Text.isDecimalDigit)

/-- Counts in braces, after the opening one: digits of any script, a comma between or before or
after them, and the closing brace. -/
def braces? (s : List Char) : Option (List Char × List Char) :=
  match digits s with
  | (least, '\x7d' :: r) => if least = [] then none else some (least ++ ['\x7d'], r)
  | (least, ',' :: r) =>
    match digits r with
    | (most, '\x7d' :: r) =>
      if least = [] ∧ most = [] then none else some (least ++ ',' :: most ++ ['\x7d'], r)
    | _ => none
  | _ => none

/-- The quantifier at the start of a text, without its mark, and what follows. -/
def quantifier? : List Char → Option (List Char × List Char)
  | [] => none
  | c :: r =>
    if c = '*' || c = '+' || c = '?' then some ([c], r)
    else if c = '\x7b' then (braces? r).map fun (m, rest) => (c :: m, rest)
    else none

inductive Mark where
  | greedy
  | lazy
  | possessive
  deriving DecidableEq, Repr

def Mark.text : Mark → List Char
  | greedy => []
  | lazy => ['?']
  | possessive => ['+']

/-- Greedy for lazy and lazy for greedy. -/
def Mark.swapped : Mark → Mark
  | greedy => lazy
  | lazy => greedy
  | possessive => possessive

/-! ## Pieces -/

/-- A piece of a pattern, as quantifiers see it. -/
inductive Piece where
  /-- A character that is nothing of the below. -/
  | plain (c : Char)
  /-- A backslash and the character after it. -/
  | pair (c : Char)
  /-- A backslash at the very end. -/
  | hanging
  /-- A class, after its opening bracket. -/
  | charClass (body : List Char)
  /-- Ignored text. -/
  | ignored (s : List Char)
  /-- The opening of a special group. -/
  | opener
  /-- A quantifier and its mark, with the ignored text that stands in front of the mark. -/
  | quantifier (q gap : List Char) (mark : Mark)
  deriving DecidableEq, Repr

namespace Piece

/-- The piece as it stands in the pattern. Ignored text after a quantifier without a mark is not
part of the quantifier. -/
def text : Piece → List Char
  | plain c => [c]
  | pair c => ['\\', c]
  | hanging => ['\\']
  | charClass body => '[' :: body
  | ignored s => s
  | opener => ['(', '?']
  | quantifier q gap mark => q ++ gap ++ mark.text

def swapped : Piece → Piece
  | quantifier q gap mark => quantifier q gap mark.swapped
  | p => p

end Piece

/-- A quantifier with the mark that follows it, and the rest. -/
def marked (verbose : Bool) (q rest : List Char) : Piece × List Char :=
  match ignored verbose rest with
  | (gap, '?' :: r) => (.quantifier q gap .lazy, r)
  | (gap, '+' :: r) => (.quantifier q gap .possessive, r)
  | _ => (.quantifier q [] .greedy, rest)

/-- The first piece of a text that is not empty, and the rest. -/
def next (verbose : Bool) (c : Char) (r : List Char) : Piece × List Char :=
  if c = '\\' then
    match r with
    | [] => (.hanging, [])
    | d :: r => (.pair d, r)
  else
    match ignored verbose (c :: r) with
    | (i :: is, rest) => (.ignored (i :: is), rest)
    | ([], _) =>
      if c = '[' then
        (.charClass (classBody r).1, (classBody r).2)
      else
        match c, r with
        | '(', '?' :: r => (.opener, r)
        | c, r =>
          match quantifier? (c :: r) with
          | some (q, rest) => marked verbose q rest
          | none => (.plain c, r)

/-! ### Each piece takes something -/

theorem classMembers_text (s : List Char) :
    (classMembers s).1 ++ (classMembers s).2 = s := by
  fun_induction classMembers s <;> simp_all

theorem leading_text (d : Char) (s : List Char) : (leading d s).1 ++ (leading d s).2 = s := by
  cases s with
  | nil => rfl
  | cons c r => by_cases h : c = d <;> simp [leading, h]

theorem classBody_text (s : List Char) : (classBody s).1 ++ (classBody s).2 = s := by
  simp only [classBody, List.append_assoc, classMembers_text, leading_text]

theorem ignored_text (verbose : Bool) (s : List Char) :
    (ignored verbose s).1 ++ (ignored verbose s).2 = s :=
  List.take_append_drop _ s

theorem digits_text {s ds r : List Char} (h : digits s = (ds, r)) : ds ++ r = s := by
  simp only [digits, Prod.mk.injEq] at h
  rw [← h.1, ← h.2, List.takeWhile_append_dropWhile]

theorem braces?_text {s m rest : List Char} (h : braces? s = some (m, rest)) : m ++ rest = s := by
  unfold braces? at h
  split at h
  · rename_i hs
    split at h
    · simp at h
    · simp only [Option.some.injEq, Prod.mk.injEq] at h
      obtain ⟨rfl, rfl⟩ := h
      rw [← digits_text hs]; simp
  · rename_i hs
    split at h
    · rename_i hr
      split at h
      · simp at h
      · simp only [Option.some.injEq, Prod.mk.injEq] at h
        obtain ⟨rfl, rfl⟩ := h
        rw [← digits_text hs, ← digits_text hr]; simp
    · simp at h
  · simp at h

theorem quantifier?_text {s q rest : List Char} (h : quantifier? s = some (q, rest)) :
    q ++ rest = s ∧ q ≠ [] := by
  unfold quantifier? at h
  split at h
  · simp at h
  · rename_i c r
    split at h
    · simp only [Option.some.injEq, Prod.mk.injEq] at h
      obtain ⟨rfl, rfl⟩ := h
      simp
    · split at h
      · rw [Option.map_eq_some_iff] at h
        obtain ⟨⟨m, rest'⟩, hb, he⟩ := h
        simp only [Prod.mk.injEq] at he
        obtain ⟨rfl, rfl⟩ := he
        simp [braces?_text hb]
      · simp at h

theorem marked_text (verbose : Bool) (q rest : List Char) :
    (marked verbose q rest).1.text ++ (marked verbose q rest).2 = q ++ rest := by
  have h := ignored_text verbose rest
  unfold marked
  split
  · rename_i hr; rw [hr] at h; simp [Piece.text, Mark.text, ← h]
  · rename_i hr; rw [hr] at h; simp [Piece.text, Mark.text, ← h]
  · simp [Piece.text, Mark.text]

theorem next_text (verbose : Bool) (c : Char) (r : List Char) :
    (next verbose c r).1.text ++ (next verbose c r).2 = c :: r := by
  unfold next
  split
  · split <;> simp_all [Piece.text]
  · have h := ignored_text verbose (c :: r)
    split
    · simp_all [Piece.text]
    · split
      · simp_all [Piece.text, classBody_text]
      · split
        · simp_all [Piece.text]
        · split
          · rename_i hq
            rw [marked_text]
            exact (quantifier?_text hq).1
          · simp [Piece.text]

theorem marked_ne_nil (verbose : Bool) {q : List Char} (rest : List Char) (h : q ≠ []) :
    (marked verbose q rest).1.text ≠ [] := by
  unfold marked
  split <;> simp [Piece.text, h]

theorem next_ne_nil (verbose : Bool) (c : Char) (r : List Char) :
    (next verbose c r).1.text ≠ [] := by
  unfold next
  split
  · split <;> simp [Piece.text]
  · split
    · simp [Piece.text]
    · split
      · simp [Piece.text]
      · split
        · simp [Piece.text]
        · split
          · rename_i hq
            exact marked_ne_nil verbose _ (quantifier?_text hq).2
          · simp [Piece.text]

theorem next_lt (verbose : Bool) (c : Char) (r : List Char) :
    (next verbose c r).2.length < (c :: r).length := by
  have h := congrArg List.length (next_text verbose c r)
  have hn := List.length_pos_iff.2 (next_ne_nil verbose c r)
  rw [List.length_append] at h
  omega

/-! ## Swapping -/

def pieces (verbose : Bool) : List Char → List Piece
  | [] => []
  | c :: r => (next verbose c r).1 :: pieces verbose (next verbose c r).2
termination_by s => s.length
decreasing_by exact next_lt verbose c r

/-- The pattern with greedy quantifiers made lazy and lazy ones greedy. -/
def swap (verbose : Bool) (s : List Char) : List Char :=
  (pieces verbose s).flatMap fun p => p.swapped.text

theorem text_pieces (verbose : Bool) (s : List Char) :
    (pieces verbose s).flatMap Piece.text = s := by
  fun_induction pieces verbose s with
  | case1 => rfl
  | case2 c r ih => rw [List.flatMap_cons, ih, next_text]

end SubstBot.PatternText.Greed
