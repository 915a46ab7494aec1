import SubstBot.Text.DecimalDigit

/-!
# `SubstBot/Rule/Template.lean` — what a match is replaced by

A replacement is text with references to groups. `$N`, `\N`, `${N}` and `\g<N>` are references,
where `N` is a run of decimal digits of any script; `$$`, `\\`, `\/`, `\n` and `\t` are escapes.
Everything else is itself, a lone `$` or backslash included.

The text is cut into **marks**, each of them one character of the result or one reference, and
neighbouring characters are then joined. A number is read only up to a length; a longer one is an
error of its own, apart from those that a rule can be faulted for.
-/

set_option autoImplicit false

namespace SubstBot.Rule

inductive TemplateNode where
  | text (s : List Char)
  | index (n : Nat)
  deriving DecidableEq, Repr

abbrev Template := List TemplateNode

/-- A number with more digits than are read. -/
structure NumeralTooLong where
  digits : Nat
  deriving DecidableEq, Repr

/-- The most digits that a number may have, leading zeros included. -/
def numeralLimit : Nat := 4300

def NumeralTooLong.message (e : NumeralTooLong) : String :=
  "Exceeds the limit (" ++ toString numeralLimit ++
    " digits) for integer string conversion: value has " ++ toString e.digits ++
    " digits; use sys.set_int_max_str_digits() to increase the limit"

namespace Template

/-- A character of the result, or a reference by the digits of its number. -/
inductive Mark where
  | char (c : Char)
  | group (digits : List Char)
  deriving DecidableEq, Repr

/-- Digits at the start of a text, at least one, and what follows. -/
def digits? (s : List Char) : Option (List Char × List Char) :=
  match s.takeWhile Text.isDecimalDigit with
  | [] => none
  | d :: ds => some (d :: ds, s.dropWhile Text.isDecimalDigit)

/-- Digits and a closing character at the start of a text, and what follows. -/
def closedDigits? (close : Char) (s : List Char) : Option (List Char × List Char) :=
  match digits? s with
  | some (ds, c :: r) => if c = close then some (ds, r) else none
  | _ => none

/-- The mark after a backslash, and what follows; nothing if the backslash is itself. -/
def afterBackslash? (s : List Char) : Option (Mark × List Char) :=
  match digits? s with
  | some (ds, r) => some (.group ds, r)
  | none =>
    match s with
    | 'g' :: '<' :: r => (closedDigits? '>' r).map fun (ds, r) => (.group ds, r)
    | '\\' :: r => some (.char '\\', r)
    | '/' :: r => some (.char '/', r)
    | 'n' :: r => some (.char '\n', r)
    | 't' :: r => some (.char '\t', r)
    | _ => none

/-- The mark after a dollar sign, and what follows; nothing if the dollar sign is itself. -/
def afterDollar? (s : List Char) : Option (Mark × List Char) :=
  match digits? s with
  | some (ds, r) => some (.group ds, r)
  | none =>
    match s with
    | '\x7b' :: r => (closedDigits? '\x7d' r).map fun (ds, r) => (.group ds, r)
    | '$' :: r => some (.char '$', r)
    | _ => none

/-- The first mark of a text that is not empty, and what follows. -/
def next (c : Char) (r : List Char) : Mark × List Char :=
  (if c = '\\' then afterBackslash? r
    else if c = '$' then afterDollar? r
    else none).getD (.char c, r)

/-! ### Each mark takes something -/

theorem digits?_le {s ds r : List Char} (h : digits? s = some (ds, r)) : r.length ≤ s.length := by
  unfold digits? at h
  split at h
  · simp at h
  · simp only [Option.some.injEq, Prod.mk.injEq] at h
    rw [← h.2]
    exact (List.dropWhile_sublist _).length_le

theorem closedDigits?_le {close : Char} {s ds r : List Char}
    (h : closedDigits? close s = some (ds, r)) : r.length ≤ s.length := by
  unfold closedDigits? at h
  split at h
  · rename_i hd
    split at h
    · simp only [Option.some.injEq, Prod.mk.injEq] at h
      have := digits?_le hd
      rw [← h.2]
      simp only [List.length_cons] at this
      omega
    · simp at h
  · simp at h

theorem afterBackslash?_le {s r : List Char} {m : Mark} (h : afterBackslash? s = some (m, r)) :
    r.length ≤ s.length := by
  unfold afterBackslash? at h
  split at h
  · rename_i hd
    simp only [Option.some.injEq, Prod.mk.injEq] at h
    rw [← h.2]
    exact digits?_le hd
  · split at h
    · rw [Option.map_eq_some_iff] at h
      obtain ⟨⟨ds, r'⟩, hc, he⟩ := h
      simp only [Prod.mk.injEq] at he
      have := closedDigits?_le hc
      rw [← he.2]
      simp only [List.length_cons]
      omega
    all_goals simp_all

theorem afterDollar?_le {s r : List Char} {m : Mark} (h : afterDollar? s = some (m, r)) :
    r.length ≤ s.length := by
  unfold afterDollar? at h
  split at h
  · rename_i hd
    simp only [Option.some.injEq, Prod.mk.injEq] at h
    rw [← h.2]
    exact digits?_le hd
  · split at h
    · rw [Option.map_eq_some_iff] at h
      obtain ⟨⟨ds, r'⟩, hc, he⟩ := h
      simp only [Prod.mk.injEq] at he
      have := closedDigits?_le hc
      rw [← he.2]
      simp only [List.length_cons]
      omega
    all_goals simp_all

theorem next_lt (c : Char) (r : List Char) : (next c r).2.length < (c :: r).length := by
  unfold next
  split
  · cases h : afterBackslash? r with
    | none => simp
    | some p => have := afterBackslash?_le h; simp only [Option.getD_some, List.length_cons]; omega
  · split
    · cases h : afterDollar? r with
      | none => simp
      | some p => have := afterDollar?_le h; simp only [Option.getD_some, List.length_cons]; omega
    · simp

/-! ## Reading -/

def marks : List Char → List Mark
  | [] => []
  | c :: r => (next c r).1 :: marks (next c r).2
termination_by s => s.length
decreasing_by exact next_lt c r

/-- A template with one more character in front; it joins the text there, if there is some. -/
def pushChar (c : Char) : Template → Template
  | .text s :: t => .text (c :: s) :: t
  | t => .text [c] :: t

def ofMarks : List Mark → Except NumeralTooLong Template
  | [] => .ok []
  | .char c :: ms => (ofMarks ms).map (pushChar c)
  | .group ds :: ms =>
    if numeralLimit < ds.length then .error ⟨ds.length⟩
    else (ofMarks ms).map (.index (Text.readDigits 0 ds) :: ·)

def parse (s : List Char) : Except NumeralTooLong Template :=
  ofMarks (marks s)

/-- The text of a node, given what each group holds. -/
def renderNode (group : Nat → List Char) : TemplateNode → List Char
  | .text s => s
  | .index n => group n

/-- The text of a template, given what each group holds. What a group holds is not read again. -/
def render (group : Nat → List Char) (t : Template) : List Char :=
  t.flatMap (renderNode group)

end Template

end SubstBot.Rule
