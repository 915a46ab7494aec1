/-!
# `SubstBot/Text/Ranges.lean` — sets of code points as sorted ranges

The properties of characters that the program needs beyond ASCII are data of the Unicode
standard. Each is kept as a table of inclusive ranges in ascending order, and membership is a
binary search in it.
-/

set_option autoImplicit false

namespace SubstBot.Text

/-- Inclusive ranges of code points, ascending and disjoint. -/
abbrev Ranges := Array (Nat × Nat)

namespace Ranges

/-- Binary search for `n` among the ranges at positions `lo` to `hi - 1`. Each step at least
halves the gap, so the number of ranges bounds the number of steps. -/
def search (t : Ranges) (n : Nat) : (steps lo hi : Nat) → Bool
  | 0, _, _ => false
  | steps + 1, lo, hi =>
    if lo < hi then
      let mid := (lo + hi) / 2
      match t[mid]? with
      | none => false
      | some (first, last) =>
        if n < first then search t n steps lo mid
        else if last < n then search t n steps (mid + 1) hi
        else true
    else false

/-- Whether a character lies in one of the ranges. -/
def contains (t : Ranges) (c : Char) : Bool :=
  t.search c.toNat (t.size + 1) 0 t.size

end Ranges

end SubstBot.Text
