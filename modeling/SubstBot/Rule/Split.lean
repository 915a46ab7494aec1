/-!
# `SubstBot/Rule/Split.lean` — cutting a rule at its delimiters

A rule is cut into segments at delimiters that are not escaped. A delimiter is escaped by a
backslash that is not itself escaped, that is, by an odd run of backslashes in front of it. The
segments keep their backslashes: what they mean is for whoever reads the segment.
-/

set_option autoImplicit false

namespace SubstBot.Rule

/-- The text before and after the first delimiter that is not escaped; `escaped` tells whether the
first character is. -/
def splitFrom (delimiter : Char) (escaped : Bool) : List Char → Option (List Char × List Char)
  | [] => none
  | c :: r =>
    if c = delimiter && !escaped then some ([], r)
    else (splitFrom delimiter (c = '\\' && !escaped) r).map fun (head, tail) => (c :: head, tail)

/-- The text before and after the first delimiter that is not escaped. A delimiter that is not
exactly one character is found nowhere. -/
def split? (delimiter : List Char) (s : List Char) : Option (List Char × List Char) :=
  match delimiter with
  | [d] => splitFrom d false s
  | _ => none

end SubstBot.Rule
