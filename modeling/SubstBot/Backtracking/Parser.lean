import SubstBot.Backtracking.Reader

/-!
# `SubstBot/Backtracking/Parser.lean` — from pattern text to tree

A recursive descent over the text. Each function that can call itself takes a bound on the depth
of the calls, which `Pattern.parse` sets from the length of the text: every call but a fixed few
per parenthesis comes after a character has been read.

References to groups are checked only after the whole text has been read, in the order of the
text, since a group may be referred to before it is met.
-/

set_option autoImplicit false

namespace SubstBot.Backtracking

open Reader
open Regex (Options)

/-! ## Escapes -/

/-- What an escape stands for. -/
inductive Escape where
  | point (n : Nat)
  | named (which : NamedClass) (complement : Bool)
  | anchor (a : Anchor)
  | group (ref : Ref)

def isOctal (c : Char) : Bool :=
  '0' ≤ c && c ≤ '7'

def hexValue? (c : Char) : Option Nat :=
  if c.isDigit then some (c.toNat - '0'.toNat)
  else if 'a' ≤ c && c ≤ 'f' then some (c.toNat - 'a'.toNat + 10)
  else if 'A' ≤ c && c ≤ 'F' then some (c.toNat - 'A'.toNat + 10)
  else none

def octalValue (ds : List Char) : Nat :=
  ds.foldl (fun n d => n * 8 + (d.toNat - '0'.toNat)) 0

/-- The rest of a hexadecimal escape: exactly `count` digits. -/
def hexEscape (letter : Char) (start : Nat) : (count value : Nat) → (read : List Char) → Read Escape
  | 0, value, read =>
    if value < 0x110000 then return .point value
    else failAt (.badHexEscape (letter :: read.reverse)) start
  | count + 1, value, read => do
    match ← next? with
    | none => failAt (.incompleteEscape (letter :: read.reverse)) start
    | some d =>
      match hexValue? d with
      | none => failAt (.incompleteEscape (letter :: read.reverse)) start
      | some v => hexEscape letter start count (value * 16 + v) (d :: read)

/-- The next character if it has property `p`; otherwise nothing is read. -/
def nextIf? (p : Char → Bool) : Read (Option Char) := do
  let before ← get
  match ← next? with
  | some c => if p c then return some c else backTo before; return none
  | none => backTo before; return none

/-- The rest of an octal escape: up to two more digits. -/
def octalEscape (first : Char) : Read Escape := do
  if !isOctal first then fail (.badEscape first)
  let second ← nextIf? isOctal
  let third ← if second.isSome then nextIf? isOctal else pure none
  return .point (octalValue (first :: (second.toList ++ third.toList)))

/-- A reference by number, unless three octal digits make it an octal escape. A group that is
still open cannot be referred to. -/
def numberEscape (first : Char) : Read Escape := do
  let second ← nextIf? Char.isDigit
  let digits := first :: second.toList
  if second.isSome && digits.all isOctal then
    if let some third ← nextIf? isOctal then
      return .point (octalValue (digits ++ [third]) % 0x200)
  let n := digits.foldl (fun n d => n * 10 + (d.toNat - '0'.toNat)) 0
  let r ← get
  if r.opened.contains n then fail .openGroupReference
  return .group (.number n r.position)

def anchorOf? (c : Char) : Option Anchor :=
  if c = 'A' then some .start
  else if c = 'Z' then some .finish
  else if c = 'b' then some .boundary
  else if c = 'B' then some .inside
  else none

def classOf? (c : Char) : Option (NamedClass × Bool) :=
  if c = 'd' then some (.digit, false)
  else if c = 'D' then some (.digit, true)
  else if c = 'w' then some (.word, false)
  else if c = 'W' then some (.word, true)
  else if c = 's' then some (.space, false)
  else if c = 'S' then some (.space, true)
  else none

def controlOf? (c : Char) : Option Nat :=
  if c = 'a' then some 7
  else if c = 'b' then some 8
  else if c = 't' then some 9
  else if c = 'n' then some 10
  else if c = 'v' then some 11
  else if c = 'f' then some 12
  else if c = 'r' then some 13
  else none

def hexLength? (c : Char) : Option Nat :=
  if c = 'x' then some 2 else if c = 'u' then some 4 else if c = 'U' then some 8 else none

def escape (inSet : Bool) : Read Escape := do
  match ← nextRaw? with
  | none => fail .endInEscape
  | some c =>
    if let some count := hexLength? c then
      hexEscape c (← get).position count 0 []
    else if c.isAlpha then
      match (if inSet then none else anchorOf? c), classOf? c, controlOf? c with
      | some a, _, _ => return .anchor a
      | none, some (which, complement), _ => return .named which complement
      | none, none, some n => return .point n
      | none, none, none => fail (.badEscape c)
    else if c.isDigit then
      if inSet || c = '0' then octalEscape c else numberEscape c
    else return .point c.toNat

/-! ## Character sets -/

/-- One item of a set: a code point, which may start a range, or a class. -/
def setItem : Read (Nat ⊕ Member) := do
  match ← nextRaw? with
  | none => fail .unterminatedSet
  | some '\\' =>
    match ← escape true with
    | .named which complement => return .inr (.named which complement)
    | .point n => return .inl n
    | .anchor _ => fail .unterminatedSet
    | .group _ => fail .unterminatedSet
  | some c => return .inl c.toNat

/-- One member of a set. A hyphen makes a range if code points stand on both sides of it. -/
def setMember : Read (List Member) := do
  match ← setItem with
  | .inr m => return [m]
  | .inl first =>
    let single := Member.range first first
    let hyphen := Member.range '-'.toNat '-'.toNat
    if !(← accept '-') then return [single]
    let before ← get
    if ← accept ']' then
      backTo before
      return [single, hyphen]
    match ← setItem with
    | .inr m => return [single, hyphen, m]
    | .inl last =>
      if last < first then fail .badRange
      return [.range first last]

/-- The members up to the closing bracket. -/
def setMembers : (bound : Nat) → (found : List Member) → Read (List Member)
  | 0, _ => fail .unterminatedSet
  | bound + 1, found => do
    if ← accept ']' then return found
    setMembers bound (found ++ (← setMember))

/-- What follows an opening bracket. A bracket that would close the set at once is a member. -/
def charSet : Read CharSet := do
  let ignoreCase := (← get).options.ignoreCase
  verbatim do
    let complement ← accept '^'
    let first ← setMember
    let members ← setMembers ((← get).rest.length + 1) first
    return { members, complement, ignoreCase }

/-! ## Quantifiers -/

/-- The largest repeat count is one below this. -/
def countLimit : Nat := 0xFFFFFFFF

/-- The counts in braces after the opening one, or nothing if the text is not such. -/
def braceCounts? : Read (Option (Nat × Option Nat)) := do
  let start ← get
  let number (ds : List Char) : Nat := ds.foldl (fun n d => n * 10 + (d.toNat - '0'.toNat)) 0
  let leastDigits ← many Char.isDigit
  let comma ← accept ','
  let mostDigits ← if comma then many Char.isDigit else pure leastDigits
  let closed ← accept '}'
  if !closed || (leastDigits.isEmpty && mostDigits.isEmpty) then
    backTo start
    return none
  let least := number leastDigits
  let most := if mostDigits.isEmpty then none else some (number mostDigits)
  if most.any (· < least) then failAt .leastAboveMost start.position
  if countLimit ≤ least || most.any (countLimit ≤ ·) then failAt .countTooBig start.position
  return some (least, most)

/-- The counts of the quantifier that starts with `c`, if one does. -/
def quantifier? (c : Char) : Read (Option (Nat × Option Nat)) := do
  if c = '*' then return some (0, none)
  else if c = '+' then return some (1, none)
  else if c = '?' then return some (0, some 1)
  else if c = '\x7b' then braceCounts?
  else return none

def greed : Read Greed := do
  if ← accept '?' then return .minimal
  if ← accept '+' then return .possessive
  return .greedy

/-- A quantifier applied to what stands before it. What is empty, and what is to occur exactly
once, stays as it is. -/
def repeated (body : Node Ref) (counts : Nat × Option Nat) : Read (Node Ref) := do
  let g ← greed
  if body.isEmpty || counts = (1, some 1) then return body
  return .rep g counts.1 counts.2 body

/-! ## Groups -/

/-- The name or number of a group, up to the character that closes it. -/
def groupName (numberAllowed : Bool) : Read (List Char) := do
  let name ← many fun c => c != ')' && c != '>'
  if name.isEmpty then fail .missingGroupName
  if name.all Text.isDecimalDigit then
    if !numberAllowed || Text.readDigits 0 name = 0 then fail .badGroupName
  else if !(name.all Text.isWordChar) || name.head?.any Text.isDecimalDigit then
    fail .badGroupName
  return name

/-- A reference by what `groupName` read. -/
def refOf (name : List Char) (position : Nat) : Ref :=
  if name.all Text.isDecimalDigit then .number (Text.readDigits 0 name) position
  else .name name position

def isOpen (ref : Ref) (r : Reader) : Bool :=
  match ref with
  | .number n _ => r.opened.contains n
  | .name s _ => (r.names.lookup s).any r.opened.contains

/-- A run of option letters; letters that are none stay unread. -/
def optionLetters : (bound : Nat) → (found : Options) → Read Options
  | 0, found => return found
  | bound + 1, found => do
    let before ← get
    match (← next?).bind Options.ofLetter? with
    | some o => optionLetters bound (found.union o)
    | none =>
      backTo before
      return found

/-- The options after `(?`: those turned on and those turned off. -/
def optionChange : Read (Options × Options) := do
  let bound := (← get).rest.length
  let on ← optionLetters bound {}
  if ← accept '-' then
    let before := (← get).position
    let off ← optionLetters bound {}
    if (← get).position = before then fail .noOptionTurnedOff
    return (on, off)
  return (on, {})

/-- Options for the whole pattern. If one of them is new, reading starts again with it. -/
def wholeOptions (on off : Options) : Read Unit := do
  if off ≠ {} then fail .optionTurnedOff
  let r ← get
  let whole := r.whole.union on
  if whole ≠ r.whole then throw (.restart whole)
  modify fun r => { r with skipping := r.options.verbose }

/-- The rest of a comment, through its closing parenthesis. A backslash keeps the character after
it from closing the comment. -/
def comment : (bound : Nat) → Read Unit
  | 0 => expect ')'
  | bound + 1 => do
    let before ← get
    match ← nextRaw? with
    | none =>
      backTo before
      expect ')'
    | some ')' =>
      return ()
    | some '\\' =>
      let _ ← nextRaw?
      comment bound
    | some _ => comment bound

def caret (o : Options) : Anchor :=
  if o.multiLine then .lineStart else .start

def dollar (o : Options) : Anchor :=
  if o.multiLine then .lineEnd else .lastLine

def dot (o : Options) : CharSet :=
  if o.dotAll then .any else .notLineFeed

def ofEscape (o : Options) : Escape → Node Ref
  | .point n => .char (.single n o.ignoreCase)
  | .named which complement => .char { members := [.named which complement] }
  | .anchor a => .anchor a
  | .group ref => .backref ref o.ignoreCase

/-- The pattern of what has been read of a sequence, last first. -/
def sequenceOf (items : List (Option (Node Ref))) : Node Ref :=
  Node.concat (items.reverse.filterMap id)

/-! ## Patterns -/

mutual

def alternatives : Nat → Read (Node Ref)
  | 0 => fail .unbalancedParenthesis
  | bound + 1 => do
    let first ← sequence bound [none]
    if ← accept '|' then return .alt first (← alternatives bound)
    return first

/-- The rest of a sequence. `items` holds what has been read, last first; `none` marks a place
where nothing can be repeated, at the start and after a quantifier. -/
def sequence : Nat → (items : List (Option (Node Ref))) → Read (Node Ref)
  | 0, _ => fail .unbalancedParenthesis
  | bound + 1, items => do
    let before ← get
    let o := before.options
    match ← next? with
    | none =>
      backTo before
      return sequenceOf items
    | some c =>
      if c = ')' || c = '|' then
        backTo before
        return sequenceOf items
      else if c = '\\' then
        sequence bound (some (ofEscape o (← escape false)) :: items)
      else if c = '(' then
        match ← parenthesis bound with
        | none => sequence bound items
        | some a => sequence bound (some a :: items)
      else if c = '.' then
        sequence bound (some (.char (dot o)) :: items)
      else if c = '[' then
        sequence bound (some (.char (← charSet)) :: items)
      else if c = '^' then
        sequence bound (some (.anchor (caret o)) :: items)
      else if c = '$' then
        sequence bound (some (.anchor (dollar o)) :: items)
      else
        match ← quantifier? c with
        | none => sequence bound (some (.char (.single c.toNat o.ignoreCase)) :: items)
        | some counts =>
          match items with
          | some a :: items => sequence bound (none :: some (← repeated a counts) :: items)
          | none :: _ :: _ => failAt .multipleRepeat before.position
          | _ => failAt .nothingToRepeat before.position

/-- What follows an opening parenthesis: a group of some kind, or nothing where it only sets
options or is a comment. -/
def parenthesis : Nat → Read (Option (Node Ref))
  | 0 => fail .unbalancedParenthesis
  | bound + 1 => do
    let before ← get
    if (← nextRaw?) = some '?' then
      let inner ← get
      let o := inner.options
      match ← nextRaw? with
      | some '<' =>
        let behind ← get
        match ← next? with
        | some '=' => return some (.look true true (← closed bound o))
        | some '!' => return some (.look true false (← closed bound o))
        | _ =>
          backTo behind
          return some (← namedGroup bound)
      | some '=' => return some (.look false true (← closed bound o))
      | some '!' => return some (.look false false (← closed bound o))
      | some '>' => return some (.atomic (← closed bound o))
      | some '#' =>
        comment inner.rest.length
        return none
      | some 'P' =>
        let place ← get
        match ← next? with
        | some '<' => return some (← namedGroup bound)
        | some '=' =>
          let ref := refOf (← groupName true) place.position
          expect ')'
          if isOpen ref (← get) then failAt .openGroupReference place.position
          return some (.backref ref o.ignoreCase)
        | _ => failAt .unknownExtension place.position
      | some '(' => return some (← conditional bound)
      | _ =>
        backTo inner
        let (on, off) ← optionChange
        if (on.without off) ≠ on then fail .optionOnAndOff
        if ← accept ':' then
          return some (← closed bound ((o.union on).without off))
        if ← accept ')' then
          wholeOptions on off
          return none
        fail .unknownExtension
    else
      backTo before
      let n ← openGroup none
      let body ← closed bound before.options
      closeGroup
      return some (.group n body)

/-- Alternatives under given options, and the closing parenthesis. -/
def closed : Nat → Options → Read (Node Ref)
  | 0, _ => fail .unbalancedParenthesis
  | bound + 1, o =>
    within o do
      let body ← alternatives bound
      expect ')'
      return body

/-- A group with a name, from its name on. -/
def namedGroup : Nat → Read (Node Ref)
  | 0 => fail .unbalancedParenthesis
  | bound + 1 => do
    let name ← groupName false
    let n ← openGroup (some name)
    expect '>'
    let body ← closed bound (← get).options
    closeGroup
    return .group n body

/-- A pattern that depends on whether a group took part, from the group's name on. -/
def conditional : Nat → Read (Node Ref)
  | 0 => fail .unbalancedParenthesis
  | bound + 1 => do
    let place := (← get).position
    let ref := refOf (← groupName true) place
    expect ')'
    within (← get).options do
      let yes ← sequence bound [none]
      let no ← if ← accept '|' then sequence bound [none] else pure .empty
      expect ')'
      if yes.isEmpty && no.isEmpty then return .empty
      return .cond ref yes no

end

/-! ## Whole patterns -/

/-- A pattern that has been read: its text, its tree and the number of its groups. -/
structure Pattern where
  source : List Char
  node : Node Nat
  groups : Nat

namespace Pattern

def resolve (groups : Nat) (names : List (List Char × Nat)) :
    Ref → Except (Cause × Nat) Nat
  | .number n position =>
    if 1 ≤ n && n ≤ groups then .ok n else .error (.invalidGroupReference, position)
  | .name s position =>
    match names.lookup s with
    | some n => .ok n
    | none => .error (.unknownGroup, position)

/-- Read the whole text once under options for the whole pattern. -/
def parseOnce (text : List Char) (whole : Options) : Except Halt Pattern := do
  let start : Reader := { rest := text, skipping := whole.verbose, options := whole, whole }
  let (node, r) ← (alternatives (4 * text.length + 8)).run start
  if !r.skip.rest.isEmpty then throw (.error .unbalancedParenthesis r.position)
  match node.mapRefs (resolve r.groups r.names) with
  | .ok node => return { source := text, node, groups := r.groups }
  | .error (cause, position) => throw (.error cause position)

/-- Read the text, again after each discovery of an option that holds for the whole of it. There
are four options, so four new starts are enough. -/
def parseUnder (text : List Char) : (starts : Nat) → Options → Except Diagnostic Pattern
  | 0, _ => .error (.locate text .unknownExtension 0)
  | starts + 1, whole =>
    match parseOnce text whole with
    | .ok p => .ok p
    | .error (.error cause position) => .error (.locate text cause position)
    | .error (.restart whole) => parseUnder text starts whole

/-- The pattern that a text stands for under given options, or what is wrong with the text. -/
def parse (options : Options) (text : List Char) : Except Diagnostic Pattern :=
  parseUnder text 5 options

end Pattern

end SubstBot.Backtracking
