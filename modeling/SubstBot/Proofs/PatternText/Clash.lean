import Mathlib.Algebra.Ring.Nat
import SubstBot.Proofs.PatternText.Commute

/-!
# `SubstBot/Proofs/PatternText/Clash.lean` — escapes that are taken for syntax

A character that is not neutral means something in some place, and there is a pattern that puts it
there by an escape. When the escape is replaced first, the swap finds a quantifier, the end of a
comment or a blank that is not in the pattern. Such a pattern is given for each of the characters, and
with what holds of clean patterns this settles the question for every class of characters
(`commute_iff_neutral`).
-/

set_option autoImplicit false

namespace SubstBot.PatternText

open Greed Octal

/-! ## Writing an escape -/

/-- The octal digit of a number below eight. -/
def octalDigit (n : Nat) : Char :=
  Char.ofNat (48 + n)

/-- An escape for a character with a code below 512, in three digits. -/
def escapeOf (c : Char) : List Char :=
  '\\' :: [octalDigit (c.toNat / 64), octalDigit (c.toNat / 8 % 8), octalDigit (c.toNat % 8)]

theorem toNat_octalDigit : ∀ n < 8, (octalDigit n).toNat = 48 + n := by
  decide

theorem isOctal_octalDigit {n : Nat} (h : n < 8) : isOctal (octalDigit n) = true := by
  rw [isOctal_iff, toNat_octalDigit n h]
  omega

section

variable {c : Char} (h : c.toNat < 512)
include h

theorem escape_escapeOf (r : List Char) : Escape (escapeOf c).tail r where
  octal d hd := by
    simp only [escapeOf, List.tail_cons, List.mem_cons, List.not_mem_nil, or_false] at hd
    rcases hd with rfl | rfl | rfl <;> exact isOctal_octalDigit (by omega)
  ne_nil := by simp [escapeOf]
  length_le := by simp [escapeOf]
  maximal hlt := absurd hlt (by simp [escapeOf])

theorem charOf_escapeOf : charOf (escapeOf c).tail = c := by
  have hvalue : value (escapeOf c).tail = c.toNat := by
    have h₁ := toNat_octalDigit (c.toNat / 64) (by omega)
    have h₂ := toNat_octalDigit (c.toNat / 8 % 8) (by omega)
    have h₃ := toNat_octalDigit (c.toNat % 8) (by omega)
    have hzero : '0'.toNat = 48 := rfl
    simp only [escapeOf, List.tail_cons, value, List.foldl_cons, List.foldl_nil, h₁, h₂, h₃, hzero]
    omega
  rw [charOf, hvalue, Char.ofNat_toNat]

theorem expand_escapeOf (r : List Char) : expand (escapeOf c ++ r) = literal c ++ expand r := by
  have hexpand := expand_escape (escape_escapeOf h r)
  rw [charOf_escapeOf h] at hexpand
  exact hexpand

theorem escapes_escapeOf (r : List Char) : escapes (escapeOf c ++ r) = c :: escapes r := by
  have hescapes := escapes_escape (escape_escapeOf h r)
  rw [charOf_escapeOf h] at hescapes
  exact hescapes

theorem swap_escapeOf (v : Bool) (r : List Char) :
    swap v (escapeOf c ++ r) = escapeOf c ++ swap v r :=
  swap_escape (escape_escapeOf h r)

end

theorem toNat_ofNat_le (n : Nat) : (Char.ofNat n).toNat ≤ n := by
  rw [Char.ofNat]
  by_cases h : n.isValidChar
  · rw [dif_pos h]
    exact Nat.le_refl n
  · rw [dif_neg h]
    exact Nat.zero_le n

/-- Digits that are read behind a number. -/
theorem foldl_digits_lt {ds : List Char} (h : ∀ d ∈ ds, isOctal d = true) (n : Nat) :
    ds.foldl (fun n d => n * 8 + (d.toNat - '0'.toNat)) n < (n + 1) * 8 ^ ds.length := by
  induction ds generalizing n with
  | nil => simp
  | cons d ds ih =>
    have hzero : '0'.toNat = 48 := rfl
    have hdigit := isOctal_iff.mp (h d List.mem_cons_self)
    have hrest := ih (fun e he => h e (List.mem_cons_of_mem d he)) (n * 8 + (d.toNat - '0'.toNat))
    calc
      _ < (n * 8 + (d.toNat - '0'.toNat) + 1) * 8 ^ ds.length := hrest
      _ ≤ (n + 1) * 8 * 8 ^ ds.length := Nat.mul_le_mul_right _ (by omega)
      _ = (n + 1) * 8 ^ (d :: ds).length := by
        rw [List.length_cons, Nat.pow_succ', Nat.mul_assoc]

theorem value_lt {ds r : List Char} (h : Escape ds r) : value ds < 512 := by
  calc
    _ < (0 + 1) * 8 ^ ds.length := foldl_digits_lt h.octal 0
    _ ≤ 8 ^ 3 := by
      rw [Nat.zero_add, Nat.one_mul]
      exact Nat.pow_le_pow_right (by decide) h.length_le

/-- No escape stands for a character with a higher code. -/
theorem toNat_lt_of_mem_escapes {c : Char} {s : List Char} (h : c ∈ escapes s) : c.toNat < 512 := by
  induction s using pieces_induction with
  | nil => exact absurd h List.not_mem_nil
  | plain b r hb ih =>
    rw [escapes_plain hb] at h
    exact ih h
  | pair b r hb ih =>
    rw [escapes_pair hb] at h
    exact ih h
  | hanging => exact absurd h List.not_mem_nil
  | escape ds r hds ih =>
    rw [escapes_escape hds, List.mem_cons] at h
    rcases h with rfl | h
    · exact Nat.lt_of_le_of_lt (toNat_ofNat_le _) (value_lt hds)
    · exact ih h

/-! ## Patterns on which the changes clash -/

/-- The pattern has one escape, for this character, and the order of the two changes matters. -/
structure Clash (v : Bool) (c : Char) (p : List Char) : Prop where
  escapes : escapes p = [c]
  differs : swap v (expand p) ≠ expand (swap v p)

theorem literal_of_not_special {c : Char} (h : isSpecial c = false) : literal c = [c] := by
  rw [literal, h]
  rfl

theorem not_special_of_isDecimalDigit {c : Char} (h : Text.isDecimalDigit c = true) :
    isSpecial c = false := by
  refine Bool.eq_false_iff.mpr fun hspecial => ?_
  have hall : (['(', ')', '[', ']', '\x7b', '\x7d', '?', '*', '+', '-', '|', '^', '$', '\\', '.',
      '&', '~', '#', ' ', '\t', '\n', '\r', '\x0b', '\x0c'].all fun d =>
        !Text.isDecimalDigit d) = true := rfl
  rw [isSpecial, decide_eq_true_eq] at hspecial
  have hnot := List.all_eq_true.mp hall c hspecial
  rw [h] at hnot
  exact absurd hnot (by simp)

/-- A quantifier at the end of a pattern becomes lazy. -/
theorem swap_last {v : Bool} {q : List Char} (h : quantifier? q = some (q, [])) :
    swap v q = q ++ ['?'] := by
  have happend : quantifier? (q ++ []) = some (q, []) := by rw [List.append_nil, h]
  have hswap := swap_greedy happend (NoMark.nil v)
  rw [List.append_nil, swap_nil] at hswap
  exact hswap

theorem swap_brace_close (v : Bool) : swap v ['\x7d'] = ['\x7d'] := by
  rw [swap_plain (by simp) (by simp) (ignoredLength_solid rfl []) (by simp) rfl, swap_nil]

/-- An opening brace with no count behind it is copied. -/
theorem swap_brace {v : Bool} {r : List Char} (h : braces? r = none) :
    swap v ('\x7b' :: r) = '\x7b' :: swap v r := by
  have hq : quantifier? ('\x7b' :: r) = none := by
    rw [quantifier?_brace, h]
    rfl
  exact swap_plain (by simp) (by simp) (ignoredLength_solid rfl r) (by simp) hq

/-- A digit between braces makes a quantifier of them. -/
theorem clash_digit (v : Bool) {c : Char} (h : c.toNat < 512) (hd : Text.isDecimalDigit c = true) :
    Clash v c ('\x7b' :: (escapeOf c ++ ['\x7d'])) where
  escapes := by
    rw [escapes_plain (by simp), escapes_escapeOf h]
    rfl
  differs := by
    have hexpand : expand ('\x7b' :: (escapeOf c ++ ['\x7d'])) = ['\x7b', c, '\x7d'] := by
      rw [expand_plain (by simp), expand_escapeOf h,
        literal_of_not_special (not_special_of_isDecimalDigit hd)]
      rfl
    have hcount : digits [c, '\x7d'] = ([c], ['\x7d']) := by
      rw [digits_cons, hd, if_pos rfl]
      rfl
    have hquantifier : quantifier? ['\x7b', c, '\x7d'] = some (['\x7b', c, '\x7d'], []) := by
      have hbraces : braces? [c, '\x7d'] = some ([c, '\x7d'], []) := by
        rw [braces?_close hcount]
        rfl
      rw [quantifier?_brace, hbraces]
      rfl
    have hswap : swap v ('\x7b' :: (escapeOf c ++ ['\x7d'])) =
        '\x7b' :: (escapeOf c ++ ['\x7d']) := by
      rw [swap_brace rfl, swap_escapeOf h, swap_brace_close]
    rw [hswap, hexpand, swap_last hquantifier]
    simp

/-- A comma behind a digit does so too. -/
theorem clash_comma (v : Bool) : Clash v ',' ('\x7b' :: '1' :: (escapeOf ',' ++ ['\x7d'])) where
  escapes := rfl
  differs := by
    have hswap : swap v ('\x7b' :: '1' :: (escapeOf ',' ++ ['\x7d'])) =
        '\x7b' :: '1' :: (escapeOf ',' ++ ['\x7d']) := by
      rw [swap_brace rfl, swap_octal rfl, swap_escapeOf (by decide), swap_brace_close]
    have hexpand : expand ('\x7b' :: '1' :: (escapeOf ',' ++ ['\x7d'])) =
        ['\x7b', '1', ',', '\x7d'] := rfl
    rw [hswap, hexpand, swap_last rfl]
    simp

/-- A closing parenthesis ends a comment. -/
theorem clash_parenthesis (v : Bool) :
    Clash v ')' ('(' :: '?' :: '#' :: (escapeOf ')' ++ ['*'])) where
  escapes := rfl
  differs := by
    have hignored : ignored v ('(' :: '?' :: '#' :: (escapeOf ')' ++ ['*'])) =
        ('(' :: '?' :: '#' :: (escapeOf ')' ++ ['*']), []) := by
      cases v <;> decide
    have hexpand : expand ('(' :: '?' :: '#' :: (escapeOf ')' ++ ['*'])) =
        '(' :: '?' :: '#' :: (['\\'] ++ [')']) ++ ['*'] := rfl
    rw [hexpand, swap_skips (skips_comment (by simp)), swap_last rfl, swap_eq_ignored v, hignored,
      swap_nil, List.append_nil, hexpand]
    simp

/-- So does the end of a line. -/
theorem clash_newline : Clash true '\n' ('#' :: (escapeOf '\n' ++ ['*'])) where
  escapes := rfl
  differs := by
    have hignored : ignored true ('#' :: (escapeOf '\n' ++ ['*'])) =
        ('#' :: (escapeOf '\n' ++ ['*']), []) := by
      decide
    have hexpand : expand ('#' :: (escapeOf '\n' ++ ['*'])) =
        '#' :: (['\\'] ++ ['\n']) ++ ['*'] := rfl
    rw [hexpand, swap_skips (skips_line rfl (by simp)), swap_last rfl, swap_eq_ignored true,
      hignored, swap_nil, List.append_nil, hexpand]
    simp

/-- Behind a blank, a question mark is the mark of the quantifier in front. -/
theorem clash_blank {c : Char} (h : c.toNat < 512) (hplain : isSpecial c = false)
    (hb : Text.isBlank c = true) : Clash true c ('*' :: (escapeOf c ++ ['?'])) where
  escapes := by
    rw [escapes_plain (by simp), escapes_escapeOf h]
    rfl
  differs := by
    have hexpand : expand ('*' :: (escapeOf c ++ ['?'])) = ['*'] ++ ([c] ++ '?' :: []) := by
      rw [expand_plain (by simp), expand_escapeOf h, literal_of_not_special hplain]
      rfl
    have hlazy : swap true (['*'] ++ ([c] ++ '?' :: [])) = ['*', c] := by
      rw [swap_lazy (skips_blank rfl hb) rfl, swap_nil]
      rfl
    have hmark : NoMark true (escapeOf c ++ ['?']) :=
      .of_not_ignored (ignoredLength_solid rfl _) (by simp) (by simp)
    have hgreedy : swap true ('*' :: (escapeOf c ++ ['?'])) =
        '*' :: '?' :: (escapeOf c ++ ['?', '?']) := by
      have hstar : quantifier? (['*'] ++ (escapeOf c ++ ['?'])) =
          some (['*'], escapeOf c ++ ['?']) := rfl
      have hlast : swap true ['?'] = ['?', '?'] := swap_last rfl
      have hswap := swap_greedy hstar hmark
      rw [swap_escapeOf h, hlast] at hswap
      exact hswap
    have hlater : expand ('*' :: '?' :: (escapeOf c ++ ['?', '?'])) = ['*', '?', c, '?', '?'] := by
      rw [expand_plain (by simp), expand_plain (by simp), expand_escapeOf h,
        literal_of_not_special hplain]
      rfl
    rw [hexpand, hlazy, hgreedy, hlater]
    simp

theorem exists_clash {v : Bool} {c : Char} (h : c.toNat < 512) (hc : ¬ Neutral v c) :
    ∃ p, Clash v c p := by
  cases hd : Text.isDecimalDigit c with
  | true => exact ⟨_, clash_digit v h hd⟩
  | false =>
    by_cases hcomma : c = ','
    · exact ⟨_, hcomma ▸ clash_comma v⟩
    by_cases hclose : c = ')'
    · exact ⟨_, hclose ▸ clash_parenthesis v⟩
    cases v with
    | false =>
      exact absurd ⟨hd, hcomma, hclose, fun hv => absurd hv (by simp), fun hv => absurd hv (by simp)⟩
        hc
    | true =>
      by_cases hline : c = '\n'
      · exact ⟨_, hline ▸ clash_newline⟩
      cases hs : isSpecial c with
      | true =>
        refine absurd ⟨hd, hcomma, hclose, fun _ => hline, fun _ hplain => ?_⟩ hc
        exact absurd (hs.symm.trans hplain) (by simp)
      | false =>
        cases hb : Text.isBlank c with
        | true => exact ⟨_, clash_blank h hs hb⟩
        | false => exact absurd ⟨hd, hcomma, hclose, fun _ => hline, fun _ _ => hb⟩ hc

/-- **Where the order of the two changes matters.** They commute on all patterns whose escapes stand
for characters of a class if and only if every character of the class, as far as an escape can stand
for it, is neutral. -/
theorem commute_iff_neutral (v : Bool) (S : Char → Prop) :
    (∀ p, (∀ c ∈ escapes p, S c) → swap v (expand p) = expand (swap v p)) ↔
      ∀ c, c.toNat < 512 → S c → Neutral v c := by
  constructor
  · intro hcommute c hlt hS
    refine Classical.byContradiction fun hc => ?_
    obtain ⟨p, hclash⟩ := exists_clash hlt hc
    refine hclash.differs (hcommute p fun d hd => ?_)
    rw [hclash.escapes] at hd
    rw [List.mem_singleton.mp hd]
    exact hS
  · intro hneutral p hS
    exact swap_expand fun c hc => hneutral c (toNat_lt_of_mem_escapes hc) (hS c hc)

/-- The braces of `a{\061}` hold an escape for the digit one. With the escape in them they are no
count, and are copied; when it is replaced first they are one, and become lazy. -/
theorem braces_with_digit_escape :
    swap false (expand ['a', '\x7b', '\\', '0', '6', '1', '\x7d']) =
        ['a', '\x7b', '1', '\x7d', '?'] ∧
      expand (swap false ['a', '\x7b', '\\', '0', '6', '1', '\x7d']) =
        ['a', '\x7b', '1', '\x7d'] := by
  have hletter (r : List Char) : swap false ('a' :: r) = 'a' :: swap false r :=
    swap_plain (by simp) (by simp) (ignoredLength_solid rfl r) (by simp) rfl
  have hcount : swap false ['\x7b', '1', '\x7d'] = ['\x7b', '1', '\x7d', '?'] := swap_last rfl
  have hcopied : swap false ('\x7b' :: (escapeOf '1' ++ ['\x7d'])) =
      '\x7b' :: (escapeOf '1' ++ ['\x7d']) := by
    rw [swap_brace rfl, swap_escapeOf (by decide), swap_brace_close]
  constructor
  · calc
      _ = swap false ('a' :: ['\x7b', '1', '\x7d']) := rfl
      _ = _ := by rw [hletter, hcount]
  · calc
      _ = expand (swap false ('a' :: '\x7b' :: (escapeOf '1' ++ ['\x7d']))) := rfl
      _ = expand ('a' :: '\x7b' :: (escapeOf '1' ++ ['\x7d'])) := by rw [hletter, hcopied]
      _ = _ := rfl

end SubstBot.PatternText
