import SubstBot.PatternText.Octal

/-!
# `SubstBot/Proofs/PatternText/Expand.lean` — octal escapes, one form at a time

A pattern is cut into pieces for octal escapes in five ways: it is empty, or it begins with a plain
character, with an escaped one, with an octal escape, or it is a lone backslash. `Front` lists them,
and the equations after it say what becomes of each in front of an arbitrary rest.

A cut is not local, since an escape takes as many digits as there are, up to three, and a backslash
takes whatever comes next. **A piece is complete if nothing behind it can become part of it**, and only
a lone backslash and an escape of one or two digits are not. A pattern whose last piece is complete can
be cut off from whatever follows (`Complete.pieces_append`); one that ends with a character that is
neither a backslash nor an octal digit is always such a pattern (`complete_concat`). This is what lets
texts be put together.

The other general fact is about what an escape cannot yield: a character that is special stands in the
expanded text without a backslash only if it stood in the pattern so (`expand_eq_cons`).
-/

set_option autoImplicit false

namespace SubstBot.PatternText.Octal

theorem isOctal_iff {c : Char} : isOctal c = true ↔ 48 ≤ c.toNat ∧ c.toNat ≤ 55 := by
  simp only [isOctal, Bool.and_eq_true, decide_eq_true_eq, Char.le_def, UInt32.le_iff_toNat_le]
  rfl

/-- A text that does not begin with an octal digit. -/
def NoOctal (r : List Char) : Prop :=
  ∀ c r', r = c :: r' → isOctal c = false

/-- The digits of an escape, with the rest behind them: one to three, and as many as there are. -/
structure Escape (ds r : List Char) : Prop where
  octal : ∀ d ∈ ds, isOctal d = true
  ne_nil : ds ≠ []
  length_le : ds.length ≤ 3
  maximal : ds.length < 3 → NoOctal r

/-- The forms in which a pattern can begin. -/
inductive Front : List Char → Prop where
  | nil : Front []
  | plain {c : Char} (hc : c ≠ '\\') (r : List Char) : Front (c :: r)
  | pair {c : Char} (hc : isOctal c = false) (r : List Char) : Front ('\\' :: c :: r)
  | hanging : Front ['\\']
  | escape {ds r : List Char} (h : Escape ds r) : Front ('\\' :: (ds ++ r))

theorem NoOctal.nil : NoOctal [] := by
  intro c r h
  exact absurd h (by simp)

theorem NoOctal.cons {c : Char} (hc : isOctal c = false) (r : List Char) : NoOctal (c :: r) := by
  intro b r' h
  rw [← (List.cons.inj h).1]
  exact hc

/-- An octal digit behind a backslash begins an escape. -/
theorem exists_escape {a : Char} (ha : isOctal a = true) (r : List Char) :
    ∃ ds r', a :: r = ds ++ r' ∧ Escape ds r' := by
  rcases r with _ | ⟨b, r⟩
  · exact ⟨[a], [], rfl, by simp [ha], by simp, by simp, fun _ => .nil⟩
  cases hb : isOctal b with
  | false => exact ⟨[a], b :: r, rfl, by simp [ha], by simp, by simp, fun _ => .cons hb r⟩
  | true =>
    rcases r with _ | ⟨d, r⟩
    · exact ⟨[a, b], [], rfl, by simp [ha, hb], by simp, by simp, fun _ => .nil⟩
    cases hd : isOctal d with
    | false => exact ⟨[a, b], d :: r, rfl, by simp [ha, hb], by simp, by simp, fun _ => .cons hd r⟩
    | true => exact ⟨[a, b, d], r, rfl, by simp [ha, hb, hd], by simp, by simp, by simp⟩

theorem front (s : List Char) : Front s := by
  rcases s with _ | ⟨c, r⟩
  · exact .nil
  by_cases hc : c = '\\'
  · subst hc
    rcases r with _ | ⟨a, r⟩
    · exact .hanging
    cases ha : isOctal a with
    | false => exact .pair ha r
    | true =>
      obtain ⟨ds, r', h, hescape⟩ := exists_escape ha r
      rw [h]
      exact .escape hescape
  · exact .plain hc r

theorem lt_pair (c : Char) (r : List Char) : r.length < ('\\' :: c :: r).length := by
  rw [List.length_cons, List.length_cons]
  omega

theorem lt_escape (ds r : List Char) : r.length < ('\\' :: (ds ++ r)).length := by
  rw [List.length_cons, List.length_append]
  omega

/-! ## The cut -/

theorem pieces_plain {c : Char} (hc : c ≠ '\\') (r : List Char) :
    pieces (c :: r) = .plain c :: pieces r := by
  rw [pieces.eq_def]
  exact if_pos hc

theorem pieces_pair {c : Char} (hc : isOctal c = false) (r : List Char) :
    pieces ('\\' :: c :: r) = .pair c :: pieces r := by
  rw [pieces.eq_def]
  simp [hc]

theorem pieces_escape {ds r : List Char} (h : Escape ds r) :
    pieces ('\\' :: (ds ++ r)) = .octal ds :: pieces r := by
  obtain ⟨hoctal, hne, hlen, hmax⟩ := h
  rw [pieces.eq_def]
  rcases ds with _ | ⟨a, _ | ⟨b, _ | ⟨d, _ | ⟨e, ds⟩⟩⟩⟩
  · exact absurd rfl hne
  · have hstop := hmax (by simp)
    rcases r with _ | ⟨b, r⟩
    · simp [hoctal a, pieces]
    · simp [hoctal a, hstop b r rfl]
  · have hstop := hmax (by simp)
    rcases r with _ | ⟨d, r⟩
    · simp [hoctal a, hoctal b, pieces]
    · simp [hoctal a, hoctal b, hstop d r rfl]
  · simp [hoctal a, hoctal b, hoctal d]
  · simp only [List.length_cons] at hlen
    omega

/-- Every pattern by its pieces, the last one first. -/
theorem pieces_induction {P : List Char → Prop} (nil : P [])
    (plain : ∀ c r, c ≠ '\\' → P r → P (c :: r))
    (pair : ∀ c r, isOctal c = false → P r → P ('\\' :: c :: r)) (hanging : P ['\\'])
    (escape : ∀ ds r, Escape ds r → P r → P ('\\' :: (ds ++ r))) (s : List Char) : P s := by
  induction hn : s.length using Nat.strongRecOn generalizing s with
  | ind n ih =>
    subst hn
    cases front s with
    | nil => exact nil
    | plain hc r => exact plain _ r hc (ih _ (by simp) r rfl)
    | pair hc r => exact pair _ r hc (ih _ (lt_pair _ r) r rfl)
    | hanging => exact hanging
    | escape h => exact escape _ _ h (ih _ (lt_escape _ _) _ rfl)

/-! ## Expansion -/

/-- The character that an escape with these digits stands for. -/
def charOf (ds : List Char) : Char :=
  Char.ofNat (value ds)

/-- The characters that the escapes in a pattern stand for, in order. -/
def escapes (s : List Char) : List Char :=
  (pieces s).filterMap fun
    | .octal ds => some (charOf ds)
    | _ => none

section Forms

variable {c : Char} {ds r : List Char}

@[simp] theorem expand_nil : expand [] = [] :=
  rfl

theorem expand_plain (hc : c ≠ '\\') (r : List Char) : expand (c :: r) = c :: expand r := by
  rw [expand, pieces_plain hc]
  rfl

theorem expand_pair (hc : isOctal c = false) (r : List Char) :
    expand ('\\' :: c :: r) = '\\' :: c :: expand r := by
  rw [expand, pieces_pair hc]
  rfl

theorem expand_hanging : expand ['\\'] = ['\\'] :=
  rfl

theorem expand_escape (h : Escape ds r) :
    expand ('\\' :: (ds ++ r)) = literal (charOf ds) ++ expand r := by
  rw [expand, pieces_escape h]
  rfl

@[simp] theorem escapes_nil : escapes [] = [] :=
  rfl

theorem escapes_plain (hc : c ≠ '\\') (r : List Char) : escapes (c :: r) = escapes r := by
  rw [escapes, pieces_plain hc]
  rfl

theorem escapes_pair (hc : isOctal c = false) (r : List Char) :
    escapes ('\\' :: c :: r) = escapes r := by
  rw [escapes, pieces_pair hc]
  rfl

theorem escapes_escape (h : Escape ds r) :
    escapes ('\\' :: (ds ++ r)) = charOf ds :: escapes r := by
  rw [escapes, pieces_escape h]
  rfl

end Forms

/-! ## What leaves nothing open -/

/-- Whether nothing that comes behind the piece can become part of it. -/
def Piece.Complete : Piece → Prop
  | .plain _ => True
  | .pair _ => True
  | .octal digits => digits.length = 3
  | .hanging => False

/-- A pattern that is empty or whose last piece is complete. -/
def Complete (a : List Char) : Prop :=
  ∀ p, (pieces a).getLast? = some p → p.Complete

theorem pieces_eq_nil_iff {s : List Char} : pieces s = [] ↔ s = [] := by
  constructor
  · intro h
    have htext := text_pieces s
    rw [h] at htext
    exact htext.symm
  · intro h
    rw [h]
    rfl

section Forms

variable {c : Char} {ds r t : List Char}

theorem complete_iff_of_pieces {p : Piece} (h : pieces t = p :: pieces r) :
    Complete t ↔ (r = [] → p.Complete) ∧ Complete r := by
  unfold Complete
  rw [h, ← pieces_eq_nil_iff]
  cases hr : pieces r with
  | nil => simp
  | cons q qs => simp [List.getLast?_cons]

theorem complete_nil : Complete [] := by
  intro p h
  exact absurd h (by simp [pieces])

theorem complete_plain (hc : c ≠ '\\') : Complete (c :: r) ↔ Complete r := by
  simp [complete_iff_of_pieces (pieces_plain hc r), Piece.Complete]

theorem complete_pair (hc : isOctal c = false) : Complete ('\\' :: c :: r) ↔ Complete r := by
  simp [complete_iff_of_pieces (pieces_pair hc r), Piece.Complete]

theorem not_complete_hanging : ¬ Complete ['\\'] := by
  intro h
  exact h .hanging rfl

theorem complete_escape (h : Escape ds r) :
    Complete ('\\' :: (ds ++ r)) ↔ (r = [] → ds.length = 3) ∧ Complete r :=
  complete_iff_of_pieces (pieces_escape h)

/-- An escape at the end of a text takes another digit unless it has three. -/
theorem Escape.append (h : Escape ds r) (hfull : r = [] → ds.length = 3) (b : List Char) :
    Escape ds (r ++ b) where
  octal := h.octal
  ne_nil := h.ne_nil
  length_le := h.length_le
  maximal hlt := by
    cases r with
    | nil => exact absurd (hfull rfl) (Nat.ne_of_lt hlt)
    | cons c r => exact .cons (h.maximal hlt c r rfl) _

end Forms

theorem Complete.pieces_append {a : List Char} (h : Complete a) (b : List Char) :
    pieces (a ++ b) = pieces a ++ pieces b := by
  induction a using pieces_induction with
  | nil => rfl
  | plain c r hc ih =>
    rw [List.cons_append, pieces_plain hc, pieces_plain hc, ih ((complete_plain hc).mp h)]
    rfl
  | pair c r hc ih =>
    rw [List.cons_append, List.cons_append, pieces_pair hc, pieces_pair hc,
      ih ((complete_pair hc).mp h)]
    rfl
  | hanging => exact absurd h not_complete_hanging
  | escape ds r hds ih =>
    obtain ⟨hfull, hr⟩ := (complete_escape hds).mp h
    rw [List.cons_append, List.append_assoc, pieces_escape (hds.append hfull b),
      pieces_escape hds, ih hr]
    rfl

theorem Complete.expand_append {a : List Char} (h : Complete a) (b : List Char) :
    expand (a ++ b) = expand a ++ expand b := by
  rw [expand, h.pieces_append, List.flatMap_append]
  rfl

/-! ## Putting texts together -/

/-- Behind such a character a new piece begins, whatever piece it belongs to. -/
structure Seals (c : Char) : Prop where
  ne_backslash : c ≠ '\\'
  not_octal : isOctal c = false

theorem Escape.before {ds a : List Char} {c : Char} (h : Escape ds a) (hc : isOctal c = false)
    (r : List Char) : Escape ds (a ++ c :: r) where
  octal := h.octal
  ne_nil := h.ne_nil
  length_le := h.length_le
  maximal hlt := by
    cases a with
    | nil => exact .cons hc r
    | cons b a => exact .cons (h.maximal hlt b a rfl) _

/-- An escape in front of a text is one in front of each of its beginnings. -/
theorem Escape.of_append {ds a b : List Char} (h : Escape ds (a ++ b)) : Escape ds a where
  octal := h.octal
  ne_nil := h.ne_nil
  length_le := h.length_le
  maximal hlt := by
    cases a with
    | nil => exact .nil
    | cons c a => exact .cons (h.maximal hlt c (a ++ b) rfl) _

theorem complete_concat {c : Char} (hc : Seals c) (a : List Char) : Complete (a ++ [c]) := by
  induction a using pieces_induction with
  | nil => exact (complete_plain hc.ne_backslash).mpr complete_nil
  | plain b a hb ih => exact (complete_plain hb).mpr ih
  | pair b a hb ih => exact (complete_pair hb).mpr ih
  | hanging => exact (complete_pair hc.not_octal).mpr complete_nil
  | escape ds a h ih =>
    rw [List.cons_append, List.append_assoc]
    exact (complete_escape (h.before hc.not_octal [])).mpr ⟨fun hnil => absurd hnil (by simp), ih⟩

/-- A text that ends with such a character. -/
def Closed (a : List Char) : Prop :=
  ∃ a' c, a = a' ++ [c] ∧ Seals c

theorem Closed.singleton {c : Char} (hc : Seals c) : Closed [c] :=
  ⟨[], c, rfl, hc⟩

theorem Closed.append {a : List Char} (h : Closed a) (t : List Char) : Closed (t ++ a) := by
  obtain ⟨a', c, rfl, hc⟩ := h
  exact ⟨t ++ a', c, (List.append_assoc _ _ _).symm, hc⟩

/-- A text that ends with such a character, or is empty: it can be cut off. -/
def Sealed (a : List Char) : Prop :=
  a = [] ∨ Closed a

theorem Sealed.complete {a : List Char} (h : Sealed a) : Complete a := by
  rcases h with rfl | ⟨a', c, rfl, hc⟩
  · exact complete_nil
  · exact complete_concat hc a'

theorem Sealed.expand_append {a : List Char} (h : Sealed a) (r : List Char) :
    expand (a ++ r) = expand a ++ expand r :=
  h.complete.expand_append r

theorem Sealed.escapes_append {a : List Char} (h : Sealed a) (r : List Char) :
    escapes (a ++ r) = escapes a ++ escapes r := by
  rw [escapes, h.complete.pieces_append, List.filterMap_append]
  rfl

/-! ## What an escape cannot yield -/

theorem literal_eq_or (c : Char) :
    (isSpecial c = true ∧ literal c = ['\\', c]) ∨ (isSpecial c = false ∧ literal c = [c]) := by
  rw [literal]
  cases isSpecial c with
  | true => exact Or.inl ⟨rfl, rfl⟩
  | false => exact Or.inr ⟨rfl, rfl⟩

theorem ne_of_not_special {c d : Char} (hc : isSpecial c = false) (hd : isSpecial d = true) :
    c ≠ d := by
  rintro rfl
  exact absurd (hc.symm.trans hd) (by simp)

/-- **A character in front of an expanded text stood in front of the pattern**, if it is no backslash
and no escape stands for it without one. -/
theorem expand_eq_cons {s x : List Char} {d : Char} (hd : d ≠ '\\')
    (hesc : d ∈ escapes s → isSpecial d = true) (h : expand s = d :: x) :
    ∃ r, s = d :: r ∧ expand r = x := by
  cases front s with
  | nil => exact absurd h (by simp)
  | plain hc r =>
    rw [expand_plain hc, List.cons.injEq] at h
    exact ⟨r, by rw [h.1], h.2⟩
  | pair hc r =>
    rw [expand_pair hc, List.cons.injEq] at h
    exact absurd h.1.symm hd
  | hanging =>
    rw [expand_hanging, List.cons.injEq] at h
    exact absurd h.1.symm hd
  | @escape ds r hds =>
    rw [expand_escape hds] at h
    rcases literal_eq_or (charOf ds) with ⟨-, hl⟩ | ⟨hplain, hl⟩
    · rw [hl, List.cons_append, List.cons.injEq] at h
      exact absurd h.1.symm hd
    · rw [hl, List.singleton_append, List.cons.injEq] at h
      have hmem : d ∈ escapes ('\\' :: (ds ++ r)) := by
        rw [escapes_escape hds, h.1]
        exact List.mem_cons_self
      rw [h.1] at hplain
      exact absurd ((hesc hmem).symm.trans hplain) (by simp)

end SubstBot.PatternText.Octal
