import SubstBot.Proofs.Template.Seam

/-!
# `SubstBot/Proofs/Template/Slashes.lean` — escaped slashes in a replacement

A slash in the replacement of a rule is there because it is escaped, and the two readers mean
different things by that. To the one that cuts the rule, a backslash escapes whatever comes next; to
the one that reads the template, it escapes only some characters and is itself before the others. So
they could fall out of step. They do not, because **both read a run of backslashes from its first**:
the one by the parity of the run, the other because no mark reaches into the run from before
(`marks_append_backslash`). An odd run is then pairs, each of them a backslash, and the escape of the
slash.
-/

set_option autoImplicit false

namespace SubstBot.Rule.Template

/-! ## A run and its slash -/

/-- Backslashes are read in pairs. -/
theorem marks_pairs (j : Nat) (t : List Char) :
    marks (List.replicate (2 * j) '\\' ++ t) = (List.replicate j '\\').map .char ++ marks t := by
  induction j with
  | zero => rfl
  | succ j ih =>
    have hpair : List.replicate (2 * (j + 1)) '\\' = '\\' :: '\\' :: List.replicate (2 * j) '\\' := by
      rw [Nat.mul_succ, List.replicate_succ, List.replicate_succ]
    rw [hpair, List.cons_append, List.cons_append, marks_escaped_backslash, ih]
    rfl

/-- What an odd run of backslashes and a slash behind it are read as. -/
def slashText (k : Nat) : List Char :=
  List.replicate ((k - 1) / 2) '\\' ++ ['/']

theorem slashText_ne_nil (k : Nat) : slashText k ≠ [] := by
  simp [slashText]

theorem marks_slash {k : Nat} (hk : Odd k) (t : List Char) :
    marks (List.replicate k '\\' ++ '/' :: t) = (slashText k).map .char ++ marks t := by
  obtain ⟨j, rfl⟩ := hk
  have hhalf : (2 * j + 1 - 1) / 2 = j := by omega
  have hrun : List.replicate (2 * j + 1) '\\' ++ '/' :: t =
      List.replicate (2 * j) '\\' ++ ('\\' :: '/' :: t) := by
    rw [List.replicate_succ', List.append_assoc, List.singleton_append]
  rw [hrun, marks_pairs, marks_escaped_slash, slashText, hhalf]
  simp

/-- **A slash behind an odd run, whatever stands around them**: what is before the run and what is
behind the slash are read as they would be alone. -/
theorem parse_slash {front : List Char} (hfront : front.getLast? ≠ some '\\') {k : Nat}
    (hk : Odd k) (t : List Char) :
    parse (front ++ List.replicate k '\\' ++ '/' :: t) =
      (parse front).bind fun a => (parse t).map fun b => join a (join [.text (slashText k)] b) := by
  have hseam : marks (front ++ (List.replicate k '\\' ++ '/' :: t)) =
      marks front ++ marks (List.replicate k '\\' ++ '/' :: t) := by
    -- An odd run is not empty, so there is a backslash for the front to end before.
    have hrun : List.replicate k '\\' = '\\' :: List.replicate (k - 1) '\\' := by
      obtain ⟨j, rfl⟩ := hk
      rfl
    rw [hrun, List.cons_append]
    exact marks_append_backslash hfront _
  have hrest : parse (List.replicate k '\\' ++ '/' :: t) =
      (parse t).map (join [.text (slashText k)]) := by
    rw [parse, marks_slash hk]
    exact ofMarks_chars_append (slashText_ne_nil k) _
  rw [List.append_assoc, parse_append hseam, hrest]
  cases parse front with
  | error e => rfl
  | ok a => cases parse t <;> rfl

/-! ## The number of slashes -/

/-- The text of a template apart from its references. -/
def literal (t : Template) : List Char :=
  render (fun _ => []) t

/-- The characters among marks. -/
def markText (ms : List Mark) : List Char :=
  ms.flatMap fun
    | .char c => [c]
    | .group _ => []

theorem literal_pushChar (c : Char) (t : Template) : literal (pushChar c t) = c :: literal t := by
  cases t with
  | nil => rfl
  | cons m t => cases m <;> rfl

theorem literal_ofMarks {ms : List Mark} {t : Template} (h : ofMarks ms = .ok t) :
    literal t = markText ms := by
  induction ms generalizing t with
  | nil =>
    rw [ofMarks, Except.ok.injEq] at h
    rw [← h]
    rfl
  | cons m ms ih =>
    cases m with
    | char c =>
      rw [ofMarks] at h
      cases hms : ofMarks ms with
      | error e =>
        rw [hms] at h
        exact absurd h (by simp [Except.map])
      | ok u =>
        rw [hms, Except.map, Except.ok.injEq] at h
        rw [← h, literal_pushChar, ih hms]
        rfl
    | group ds =>
      rw [ofMarks] at h
      split at h
      · exact absurd h (by simp)
      · cases hms : ofMarks ms with
        | error e =>
          rw [hms] at h
          exact absurd h (by simp [Except.map])
        | ok u =>
          rw [hms, Except.map, Except.ok.injEq] at h
          have hliteral := ih hms
          rw [← h]
          exact hliteral

theorem Digits.not_mem_slash {ds : List Char} (h : Digits ds) : '/' ∉ ds := by
  intro hmem
  exact absurd (h.decimal '/' hmem) (by decide)

/-- A form has a slash in it only if it is the escape of one. -/
theorem Begins.count_slash {s t : List Char} {m : Mark} (h : Begins s m t) :
    s.count '/' = (markText [m]).count '/' + t.count '/' := by
  cases h with
  | backslash | slash | newline | tab | dollar => simp [markText, Nat.add_comm]
  | digits hl hd ht =>
    have hds := List.count_eq_zero.mpr hd.not_mem_slash
    rcases hl with rfl | rfl <;> simp [markText, hds]
  | braces hd =>
    have hds := List.count_eq_zero.mpr hd.not_mem_slash
    simp [markText, hds]
  | angles hd =>
    have hds := List.count_eq_zero.mpr hd.not_mem_slash
    simp [markText, hds]

theorem count_slash_marks (s : List Char) : (markText (marks s)).count '/' = s.count '/' := by
  have hcons : ∀ (m : Mark) (ms : List Mark),
      (markText (m :: ms)).count '/' = (markText [m]).count '/' + (markText ms).count '/' := by
    intro m ms
    rw [← List.count_append]
    simp [markText]
  induction s using forms_induction with
  | nil => rw [marks_nil]; rfl
  | form s m t hb ih => rw [marks_of_begins hb, hcons, ih, hb.count_slash]
  | char c r hno ih =>
    rw [marks_of_not_begins hno, hcons, ih, ← List.count_append]
    rfl

/-- No slash is lost, and none becomes part of a reference. -/
theorem count_slash_literal {s : List Char} {t : Template} (h : parse s = .ok t) :
    (literal t).count '/' = s.count '/' := by
  rw [literal_ofMarks h, count_slash_marks]

/-! ## The slashes of a replacement -/

/-- **The slashes of a replacement are read as they were meant when the rule was cut.** Each stands
behind a run of an odd number `k` of backslashes, and the run and the slash are read as the text of
`(k - 1) / 2` backslashes and a slash, between what stands before the run and what stands behind the
slash. So the text of the template has as many slashes as the replacement. -/
theorem slashes_decoded {text query replacement flags : List Char}
    (hs : (afterMarker? text).bind segments? = some (query, replacement, flags)) :
    (∀ E, parse? E text = (ofSegments E query replacement flags).map some) ∧
    (∀ before after, replacement = before ++ '/' :: after →
      ∃ front k, before = front ++ List.replicate k '\\' ∧ front.getLast? ≠ some '\\' ∧ Odd k ∧
        parse replacement = (parse front).bind fun a => (parse after).map fun b =>
          join a (join [.text (List.replicate ((k - 1) / 2) '\\' ++ ['/'])] b)) ∧
    ∀ t, parse replacement = .ok t → (literal t).count '/' = replacement.count '/' := by
  obtain ⟨tail, hmarker, hsegments⟩ := Option.bind_eq_some_iff.mp hs
  refine ⟨?rule, ?slashes, fun t h => count_slash_literal h⟩
  case rule =>
    intro E
    rw [parse?, hmarker]
    simp only [hsegments]
  case slashes =>
    have hescaped : AllEscaped '/' replacement := by
      cases segments?_eq_some_iff.mp hsegments with
      | closed hq hr => exact hr.escaped
      | «open» hq hr => exact hr
    intro before after hreplacement
    have hodd := hescaped before after hreplacement
    obtain ⟨front, hbefore, hfront⟩ := exists_before_run before
    have hslash := parse_slash hfront hodd after
    rw [← hbefore, ← hreplacement] at hslash
    exact ⟨front, backslashRun before, hbefore, hfront, hodd, hslash⟩

/-- Three backslashes and a slash behind a reference that is not finished, in front of a digit. -/
theorem slashes_decoded_unfinished :
    (afterMarker? (marker ++ ['a', '/', '$', '\x7b', '1', '\\', '\\', '\\', '/', '2', '/'])).bind
        segments? = some (['a'], ['$', '\x7b', '1', '\\', '\\', '\\', '/', '2'], []) ∧
    ∃ front k, ['$', '\x7b', '1', '\\', '\\', '\\'] = front ++ List.replicate k '\\' ∧
      front.getLast? ≠ some '\\' ∧ Odd k ∧
      parse ['$', '\x7b', '1', '\\', '\\', '\\', '/', '2'] =
        (parse front).bind fun a => (parse ['2']).map fun b =>
          join a (join [.text (List.replicate ((k - 1) / 2) '\\' ++ ['/'])] b) := by
  have hs : (afterMarker?
      (marker ++ ['a', '/', '$', '\x7b', '1', '\\', '\\', '\\', '/', '2', '/'])).bind segments? =
        some (['a'], ['$', '\x7b', '1', '\\', '\\', '\\', '/', '2'], []) := rfl
  obtain ⟨-, hdecoded, -⟩ := slashes_decoded hs
  exact ⟨hs, hdecoded ['$', '\x7b', '1', '\\', '\\', '\\'] ['2'] rfl⟩

end SubstBot.Rule.Template
