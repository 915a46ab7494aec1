import SubstBot.Backtracking.Engine
import SubstBot.Proofs.Backtracking.Matching
import SubstBot.Proofs.Regex.Gaps

/-!
# `SubstBot/Proofs/Backtracking/Engine.lean` — an engine like any other

The engine that the program is run with does what is asked of an engine: along every text, every
pattern of it has matches in order, and they are what is replaced (`engine_finds`).
-/

set_option autoImplicit false

namespace SubstBot.Backtracking

open Regex (Match InOrder limited)

namespace Pattern

variable {p : Pattern} {s : Matcher.Subject} {moving : Bool} {place : Nat} {o : Occurrence}

theorem matchAt?_inside (h : p.matchAt? s moving place = some o) (hplace : place ≤ s.text.size) :
    o.span.start = place ∧ place ≤ o.span.stop ∧ o.span.stop ≤ s.text.size := by
  unfold matchAt? at h
  obtain ⟨r, hrun, rfl⟩ := Option.map_eq_some_iff.mp h
  obtain ⟨r', hr', hlast⟩ := Matcher.run_reaches s p.node false _ _ _ hrun
  split at hlast
  · exact absurd hlast (by simp)
  · obtain rfl := Option.some.inj hlast
    exact ⟨rfl, hr'.direction, hr'.inside hplace⟩

theorem search?_inside {tries : Nat} (h : p.search? s moving tries place = some o)
    (htries : place + tries ≤ s.text.size + 1) :
    place ≤ o.span.start ∧ o.span.start ≤ o.span.stop ∧ o.span.stop ≤ s.text.size := by
  induction tries generalizing moving place with
  | zero => exact absurd h (by simp [search?])
  | succ tries ih =>
    rw [search?] at h
    cases hfirst : p.matchAt? s moving place with
    | some o₀ =>
      rw [hfirst] at h
      obtain rfl := Option.some.inj h
      obtain ⟨hstart, hstop, hinside⟩ := matchAt?_inside hfirst (by omega)
      exact ⟨Nat.le_of_eq hstart.symm, by omega, hinside⟩
    | none =>
      rw [hfirst] at h
      obtain ⟨hbehind, hrest⟩ := ih h (by omega)
      exact ⟨by omega, hrest⟩

theorem occurrencesFrom_inOrder {groups limit : Nat} {text : Array Char}
    (hplace : place ≤ s.text.size) :
    InOrder s.text.size place
      ((p.occurrencesFrom s limit moving place).map (Occurrence.toMatch groups text)) := by
  induction limit generalizing moving place with
  | zero => exact .nil hplace
  | succ limit ih =>
    rw [occurrencesFrom]
    cases hsearch : p.search? s moving (s.text.size + 1 - place) place with
    | none => exact .nil hplace
    | some o =>
      obtain ⟨hstart, hstop, hinside⟩ := search?_inside hsearch (by omega)
      exact .cons hstart hstop (ih hinside)

theorem occurrencesFrom_take {n limit : Nat} (h : n ≤ limit) :
    p.occurrencesFrom s n moving place = (p.occurrencesFrom s limit moving place).take n := by
  induction n generalizing limit moving place with
  | zero => rfl
  | succ n ih =>
    obtain ⟨limit, rfl⟩ : ∃ l, limit = l + 1 := ⟨limit - 1, by omega⟩
    rw [occurrencesFrom, occurrencesFrom]
    cases p.search? s moving (s.text.size + 1 - place) place with
    | none => rfl
    | some o => simp only [List.take_succ_cons, ih (Nat.le_of_succ_le_succ h)]

/-- Fewer occurrences are the first ones. -/
theorem occurrences_limited (p : Pattern) (count : Nat) (text : List Char) :
    p.occurrences count text = limited count (p.occurrences 0 text) := by
  unfold limited occurrences
  dsimp only
  split
  · rfl
  · generalize 2 * (text.length + 1) = most
    rw [if_pos rfl, occurrencesFrom_take (Nat.min_le_right count most), ← List.take_take,
      ← occurrencesFrom_take (Nat.le_refl most)]

end Pattern

theorem found_limited (p : Pattern) (count : Nat) (text : List Char) :
    found p count text = limited count (found p 0 text) := by
  rw [found, p.occurrences_limited, found]
  unfold limited
  split
  · rfl
  · rw [List.map_take]

theorem found_inOrder (p : Pattern) (count : Nat) (text : List Char) :
    InOrder text.length 0 (found p count text) := by
  have hsize : (p.subject text).text.size = text.length := List.size_toArray
  rw [← hsize]
  exact Pattern.occurrencesFrom_inOrder (Nat.zero_le _)

/-- **It finds matches and replaces them**, along every text. -/
theorem engine_finds (p : Pattern) (text : List Char) :
    engine.Finds p text (found p 0 text) where
  whole m hm := by
    obtain ⟨o, -, rfl⟩ := List.mem_map.mp hm
    rfl
  replaced count := by
    refine ⟨found p count text, ?_, found_inOrder p count text, fun _ => rfl⟩
    rw [found_limited p count]
    exact List.Perm.refl _

/-- It is never stopped, so a limit on the time makes no difference. -/
theorem engine_steady : engine.Steady := by
  intro p expand text count timeout
  exact Or.inr rfl

end SubstBot.Backtracking
