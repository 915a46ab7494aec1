import Mathlib.Data.List.Forall2
import SubstBot.Proofs.Backtracking.Engine
import SubstBot.Proofs.Regex.Gaps
import SubstBot.Rule.Basic

/-!
# `SubstBot/Proofs/Rule/Replacing.lean` — what a rule changes

A rule hands its replacement and the number of matches to the engine, which finds the matches and
replaces them. So the result of a rule is the text between the matches that it replaces, with
replacements between: **the two differ only where a match was**, and a rule whose replacement is what
was matched changes nothing.

A replacement is the texts that the nodes of the template stand for, one after another. `Stands` is
the table of them. It has an entry for every node (`stands_renderNode`): a group of the pattern has
an entry in each match, whether it took part or not, and a number beyond the groups stands for
nothing.
-/

set_option autoImplicit false

namespace SubstBot.Rule

open Regex (Engine Match InOrder gapsFrom weave limited)

/-! ## Replacements -/

section

variable {groups : Nat} {m : Match groups}

/-- **What a node of a template stands for** in the replacement of a match. -/
inductive Stands (m : Match groups) : TemplateNode → List Char → Prop where
  | literal (s : List Char) : Stands m (.text s) s
  /-- A group that took part, the whole match among them, and what it holds. -/
  | held {n : Nat} {s : List Char} (hn : n < groups + 1) (hg : m.group ⟨n, hn⟩ = some s) :
      Stands m (.index n) s
  /-- A group that took no part. -/
  | idle {n : Nat} (hn : n < groups + 1) (hg : m.group ⟨n, hn⟩ = none) : Stands m (.index n) []
  /-- A number beyond the groups of the pattern. -/
  | absent {n : Nat} (hn : groups < n) : Stands m (.index n) []

theorem held_group {n : Nat} (hn : n < groups + 1) : held m n = (m.group ⟨n, hn⟩).getD [] :=
  dif_pos (Nat.le_of_lt_succ hn)

theorem held_absent {n : Nat} (hn : groups < n) : held m n = [] :=
  dif_neg (Nat.not_le_of_lt hn)

/-- **Every node stands for something**, whatever number a reference has. -/
theorem stands_renderNode (m : Match groups) (node : TemplateNode) :
    Stands m node (Template.renderNode (held m) node) := by
  cases node with
  | text s => exact .literal s
  | index n =>
    rw [Template.renderNode]
    rcases Nat.lt_or_ge groups n with hbeyond | hn
    · rw [held_absent hbeyond]
      exact .absent hbeyond
    · have hlt : n < groups + 1 := Nat.lt_succ_of_le hn
      rw [held_group hlt]
      cases hg : m.group ⟨n, hlt⟩ with
      | none => exact .idle hlt hg
      | some s => exact .held hlt hg

end

variable {E : Engine} {text : List Char}

/-- A replacement is what the nodes stand for, one after another. -/
theorem exists_stands (rule : Rule E) (m : Match (E.groups rule.pattern)) :
    ∃ texts, List.Forall₂ (Stands m) rule.template texts ∧ rule.expand m = texts.flatten := by
  refine ⟨rule.template.map (Template.renderNode (held m)), ?_, ?_⟩
  · rw [List.forall₂_map_right_iff, List.forall₂_same]
    intro node _
    exact stands_renderNode m node
  · rw [expand, Template.render, List.flatMap_def]

/-- A replacement that is a reference to the whole match is what was matched. -/
theorem expand_whole {rule : Rule E} (h : rule.template = [.index 0])
    {m : Match (E.groups rule.pattern)} (hm : m.group 0 = some (m.matched text)) :
    rule.expand m = m.matched text := by
  have hheld : held m 0 = m.matched text := by
    rw [held_group (Nat.succ_pos _)]
    exact congrArg (Option.getD · []) hm
  rw [expand, h, Template.render]
  simp [Template.renderNode, hheld]

/-! ## The result of a rule -/

/-- The matches that a rule replaces: all of them under the global flag, else the first. -/
def replaced {α : Type} (rule : Rule E) (found : List α) : List α :=
  if rule.global then found else found.take 1

theorem limited_replaced {α : Type} (rule : Rule E) (found : List α) :
    limited (if rule.global then 0 else 1) found = rule.replaced found := by
  unfold limited replaced
  cases rule.global <;> rfl

theorem mem_of_mem_replaced {α : Type} {rule : Rule E} {found : List α} {a : α}
    (h : a ∈ rule.replaced found) : a ∈ found := by
  unfold replaced at h
  split at h
  · exact h
  · exact List.mem_of_mem_take h

theorem replaced_nil {α : Type} (rule : Rule E) : rule.replaced ([] : List α) = [] := by
  unfold replaced
  split <;> rfl

/-- **A rule touches only the matches.** Along a text, the engine finds some matches.

* The matches that the rule replaces are all of them under the global flag, else the first that was
  found. In the order of the text, the text is the gaps between them with what was matched between
  the gaps, and the result is the same gaps with the replacements. There is a result, and with a
  limit on the time there is the same one or none.
* A replacement is what the nodes of the template stand for, in order. Every node stands for
  something, so no number is too large.
* A rule whose template is a reference to the whole match changes nothing, and a rule without a
  match changes nothing. -/
theorem apply_touches_matches (hsteady : E.Steady) (rule : Rule E)
    {found : List (Match (E.groups rule.pattern))} (h : E.Finds rule.pattern text found) :
    (∃ ms : List (Match (E.groups rule.pattern)),
      ms.Perm (rule.replaced found) ∧ InOrder text.length 0 ms ∧
      text = weave (gapsFrom text 0 ms) (ms.map (Match.matched text)) ∧
      rule.apply text none = some (weave (gapsFrom text 0 ms) (ms.map rule.expand)) ∧
      ∀ timeout, rule.apply text (some timeout) = none ∨
        rule.apply text (some timeout) = some (weave (gapsFrom text 0 ms) (ms.map rule.expand))) ∧
    (∀ m : Match (E.groups rule.pattern), ∃ texts,
      List.Forall₂ (Stands m) rule.template texts ∧ rule.expand m = texts.flatten) ∧
    (rule.template = [.index 0] → rule.apply text none = some text) ∧
    (found = [] → rule.apply text none = some text) := by
  obtain ⟨ms, hperm, horder, hsub⟩ := h.replaced (if rule.global then 0 else 1)
  rw [limited_replaced] at hperm
  have hresult : rule.apply text none = some (Regex.splice rule.expand text ms) :=
    hsub rule.expand
  have hwoven : rule.apply text none = some (weave (gapsFrom text 0 ms) (ms.map rule.expand)) := by
    rw [hresult, Regex.splice_eq_weave rule.expand horder]
  refine ⟨⟨ms, hperm, horder, ?text, hwoven, ?timed⟩, exists_stands rule, ?whole, ?nothing⟩
  case text =>
    rw [Regex.weave_slices horder, List.drop_zero]
  case timed =>
    intro timeout
    rw [← hwoven]
    exact hsteady _ _ _ _ timeout
  case whole =>
    intro htemplate
    -- The matches that are replaced are among those that were found, so group 0 is known of them.
    rw [hresult, Regex.splice_matched horder]
    intro m hm
    exact expand_whole htemplate (h.whole m (mem_of_mem_replaced (hperm.mem_iff.mp hm)))
  case nothing =>
    intro hnone
    rw [hnone, replaced_nil] at hperm
    rw [hresult, hperm.eq_nil]
    rfl

/-- The rule `s/a(b)?/<$1$7>/g`, with a group that need not take part and a number beyond it. -/
def idleRule : List Char :=
  ['s', '/', 'a', '(', 'b', ')', '?', '/', '<', '$', '1', '$', '7', '>', '/', 'g']

theorem apply_touches_matches_idle :
    ∃ rule : Rule Backtracking.engine, parse? Backtracking.engine idleRule = .ok (some rule) ∧
      ∃ ms : List (Match (Backtracking.engine.groups rule.pattern)),
        ms.Perm (rule.replaced (Backtracking.found rule.pattern 0 ['a', 'b', '-', 'a'])) ∧
        weave (gapsFrom ['a', 'b', '-', 'a'] 0 ms) (ms.map rule.expand) =
          ['<', 'b', '>', '-', '<', '>'] := by
  have hresult : (parse? Backtracking.engine idleRule).toOption.join.bind
      (fun rule => rule.apply ['a', 'b', '-', 'a'] none) = some ['<', 'b', '>', '-', '<', '>'] := by
    decide +kernel
  obtain ⟨rule, hrule, happly⟩ := Option.bind_eq_some_iff.mp hresult
  have hparse : parse? Backtracking.engine idleRule = .ok (some rule) := by
    cases h : parse? Backtracking.engine idleRule with
    | error e => simp [h, Except.toOption] at hrule
    | ok rule? =>
      rw [h] at hrule
      simpa [Except.toOption] using hrule
  obtain ⟨⟨ms, hperm, -, -, hwoven, -⟩, -⟩ := apply_touches_matches Backtracking.engine_steady rule
    (Backtracking.engine_finds rule.pattern ['a', 'b', '-', 'a'])
  refine ⟨rule, hparse, ms, hperm, ?_⟩
  rw [hwoven] at happly
  exact Option.some.inj happly

end SubstBot.Rule
