import SubstBot.Console.Plain
import SubstBot.Proofs.Text.ControlSequence

/-!
# `SubstBot/Proofs/Console/Shell.lean` — what a shell is known by

A shell finds out what the arguments of a command line ask for, and it prints. Of the first it is
known that `apply` takes two arguments, the rule and the text, and that an argument is no option unless
it begins with a dash. Of the second it is known what becomes of a text that is printed as it stands,
where there is no terminal to print it to: **the control sequences are taken out of it** and the line
is ended.

How a text is printed to a person, and what a shell says to arguments that it cannot use, is left open.
-/

set_option autoImplicit false

namespace SubstBot.Console

/-- A text without a dash at its start, which is taken for no option wherever it stands. -/
def Undashed (s : String) : Prop :=
  s.toList.head? ≠ some '-'

structure Shell.Documented (S : Shell) : Prop where
  arguments : ∀ rule text, Undashed rule → Undashed text →
    S.read ["apply", rule, text] = .ok (.apply rule text)
  echoed : ∀ s, ∃ line, Text.Unstyled s.toList line ∧ S.echoed s = String.ofList (line ++ ['\n'])

/-! ## The plain shell -/

namespace Plain

theorem isOption_eq_false {s : String} (h : Undashed s) : isOption s = false := by
  have hstart : s.startsWith "-" = false := by
    rw [← Bool.not_eq_true, String.startsWith_string_iff]
    rintro ⟨rest, hrest⟩
    apply h
    rw [← hrest]
    rfl
  rw [isOption, hstart, Bool.and_false]

theorem sortArguments_words {known args : List String} (h : ∀ a ∈ args, isOption a = false) :
    sortArguments known args = .ok (args, []) := by
  induction args with
  | nil => rfl
  | cons a args ih =>
    have ha : isOption a = false := h a List.mem_cons_self
    have hdashes : a ≠ "--" := by
      rintro rfl
      exact absurd ha (by decide +kernel)
    rw [sortArguments, if_neg hdashes, ha, ih fun b hb => h b (List.mem_cons_of_mem a hb)]
    rfl

theorem shell_documented : shell.Documented where
  arguments rule text hrule htext := by
    have hread : shell.read ["apply", rule, text] = readApply [rule, text] := rfl
    rw [hread, readApply,
      sortArguments_words (by simp [isOption_eq_false hrule, isOption_eq_false htext])]
  echoed s := by
    refine ⟨Text.dropControls s.toList, Text.unstyled_dropControls _, ?_⟩
    have hechoed : shell.echoed s = echoed s := rfl
    rw [hechoed, echoed, Text.dropControls_concat rfl]

end Plain

end SubstBot.Console
