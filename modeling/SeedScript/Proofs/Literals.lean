import SeedScript.Literal

/-!
# Texts of literals

Quoting only puts characters into a text, and at least the two quotes around it. So a cell is
written as it is, without quotes, exactly when compat mode takes it for an expression; null tokens
are no expressions (`LiteralMode.literal_eq_self_iff`).
-/

namespace SeedScript

namespace Literal

theorem sublist_doubleQuotes (cs : List Char) : cs.Sublist (doubleQuotes cs) := by
  induction cs with
  | nil => exact .slnil
  | cons c cs ih =>
    rw [doubleQuotes]
    split
    · rename_i hc
      rw [hc]
      exact (ih.cons _).cons_cons _
    · exact ih.cons_cons c

theorem doubleQuotes_eq_self_iff {cs : List Char} : doubleQuotes cs = cs ↔ '\'' ∉ cs := by
  induction cs with
  | nil => simp [doubleQuotes]
  | cons c cs ih =>
    rw [doubleQuotes, List.mem_cons, not_or]
    split
    · rename_i hc
      refine iff_of_false (fun heq => ?_) fun h => h.1 hc.symm
      have hlength := congrArg List.length heq
      have hle := (sublist_doubleQuotes cs).length_le
      simp only [List.length_cons] at hlength
      omega
    · rename_i hc
      rw [List.cons_inj_right, ih, and_iff_right (Ne.symm hc)]

/-- A text that may be an expression or hold quotes is no null token. -/
theorem not_isNullToken {text : String} (h : '(' ∈ text.toList ∨ '\'' ∈ text.toList) :
    ¬ isNullToken text = true := by
  intro hnull
  simp only [isNullToken, Bool.or_eq_true, beq_iff_eq] at hnull
  rcases hnull with (rfl | rfl) | rfl <;> revert h <;> decide

theorem isExpression_iff {text : String} : isExpression text = true ↔ '(' ∈ text.toList :=
  List.contains_iff_mem

end Literal

namespace LiteralMode

theorem length_lt_length_enclose (mode : LiteralMode) (text : String) :
    text.toList.length < (mode.enclose text).toList.length := by
  have hle := (Literal.sublist_doubleQuotes text.toList).length_le
  cases mode with
  | compat =>
    show text.toList.length < ("'" ++ text ++ "'").toList.length
    simp only [String.toList_append, List.length_append]
    have hquote : "'".toList.length = 1 := by decide
    omega
  | strict =>
    show text.toList.length < (Literal.quote text).toList.length
    rw [Literal.toList_quote]
    simp only [List.cons_append, List.length_cons, List.length_append]
    omega

theorem enclose_ne (mode : LiteralMode) (text : String) : mode.enclose text ≠ text := by
  intro heq
  have hlt := mode.length_lt_length_enclose text
  rw [heq] at hlt
  omega

/-- A cell text stands for itself in SQL exactly where compat mode takes it for an expression. -/
theorem literal_eq_self_iff {mode : LiteralMode} {text : String} :
    ¬ Literal.isNullToken text = true ∧ mode.literal text = text ↔
      mode = .compat ∧ Literal.isExpression text = true := by
  unfold literal
  constructor
  · rintro ⟨hnull, heq⟩
    rw [if_neg hnull] at heq
    by_cases h : mode = .compat ∧ Literal.isExpression text = true
    · exact h
    · rw [if_neg h] at heq
      exact absurd heq (mode.enclose_ne text)
  · intro h
    have hnull := Literal.not_isNullToken (.inl (Literal.isExpression_iff.1 h.2))
    rw [if_neg hnull, if_pos h]
    exact ⟨hnull, rfl⟩

end LiteralMode

end SeedScript
