import TagRules.Proofs.Evaluation.Linear

/-!
The two evaluators agree. Solving the order of an expression and recursion on the expression give the same value,
and both refuse an expression exactly when an operand is missing somewhere in it or a node is of no kind.
-/
namespace TagRules

/-- An expression is found in another one, itself included; a hole is found where an operand is missing. -/
inductive Expr.Within : Expr → Expr → Prop
  | self (e : Expr) : Within e e
  | left {e a : Expr} (op : Connective) (b : Expr) : Within e a → Within e (.binary op a b)
  | right {e b : Expr} (op : Connective) (a : Expr) : Within e b → Within e (.binary op a b)
  | operand {e a : Expr} : Within e a → Within e (.not a)

/-- An evaluation has found something wrong with the expression. -/
def Refused (r : Except EvaluationError Bool) : Prop := ∃ x, r = .error x ∧ x.IsStructural

lemma Expr.isComplete_eq_false_iff {e : Expr} :
    e.isComplete = false ↔ Within .hole e ∨ Within .unset e := by
  induction e with
  | hole => exact ⟨fun _ => .inl (.self _), fun _ => rfl⟩
  | unset => exact ⟨fun _ => .inr (.self _), fun _ => rfl⟩
  | unit r =>
    refine ⟨fun h => (by cases h), ?_⟩
    rintro (h | h) <;> cases h
  | binary op a b iha ihb =>
    simp only [isComplete, Bool.and_eq_false_iff, iha, ihb]
    constructor
    · rintro ((h | h) | (h | h))
      · exact .inl (h.left op b)
      · exact .inr (h.left op b)
      · exact .inl (h.right op a)
      · exact .inr (h.right op a)
    · rintro (h | h)
      · cases h with
        | left _ _ h => exact .inl (.inl h)
        | right _ _ h => exact .inr (.inl h)
      · cases h with
        | left _ _ h => exact .inl (.inr h)
        | right _ _ h => exact .inr (.inr h)
  | not a ih =>
    simp only [isComplete, ih]
    constructor
    · rintro (h | h)
      · exact .inl h.operand
      · exact .inr h.operand
    · rintro (h | h)
      · cases h with
        | operand h => exact .inl h
      · cases h with
        | operand h => exact .inr h

namespace SolveOrder

/-- The two evaluators give the same truth value on all evidence. Both refuse an expression exactly when a part of it
is missing or of no kind, whatever the evidence says and whatever the other operands decide. -/
theorem solve_agrees_with_evaluate (e : Expr) (evidence : Evidence) :
    (∀ b, (ofExpr e).solve evidence = .ok b ↔ e.evaluate evidence = .ok b) ∧
      (Refused ((ofExpr e).solve evidence) ↔ Refused (e.evaluate evidence)) ∧
      (Refused ((ofExpr e).solve evidence) ↔ Expr.Within .hole e ∨ Expr.Within .unset e) ∧
      (Refused (e.evaluate evidence) ↔ Expr.Within .hole e ∨ Expr.Within .unset e) := by
  rw [← Expr.isComplete_eq_false_iff]
  cases he : e.isComplete with
  | true =>
    rw [solve_ofExpr he, Expr.evaluate_of_isComplete evidence he]
    simp [Refused]
  | false =>
    obtain ⟨x, hx, hxs⟩ := solve_ofExpr_error he evidence
    obtain ⟨y, hy, hys⟩ := Expr.evaluate_of_not_isComplete evidence he
    rw [hx, hy]
    simp [Refused, hxs, hys]

end SolveOrder
end TagRules
