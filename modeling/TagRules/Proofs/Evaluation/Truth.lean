import TagRules.Expr.Evaluate
import Mathlib.Tactic.Lemma

/-!
The plain meaning of expressions. A complete expression is true or false once it is known which references
are met; evaluation gives that value, and an incomplete expression has none on any evidence.
-/
namespace TagRules

/-- What is wrong with an expression, as against a list of nodes that does not hang together. -/
def EvaluationError.IsStructural : EvaluationError → Prop
  | .noNodes | .unknownNode _ | .missingOperand _ | .missingSide _ | .noOperand _ => True
  | .noNode | .slotMissing | .outside | .farOutside => False

namespace Expr

/-- The truth of an expression, given which references are met; a missing part is not true. -/
def truth (met : Reference → Bool) : Expr → Bool
  | .unit r => met r
  | .binary .and a b => a.truth met && b.truth met
  | .binary .or a b => a.truth met || b.truth met
  | .not a => !a.truth met
  | .hole | .unset => false

/-- What the connectives do to values they do to what is true. -/
lemma truth_binary (met : Reference → Bool) (op : Connective) (a b : Expr) :
    (binary op a b).truth met = op.apply (a.truth met) (b.truth met) := by
  cases op <;> rfl

@[simp] lemma isHole_hole : isHole .hole = true := rfl
@[simp] lemma isHole_unset : isHole .unset = false := rfl
@[simp] lemma isHole_unit (r : Reference) : isHole (.unit r) = false := rfl
@[simp] lemma isHole_binary (op : Connective) (a b : Expr) : isHole (.binary op a b) = false := rfl
@[simp] lemma isHole_not (a : Expr) : isHole (.not a) = false := rfl

lemma eq_hole_of_isHole {e : Expr} (h : e.isHole = true) : e = .hole := by simpa [isHole] using h

lemma not_isHole_of_isComplete {e : Expr} (h : e.isComplete = true) : e.isHole = false := by
  cases e <;> simp_all [isComplete]

theorem evaluate_of_isComplete (evidence : Evidence) {e : Expr} (h : e.isComplete = true) :
    e.evaluate evidence = .ok (e.truth evidence.meets) := by
  induction e with
  | hole | unset => cases h
  | unit r => rfl
  | binary op a b iha ihb =>
    simp only [isComplete, Bool.and_eq_true] at h
    simp only [evaluate, not_isHole_of_isComplete h.1, not_isHole_of_isComplete h.2, iha h.1, ihb h.2, truth_binary]
    rfl
  | not a ih =>
    have ha : a.isComplete = true := h
    simp only [evaluate, not_isHole_of_isComplete ha, ih ha]
    rfl

/-- Operands are evaluated even where they cannot change the outcome, so that no evidence hides a missing one. -/
theorem evaluate_of_not_isComplete (evidence : Evidence) {e : Expr} (h : e.isComplete = false) :
    ∃ x, e.evaluate evidence = .error x ∧ x.IsStructural := by
  induction e with
  | hole | unset => exact ⟨_, rfl, trivial⟩
  | unit r => cases h
  | binary op a b iha ihb =>
    by_cases hh : a.isHole || b.isHole
    · exact ⟨.missingSide (.binary op a b), by simp only [evaluate, hh, if_true], trivial⟩
    simp only [evaluate, hh]
    cases ha : a.isComplete with
    | false =>
      obtain ⟨x, hx, hs⟩ := iha ha
      exact ⟨x, by rw [hx]; rfl, hs⟩
    | true =>
      have hb : b.isComplete = false := by simpa [isComplete, ha] using h
      obtain ⟨x, hx, hs⟩ := ihb hb
      exact ⟨x, by rw [evaluate_of_isComplete evidence ha, hx]; rfl, hs⟩
  | not a ih =>
    by_cases hh : a.isHole
    · exact ⟨.noOperand (.not a), by simp only [evaluate, hh, if_true], trivial⟩
    · obtain ⟨x, hx, hs⟩ := ih h
      exact ⟨x, by simp only [evaluate, hh, hx]; rfl, hs⟩

end Expr
end TagRules
