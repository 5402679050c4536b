import TagRules.Expr.Evidence

/-!
Evaluation by recursion on the tree. Both operands of a connective are evaluated, and an unfinished tree
is an error whatever the evidence says.
-/
namespace TagRules

/-- Why a tree, or an order of nodes, has no truth value. -/
inductive EvaluationError
  | noNodes
  | unknownNode (e : Expr)
  | missingOperand (e : Expr)
  | missingSide (e : Expr)
  | noOperand (e : Expr)
  | noNode
  | slotMissing
  | outside
  | farOutside
  deriving DecidableEq, Repr

namespace EvaluationError

def message : EvaluationError → String
  | .noNodes => "Malformed solver order: no nodes"
  | .unknownNode e => "Unknown node type: " ++ e.typeName
  | .missingOperand e => e.kind ++ " node is missing a required operand: " ++ e.display
  | .missingSide e => e.kind ++ " node is missing its left or right operand: " ++ e.display
  | .noOperand e => e.kind ++ " node has no operand: " ++ e.display
  | .noNode => "'NoneType' object has no attribute 'kind'"
  | .slotMissing => "tuple index out of range"
  | .outside => "list index out of range"
  | .farOutside => "cannot fit 'int' into an index-sized integer"

end EvaluationError
namespace Expr

def evaluate (evidence : Evidence) : Expr → Except EvaluationError Bool
  | .unit r => .ok (evidence.meets r)
  | .binary op a b =>
    if a.isHole || b.isHole then .error (.missingSide (.binary op a b)) else do
      let x ← a.evaluate evidence
      let y ← b.evaluate evidence
      return op.apply x y
  | .not a =>
    if a.isHole then .error (.noOperand (.not a)) else do
      let x ← a.evaluate evidence
      return !x
  | .hole => .error (.unknownNode .hole)
  | .unset => .error (.unknownNode .unset)

end Expr
end TagRules
