import TagRules.Text.Quoted

/-!
Rule expressions. A complete expression is made of units, connectives and negations; `hole` stands for
an operand that was never given and `unset` for a node of no kind, so that unfinished trees can be
talked about too.
-/
namespace TagRules

/-- A tag, and the field path it is looked for under; the empty path asks for the tag anywhere. -/
structure Reference where
  name : String
  scope : String
  deriving DecidableEq, Repr, Inhabited

namespace Reference

def text (r : Reference) : String :=
  if r.scope.isEmpty then r.name else r.name ++ "[" ++ r.scope ++ "]"

def display (r : Reference) : String :=
  "TagReference(name=" ++ Quoted.text r.name ++ ", field_path=" ++ Quoted.text r.scope ++ ")"

end Reference

/-- The two connectives, of one precedence. -/
inductive Connective
  | and
  | or
  deriving DecidableEq, Repr, Inhabited

namespace Connective

def name : Connective → String
  | .and => "AND"
  | .or => "OR"

def apply : Connective → Bool → Bool → Bool
  | .and, a, b => a && b
  | .or, a, b => a || b

/-- Whether one operand settles the outcome. -/
def isDecidedBy : Connective → Bool → Bool
  | .and, a => !a
  | .or, a => a

@[simp] theorem apply_of_isDecidedBy {op : Connective} {a : Bool} (h : op.isDecidedBy a = true) (b : Bool) :
    op.apply a b = a := by
  cases op <;> simp_all [isDecidedBy, apply]

end Connective

inductive Expr
  | hole
  | unset
  | unit (tag : Reference)
  | binary (op : Connective) (left right : Expr)
  | not (operand : Expr)
  deriving DecidableEq, Repr, Inhabited

namespace Expr

def kind : Expr → String
  | .hole | .unset => "UNSET"
  | .unit _ => "UNIT"
  | .binary op _ _ => op.name
  | .not _ => "NOT"

def typeName : Expr → String
  | .hole => "NoneType"
  | .unset => "ASTNode"
  | .unit _ => "Unit"
  | .binary .and _ _ => "And"
  | .binary .or _ _ => "Or"
  | .not _ => "Not"

/-- The operand slots, left to right. -/
def slots : Expr → List Expr
  | .binary _ a b => [a, b]
  | .not a => [a]
  | _ => []

def isHole (e : Expr) : Bool := e = .hole

/-- The number of nodes and holes. -/
def size : Expr → Nat
  | .binary _ a b => a.size + b.size + 1
  | .not a => a.size + 1
  | _ => 1

/-- No operand is missing and every node has a kind. -/
def isComplete : Expr → Bool
  | .hole | .unset => false
  | .unit _ => true
  | .binary _ a b => a.isComplete && b.isComplete
  | .not a => a.isComplete

def display : Expr → String
  | .hole => "None"
  | .unset => "ASTNode()"
  | .unit r => "Unit(tag=" ++ r.display ++ ")"
  | .binary op a b => (binary op a b).typeName ++ "(left=" ++ a.display ++ ", right=" ++ b.display ++ ")"
  | .not a => "Not(operand=" ++ a.display ++ ")"

theorem size_pos (e : Expr) : 0 < e.size := by cases e <;> simp [size]

/-- The total size of the trees on a stack. -/
def stackSize : List Expr → Nat
  | [] => 0
  | e :: rest => e.size + stackSize rest

@[simp] theorem stackSize_cons (e : Expr) (rest : List Expr) :
    stackSize (e :: rest) = e.size + stackSize rest := rfl

end Expr
end TagRules
