import TagRules.Expr.Evaluate

/-!
Evaluation without recursion. A `SolveOrder` lists the nodes of a tree in preorder with the positions of
their operands; solving sweeps the list from its end, so that operands are known before their nodes. It
is built once for an expression and solved on any evidence.
-/
namespace TagRules

/-- Nodes, and for each node the positions of its operand slots, nothing for an empty slot. -/
structure SolveOrder where
  nodes : Array Expr
  slots : Array (Array (Option Int))
  deriving DecidableEq, Repr

namespace SolveOrder

/-- Where an operand belongs: the position of its node and the number of the slot. -/
abbrev Link := Option (Nat × Nat)

/-- Adds a node with empty slots and enters it in the slot it belongs to. -/
def place (o : SolveOrder) (e : Expr) (link : Link) : SolveOrder :=
  let slots := match link with
    | none => o.slots
    | some (parent, i) => o.slots.modify parent fun s => s.setIfInBounds i (some (o.nodes.size : Int))
  ⟨o.nodes.push e, slots.push (Array.replicate e.slots.length none)⟩

/-- Lays out the trees on a stack in preorder. -/
def layOut : List (Expr × Link) → SolveOrder → SolveOrder
  | [], o => o
  | (.hole, _) :: rest, o => layOut rest o
  | (.unset, link) :: rest, o => layOut rest (o.place .unset link)
  | (.unit r, link) :: rest, o => layOut rest (o.place (.unit r) link)
  | (.binary op a b, link) :: rest, o =>
    layOut ((a, some (o.nodes.size, 0)) :: (b, some (o.nodes.size, 1)) :: rest) (o.place (.binary op a b) link)
  | (.not a, link) :: rest, o => layOut ((a, some (o.nodes.size, 0)) :: rest) (o.place (.not a) link)
termination_by stack => Expr.stackSize (stack.map Prod.fst)
decreasing_by all_goals simp [Expr.size]; try omega

def ofExpr (e : Expr) : SolveOrder := layOut [(e, none)] ⟨#[], #[]⟩

def size (o : SolveOrder) : Nat := o.nodes.size

/-- The place that a position stands for among so many; a negative one counts from the end. -/
def index? (size : Nat) (position : Int) : Option Nat :=
  let i := if position < 0 then position + size else position
  if 0 ≤ i ∧ i < size then some i.toNat else none

/-- The greatest size of a position outside the list that can still be named as such. -/
def positionLimit : Nat := 1 <<< 63

/-- The value at a position; one that has not been computed yet is false. -/
def valueAt (values : Array Bool) (position : Int) : Except EvaluationError Bool :=
  match index? values.size position with
  | some i => .ok (values.getD i false)
  | none =>
    if position < -positionLimit ∨ positionLimit ≤ position then .error .farOutside else .error .outside

def operand (slots : Array (Option Int)) (values : Array Bool) (i : Nat) : Except EvaluationError Bool :=
  match slots[i]?.join with
  | some position => valueAt values position
  | none => .error .slotMissing

/-- The value of a node, given the values behind it. The second operand of a connective is looked at only
if the first one does not decide. -/
def nodeValue (evidence : Evidence) (values : Array Bool) (e : Expr) (slots : Array (Option Int)) :
    Except EvaluationError Bool :=
  match e with
  | .unit r => .ok (evidence.meets r)
  | e =>
    if slots.contains none then .error (if e.isHole then .noNode else .missingOperand e) else
    match e with
    | .binary op _ _ => do
      let x ← operand slots values 0
      if op.isDecidedBy x then return x
      return op.apply x (← operand slots values 1)
    | .not _ => do return !(← operand slots values 0)
    | e => .error (.unknownNode e)

/-- Computes the values below a position, from the last one down. -/
def sweep (o : SolveOrder) (evidence : Evidence) : Nat → Array Bool → Except EvaluationError (Array Bool)
  | 0, values => .ok values
  | p + 1, values => do
    let some slots := o.slots[p]? | .error .slotMissing
    let v ← nodeValue evidence values (o.nodes.getD p .hole) slots
    sweep o evidence p (values.setIfInBounds p v)

/-- The truth value of the first node on some evidence. -/
def solve (o : SolveOrder) (evidence : Evidence) : Except EvaluationError Bool :=
  if o.nodes.isEmpty then .error .noNodes else do
    let values ← sweep o evidence o.size (Array.replicate o.size false)
    return values.getD 0 false

end SolveOrder
end TagRules
