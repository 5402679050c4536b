import TagRules.Expr.Basic

/-!
Walks over expressions in preorder with a stack of their own, so that their depth is no limit: the
references of a tree, and its layout with one node a line.
-/
namespace TagRules.Expr

/-- The references of the trees on a stack, in the order in which they are reached. -/
def referencesOn : List Expr → List Reference
  | [] => []
  | .unit r :: rest => r :: referencesOn rest
  | .binary _ a b :: rest => referencesOn (a :: b :: rest)
  | .not a :: rest => referencesOn (a :: rest)
  | .hole :: rest | .unset :: rest => referencesOn rest
termination_by stack => stackSize stack
decreasing_by all_goals simp [size]; try omega

def references (e : Expr) : List Reference := referencesOn [e]

/-- What a node shows on its line. -/
def label : Expr → String
  | .unit r => r.text
  | e => e.kind

/-- Four spaces for each level. -/
def indent (level : Nat) : String := .ofList (List.replicate (4 * level) ' ')

def line (level : Nat) (e : Expr) : String := indent level ++ e.label ++ "\n"

/-- The lines of the trees on a stack, each tree with its level. -/
def linesOn : List (Expr × Nat) → List String
  | [] => []
  | (.hole, _) :: rest => linesOn rest
  | (.unset, level) :: rest => line level .unset :: linesOn rest
  | (.unit r, level) :: rest => line level (.unit r) :: linesOn rest
  | (.binary op a b, level) :: rest =>
    line level (.binary op a b) :: linesOn ((a, level + 1) :: (b, level + 1) :: rest)
  | (.not a, level) :: rest => line level (.not a) :: linesOn ((a, level + 1) :: rest)
termination_by stack => stackSize (stack.map Prod.fst)
decreasing_by all_goals simp [size]; try omega

/-- An expression as an indented tree, one node a line. -/
def pretty (e : Expr) : String := String.join (linesOn [(e, 0)])

end TagRules.Expr
