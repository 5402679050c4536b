import TagRules.Expr.SolveOrder
import TagRules.Proofs.Evaluation.Truth

/-!
The order of an expression is its preorder. Laying out a tree from a stack adds its nodes behind those already
there, each with the positions of its operands, and enters the tree where it belongs; so the
order of a whole expression is given by plain recursion on the tree.
-/
namespace TagRules

namespace Expr

/-- The nodes of an expression, each before its operands and those left to right. -/
def preorder : Expr → List Expr
  | .hole => []
  | .binary op a b => .binary op a b :: (a.preorder ++ b.preorder)
  | .not a => .not a :: a.preorder
  | e => [e]

/-- What a slot says of an operand that is laid out from a position on. -/
def link (e : Expr) (position : Nat) : Option Int := if e.isHole then none else some position

/-- The slots of the nodes of an expression that is laid out from a position on. -/
def slotsFrom (position : Nat) : Expr → List (Array (Option Int))
  | .hole => []
  | .binary _ a b =>
    #[a.link (position + 1), b.link (position + 1 + a.preorder.length)] ::
      (a.slotsFrom (position + 1) ++ b.slotsFrom (position + 1 + a.preorder.length))
  | .not a => #[a.link (position + 1)] :: a.slotsFrom (position + 1)
  | .unit _ | .unset => [#[]]

@[simp] lemma length_slotsFrom (e : Expr) (position : Nat) :
    (e.slotsFrom position).length = e.preorder.length := by
  induction e generalizing position with
  | hole | unset | unit => rfl
  | binary op a b iha ihb => simp [slotsFrom, preorder, iha, ihb]
  | not a ih => simp [slotsFrom, preorder, ih]

end Expr
namespace SolveOrder

lemma modify_length_append {α : Type} (xs : List α) (a : α) (ys : List α) (f : α → α) :
    (xs ++ a :: ys).modify xs.length f = xs ++ f a :: ys := by
  induction xs with
  | nil => rfl
  | cons x xs ih => simp [ih]

/-- Enters a position in the slot that a link names. -/
def enter (slots : List (Array (Option Int))) (position : Nat) : Link → List (Array (Option Int))
  | none => slots
  | some (parent, i) => slots.modify parent fun s => s.setIfInBounds i (some position)

@[simp] lemma length_enter (slots : List (Array (Option Int))) (position : Nat) (link : Link) :
    (enter slots position link).length = slots.length := by
  cases link <;> simp [enter]

/-- The slots after a tree was laid out behind them. -/
def graft (slots : List (Array (Option Int))) (e : Expr) (position : Nat) (link : Link) :
    List (Array (Option Int)) :=
  (if e.isHole then slots else enter slots position link) ++ e.slotsFrom position

@[simp] lemma length_graft (slots : List (Array (Option Int))) (e : Expr) (position : Nat) (link : Link) :
    (graft slots e position link).length = slots.length + e.preorder.length := by
  unfold graft
  split <;> simp

/-- An operand is entered in the slots of its node, which come right behind those of the nodes before it. -/
lemma graft_operand (xs : List (Array (Option Int))) (s : Array (Option Int)) (ys : List (Array (Option Int)))
    (e : Expr) (position i : Nat) {n : Nat} (hn : xs.length = n) :
    graft (xs ++ s :: ys) e position (some (n, i)) =
      xs ++ (if e.isHole then s else s.setIfInBounds i (some position)) :: (ys ++ e.slotsFrom position) := by
  subst hn
  unfold graft enter
  split <;> simp [modify_length_append]

lemma place_toArray (nodes : List Expr) (slots : List (Array (Option Int))) (e : Expr) (link : Link) :
    place ⟨nodes.toArray, slots.toArray⟩ e link = ⟨(nodes ++ [e]).toArray,
      (enter slots nodes.length link ++ [Array.replicate e.slots.length none]).toArray⟩ := by
  cases link <;> simp [place, enter]

/-- Laying out the first tree on a stack appends its preorder and its slots. -/
theorem layOut_cons (e : Expr) (link : Link) (rest : List (Expr × Link)) (nodes : List Expr)
    (slots : List (Array (Option Int))) (h : slots.length = nodes.length) :
    layOut ((e, link) :: rest) ⟨nodes.toArray, slots.toArray⟩ =
      layOut rest ⟨(nodes ++ e.preorder).toArray, (graft slots e nodes.length link).toArray⟩ := by
  induction e generalizing link rest nodes slots with
  | hole => simp [layOut, graft, Expr.preorder, Expr.slotsFrom]
  | unset | unit => simp [layOut, place_toArray, graft, Expr.preorder, Expr.slotsFrom, Expr.slots]
  | binary op a b iha ihb =>
    have hn : (enter slots nodes.length link).length = nodes.length := by simp [h]
    have hs : graft (graft (enter slots nodes.length link ++ [#[none, none]]) a (nodes.length + 1)
          (some (nodes.length, 0))) b (nodes.length + 1 + a.preorder.length) (some (nodes.length, 1)) =
        graft slots (.binary op a b) nodes.length link := by
      rw [graft_operand _ _ _ _ _ _ hn, graft_operand _ _ _ _ _ _ hn]
      cases ha : a.isHole <;> cases hb : b.isHole <;>
        simp [graft, Expr.slotsFrom, Expr.link, ha, hb]
    rw [layOut, place_toArray]
    simp only [List.size_toArray, Expr.slots, List.length_cons, List.length_nil]
    rw [iha _ _ _ _ (by simp [h]), ihb _ _ _ _ (by simp [h]; omega)]
    simp only [List.length_append, List.length_singleton]
    rw [show Array.replicate (0 + 1 + 1) (none : Option Int) = #[none, none] from rfl, hs]
    simp [Expr.preorder]
  | not a ih =>
    have hn : (enter slots nodes.length link).length = nodes.length := by simp [h]
    have hs : graft (enter slots nodes.length link ++ [#[none]]) a (nodes.length + 1) (some (nodes.length, 0)) =
        graft slots (.not a) nodes.length link := by
      rw [graft_operand _ _ _ _ _ _ hn]
      cases ha : a.isHole <;> simp [graft, Expr.slotsFrom, Expr.link, ha]
    rw [layOut, place_toArray]
    simp only [List.size_toArray, Expr.slots, List.length_cons, List.length_nil]
    rw [ih _ _ _ _ (by simp [h])]
    simp only [List.length_append, List.length_singleton]
    rw [show Array.replicate (0 + 1) (none : Option Int) = #[none] from rfl, hs]
    simp [Expr.preorder]

/-- The order of an expression is its preorder, with each slot telling where its operand begins. -/
theorem ofExpr_eq (e : Expr) : ofExpr e = ⟨e.preorder.toArray, (e.slotsFrom 0).toArray⟩ := by
  have h := layOut_cons e none [] [] [] rfl
  simpa [layOut, graft, enter, ofExpr] using h

end SolveOrder
end TagRules
