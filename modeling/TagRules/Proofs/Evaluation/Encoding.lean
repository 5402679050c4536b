import TagRules.Proofs.Evaluation.Linear
import Mathlib.Data.List.Infix
import Mathlib.Tactic.SplitIfs

/-!
The order of an expression as an encoding of it. The nodes are the expression in preorder; each slot names the place
where its operand begins, and names none where the operand is missing; and every place but the first is named by one
slot. Nothing is lost by that: the expression is read back from the first place.
-/
namespace TagRules

namespace Expr

/-- The number of nodes of an expression; a missing operand is none. -/
def nodeCount : Expr → Nat
  | .hole => 0
  | .unset | .unit _ => 1
  | .binary _ a b => a.nodeCount + b.nodeCount + 1
  | .not a => a.nodeCount + 1

/-- The number of nodes in the operands before one of them. -/
def nodesBefore : List Expr → Nat → Nat
  | [], _ | _, 0 => 0
  | a :: operands, i + 1 => a.nodeCount + nodesBefore operands i

/-- The slots of a node at a position: the operands begin right behind it, each behind the ones before it. -/
def slotsAt (n : Expr) (position : Nat) : Array (Option Int) :=
  (n.slots.mapIdx fun i a => a.link (position + 1 + nodesBefore n.slots i)).toArray

@[simp] lemma length_preorder (e : Expr) : e.preorder.length = e.nodeCount := by
  induction e with
  | hole | unset | unit => rfl
  | binary op a b iha ihb => simp [preorder, nodeCount, iha, ihb]
  | not a ih => simp [preorder, nodeCount, ih]

lemma link_eq_some_iff {e : Expr} {position : Nat} {q : Int} :
    e.link position = some q ↔ 0 < e.nodeCount ∧ (position : Int) = q := by
  cases e <;> simp [link, nodeCount]

/-- What begins with a node in preorder is the whole part of the expression under it. -/
lemma prefix_drop_preorder {e n : Expr} {i : Nat} (h : e.preorder[i]? = some n) :
    n.preorder <+: e.preorder.drop i := by
  induction e generalizing i with
  | hole => simp [preorder] at h
  | unset | unit =>
    cases i with
    | zero =>
      obtain rfl := Option.some.inj h
      exact List.prefix_rfl
    | succ i => simp [preorder] at h
  | binary op a b iha ihb =>
    cases i with
    | zero =>
      obtain rfl := Option.some.inj h
      exact List.prefix_rfl
    | succ i =>
      simp only [preorder, List.getElem?_cons_succ, List.getElem?_append] at h
      rw [preorder, List.drop_succ_cons, List.drop_append]
      split at h
      next hi => exact (iha h).trans (List.prefix_append _ _)
      next hi =>
        rw [List.drop_eq_nil_of_le (by omega), List.nil_append]
        exact ihb h
  | not a ih =>
    cases i with
    | zero =>
      obtain rfl := Option.some.inj h
      exact List.prefix_rfl
    | succ i => exact ih h

/-- Among the nodes of some operands, one of them begins behind those before it. -/
lemma prefix_drop_flatMap {operands : List Expr} {i : Nat} {a : Expr} (h : operands[i]? = some a) :
    a.preorder <+: (operands.flatMap preorder).drop (nodesBefore operands i) := by
  induction operands generalizing i with
  | nil => simp at h
  | cons b operands ih =>
    cases i with
    | zero =>
      obtain rfl := Option.some.inj h
      exact List.prefix_append _ _
    | succ i =>
      have hb : nodesBefore (b :: operands) (i + 1) = b.preorder.length + nodesBefore operands i := by
        simp [nodesBefore]
      rw [hb, List.flatMap_cons, List.drop_length_add_append]
      exact ih h

/-- The operands come right behind their node. -/
lemma prefix_drop_operand {n a : Expr} {i : Nat} (h : n.slots[i]? = some a) :
    a.preorder <+: n.preorder.drop (1 + nodesBefore n.slots i) := by
  have hn : n.preorder.drop 1 = n.slots.flatMap preorder := by cases n <;> simp [preorder, slots]
  rw [← List.drop_drop, hn]
  exact prefix_drop_flatMap h

/-- The slots of every node in an expression that is laid out are those of its place. -/
lemma getElem?_slotsFrom {e n : Expr} {position i : Nat} (h : e.preorder[i]? = some n) :
    (e.slotsFrom position)[i]? = some (n.slotsAt (position + i)) := by
  induction e generalizing position i with
  | hole => simp [preorder] at h
  | unset | unit =>
    cases i with
    | zero =>
      obtain rfl := Option.some.inj h
      rfl
    | succ i => simp [preorder] at h
  | binary op a b iha ihb =>
    cases i with
    | zero =>
      obtain rfl := Option.some.inj h
      simp [slotsFrom, slotsAt, slots, nodesBefore]
    | succ i =>
      simp only [preorder, slotsFrom, List.getElem?_cons_succ, List.getElem?_append, length_slotsFrom] at h ⊢
      split at h
      next hi =>
        rw [if_pos hi, iha h]
        congr 2
        omega
      next hi =>
        rw [if_neg hi, ihb h]
        congr 2
        omega
  | not a ih =>
    cases i with
    | zero =>
      obtain rfl := Option.some.inj h
      simp [slotsFrom, slotsAt, slots, nodesBefore]
    | succ i =>
      simp only [preorder, slotsFrom, List.getElem?_cons_succ] at h ⊢
      rw [ih h]
      congr 2
      omega

lemma count_link (e : Expr) (position q : Nat) :
    [e.link position].count (some (q : Int)) = if position = q ∧ q < position + e.nodeCount then 1 else 0 := by
  have hl : e.link position = some (q : Int) ↔ position = q ∧ q < position + e.nodeCount := by
    rw [link_eq_some_iff]
    omega
  simp only [List.count_singleton, beq_iff_eq, hl]

/-- In an expression that is laid out every place but the first is named by one slot. -/
lemma count_slotsFrom (e : Expr) (position q : Nat) :
    ((e.slotsFrom position).flatMap Array.toList).count (some (q : Int)) =
      if position < q ∧ q < position + e.nodeCount then 1 else 0 := by
  induction e generalizing position with
  | hole | unset | unit =>
    rw [if_neg (by simp only [nodeCount]; omega)]
    rfl
  | binary op a b iha ihb =>
    have hs : (slotsFrom position (.binary op a b)).flatMap Array.toList =
        [a.link (position + 1)] ++ [b.link (position + 1 + a.nodeCount)] ++
          ((a.slotsFrom (position + 1)).flatMap Array.toList ++
            (b.slotsFrom (position + 1 + a.nodeCount)).flatMap Array.toList) := by
      simp [slotsFrom]
    -- An operand's first place is named by the node, its other places within the operand.
    rw [hs, List.count_append, List.count_append, List.count_append, count_link, count_link, iha, ihb, nodeCount]
    split_ifs <;> omega
  | not a ih =>
    have hs : (slotsFrom position (.not a)).flatMap Array.toList =
        [a.link (position + 1)] ++ (a.slotsFrom (position + 1)).flatMap Array.toList := by
      simp [slotsFrom]
    rw [hs, List.count_append, count_link, ih, nodeCount]
    split_ifs <;> omega

end Expr
namespace SolveOrder

/-- The arrays of an order hold an expression and nothing else. The nodes are the expression in preorder, each of them
with as many slots as it has operands; the slot of a missing operand is empty, any other one is the position where its
operand begins. So all slots point ahead and within the arrays, every position but the first is pointed at once, and
from the first one the expression is read back. -/
structure Encodes (o : SolveOrder) (e : Expr) : Prop where
  nodes_eq : o.nodes.toList = e.preorder
  size_nodes : o.nodes.size = e.nodeCount
  size_slots : o.slots.size = o.nodes.size
  slots_eq : ∀ {p : Nat} {n : Expr}, o.nodes[p]? = some n → o.slots[p]? = some (n.slotsAt p)
  begins : ∀ {p i q : Nat} {n a : Expr}, o.nodes[p]? = some n → n.slots[i]? = some a → o.slot? p i = some (q : Int) →
    a.preorder <+: o.nodes.toList.drop q
  ahead : ∀ {p i : Nat} {q : Int}, o.slot? p i = some q → p < q ∧ q < o.nodes.size
  once : ∀ q : Nat, 0 < q → q < o.nodes.size → (o.slots.toList.flatMap Array.toList).count (some (q : Int)) = 1
  treeAt_eq : o.treeAt 0 = e

lemma slot?_eq {o : SolveOrder} {p i : Nat} {n a : Expr} (hs : o.slots[p]? = some (n.slotsAt p))
    (ha : n.slots[i]? = some a) : o.slot? p i = a.link (p + 1 + Expr.nodesBefore n.slots i) := by
  simp [slot?, hs, Expr.slotsAt, ha]

/-- The order of an expression holds it exactly. -/
theorem encodes_ofExpr {e : Expr} (he : e.isHole = false) : (ofExpr e).Encodes e := by
  have hslots {p : Nat} {n : Expr} (hp : (ofExpr e).nodes[p]? = some n) :
      (ofExpr e).slots[p]? = some (n.slotsAt p) := by
    rw [(getElem?_ofExpr e p).1] at hp
    rw [(getElem?_ofExpr e p).2, Expr.getElem?_slotsFrom hp, Nat.zero_add]
  constructor
  case nodes_eq => rw [ofExpr_eq]
  case size_nodes => rw [size_ofExpr, Expr.length_preorder]
  case size_slots => exact (forward_ofExpr e).size_slots
  case slots_eq => exact hslots
  case begins =>
    intro p i q n a hp ha hq
    rw [slot?_eq (hslots hp) ha, Expr.link_eq_some_iff, Int.natCast_inj] at hq
    rw [(getElem?_ofExpr e p).1] at hp
    rw [← hq.2, Nat.add_assoc, ← List.drop_drop, ofExpr_eq]
    exact (Expr.prefix_drop_operand ha).trans ((Expr.prefix_drop_preorder hp).drop _)
  case ahead => exact (forward_ofExpr e).slot_ahead
  case once =>
    intro q h0 hq
    rw [size_ofExpr, Expr.length_preorder] at hq
    rw [ofExpr_eq, Expr.count_slotsFrom, if_pos (by omega)]
  case treeAt_eq => exact treeAt_of_lies (forward_ofExpr e) he (lies_ofExpr e)

/-- An operand is missing on the left of a connective, and so its right one comes next. -/
theorem encodes_ofExpr_gaps :
    let a : Expr := .unit ⟨"a", ""⟩
    let e : Expr := .binary .and (.not .unset) (.binary .or .hole a)
    e.isHole = false ∧ (ofExpr e).Encodes e ∧
      ofExpr e = ⟨#[e, .not .unset, .unset, .binary .or .hole a, a],
        #[#[some 1, some 3], #[some 2], #[], #[none, some 4], #[]]⟩ := by
  intro a e
  exact ⟨rfl, encodes_ofExpr rfl, ofExpr_eq e⟩

end SolveOrder
end TagRules
