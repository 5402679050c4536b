import TagRules.Proofs.Evaluation.Linear
import TagRules.Proofs.Grammar.Outline

/-!
Three walks with stacks of their own, one for the references, one for the outline and one for the order, come upon the
nodes of an expression in the same sequence: that of plain recursion, each node before the operands that are there and
those from left to right. How far in a node stands in the outline is how many slots lead to it from the first place of
the order.
-/
namespace TagRules
namespace Expr

/-- Plain recursion over an expression: what is said of a node, then what is said of its operands, those that there are,
from left to right and one level further in. -/
def gather {α : Type} (say : Nat → Expr → List α) (level : Nat) : Expr → List α
  | .hole => []
  | .binary op a b =>
    say level (.binary op a b) ++ (a.gather say (level + 1) ++ b.gather say (level + 1))
  | .not a => say level (.not a) ++ a.gather say (level + 1)
  | e => say level e

/-- The reference of a node, if it is one. -/
def reference? : Expr → Option Reference
  | .unit r => some r
  | _ => none

/-- Four blanks for each level. -/
def blanks (level : Nat) : String := String.join (List.replicate level "    ")

/-- What is written for a node: a tag, with a path in square brackets if it asks for one, or the word for its kind. -/
def caption : Expr → String
  | .unit r => if r.scope = "" then r.name else r.name ++ "[" ++ r.scope ++ "]"
  | .binary .and _ _ => "AND"
  | .binary .or _ _ => "OR"
  | .not _ => "NOT"
  | .hole | .unset => "UNSET"

lemma indent_eq (level : Nat) : indent level = blanks level := by
  induction level with
  | zero => rfl
  | succ level ih =>
    have h : 4 * (level + 1) = 4 + 4 * level := by omega
    rw [blanks, List.replicate_succ, String.join_cons, ← blanks, ← ih, indent, h, List.replicate_add,
      String.ofList_append]
    rfl

lemma label_eq (e : Expr) : e.label = e.caption := by
  cases e with
  | unit r => simp [label, caption, Reference.text]
  | binary op a b => cases op <;> rfl
  | _ => rfl

lemma line_eq (level : Nat) (e : Expr) : line level e = blanks level ++ e.caption ++ "\n" := by
  rw [line, indent_eq, label_eq]

/-- The levels of the nodes. -/
def levels (level : Nat) (e : Expr) : List Nat := e.gather (fun level _ => [level]) level

lemma preorder_eq_gather (level : Nat) (e : Expr) : e.preorder = e.gather (fun _ n => [n]) level := by
  induction e generalizing level with
  | hole | unset | unit => rfl
  | binary op a b iha ihb => simp [preorder, gather, ← iha, ← ihb]
  | not a ih => simp [preorder, gather, ← ih]

lemma references_eq_gather (level : Nat) (e : Expr) :
    e.references = e.gather (fun _ n => n.reference?.toList) level := by
  induction e generalizing level with
  | hole | unset | unit => simp [gather, reference?]
  | binary op a b iha ihb =>
    rw [references_binary, iha (level + 1), ihb (level + 1)]
    rfl
  | not a ih =>
    rw [references_not, ih (level + 1)]
    rfl

lemma references_eq_filterMap (e : Expr) : e.references = e.preorder.filterMap reference? := by
  induction e with
  | hole | unset | unit => simp [preorder, reference?]
  | binary op a b iha ihb =>
    rw [references_binary, iha, ihb, preorder, List.filterMap_cons_none rfl, List.filterMap_append]
  | not a ih => rw [references_not, ih, preorder, List.filterMap_cons_none rfl]

lemma linesOn_eq_gather (level : Nat) (e : Expr) :
    linesOn [(e, level)] = e.gather (fun level n => [line level n]) level := by
  have hrows : (e.rows level).map rowLine = e.gather (fun level n => [line level n]) level := by
    induction e generalizing level with
    | hole | unset | unit => rfl
    | binary op a b iha ihb => simp [rows, gather, iha, ihb, rowLine, line]
    | not a ih => simp [rows, gather, ih, rowLine, line]
  rw [linesOn_cons, linesOn, List.append_nil, hrows]

@[simp] lemma length_levels (level : Nat) (e : Expr) : (e.levels level).length = e.preorder.length := by
  unfold levels
  induction e generalizing level with
  | hole | unset | unit => rfl
  | binary op a b iha ihb => simp [preorder, gather, iha, ihb]
  | not a ih => simp [preorder, gather, ih]

lemma levels_binary (level : Nat) (op : Connective) (a b : Expr) :
    (binary op a b).levels level = level :: (a.levels (level + 1) ++ b.levels (level + 1)) := rfl

lemma levels_not (level : Nat) (a : Expr) : a.not.levels level = level :: a.levels (level + 1) := rfl

lemma getElem?_levels_binary (level : Nat) (op : Connective) (a b : Expr) (i : Nat) :
    ((binary op a b).levels level)[i + 1]? = if i < a.preorder.length then (a.levels (level + 1))[i]?
      else (b.levels (level + 1))[i - a.preorder.length]? := by
  rw [levels_binary, List.getElem?_cons_succ, List.getElem?_append, length_levels]

lemma lt_of_getElem?_levels {e : Expr} {level i l : Nat} (h : (e.levels level)[i]? = some l) :
    i < e.preorder.length := by
  obtain ⟨h, -⟩ := List.getElem?_eq_some_iff.1 h
  rwa [length_levels] at h

lemma zipWith_levels {α : Type} (f : Nat → Expr → α) (level : Nat) (e : Expr) :
    List.zipWith f (e.levels level) e.preorder = e.gather (fun level n => [f level n]) level := by
  induction e generalizing level with
  | hole | unset | unit => rfl
  | binary op a b iha ihb =>
    rw [levels_binary, preorder, List.zipWith_cons_cons, List.zipWith_append (by simp), iha, ihb]
    rfl
  | not a ih =>
    rw [levels_not, preorder, List.zipWith_cons_cons, ih]
    rfl

/-- An operand that is there begins at its level. -/
lemma getElem?_levels_zero {e : Expr} (h : 0 < e.preorder.length) (level : Nat) : (e.levels level)[0]? = some level := by
  cases e with
  | hole => cases h
  | _ => rfl

/-- The slot of an operand that is there names where it begins. -/
lemma link_of_pos {e : Expr} (h : 0 < e.preorder.length) (position : Nat) : e.link position = some (position : Int) := by
  cases e with
  | hole => cases h
  | _ => rfl

/-- What a slot names stands one level further in than the node of the slot. -/
lemma getElem?_levels_of_slot {e : Expr} {position level p l q : Nat} {ss : Array (Option Int)}
    (hs : (e.slotsFrom position)[p]? = some ss) (hq : some (q : Int) ∈ ss) (hl : (e.levels level)[p]? = some l) :
    ∃ i, q = position + i ∧ (e.levels level)[i]? = some (l + 1) := by
  induction e generalizing position level p with
  | hole => simp [slotsFrom] at hs
  | unset | unit =>
    cases p with
    | zero =>
      obtain rfl := Option.some.inj hs
      simp at hq
    | succ p => simp [slotsFrom] at hs
  | binary op a b iha ihb =>
    -- Where the operands stand among the nodes behind this one.
    have hleft {i k : Nat} (h : (a.levels (level + 1))[i]? = some k) :
        ((binary op a b).levels level)[i + 1]? = some k := by
      rw [getElem?_levels_binary, if_pos (lt_of_getElem?_levels h), h]
    have hright {i k : Nat} (h : (b.levels (level + 1))[i]? = some k) :
        ((binary op a b).levels level)[a.preorder.length + i + 1]? = some k := by
      rw [getElem?_levels_binary, if_neg (by omega), Nat.add_sub_cancel_left, h]
    cases p with
    | zero =>
      obtain rfl := Option.some.inj hs
      obtain rfl := Option.some.inj hl
      simp only [List.mem_toArray, List.mem_cons, List.not_mem_nil, or_false] at hq
      obtain hq | hq := hq
      · obtain ⟨hq, ha⟩ := mem_link hq.symm
        exact ⟨1, by omega, hleft (getElem?_levels_zero ha _)⟩
      · obtain ⟨hq, hb⟩ := mem_link hq.symm
        exact ⟨a.preorder.length + 1, by omega, hright (getElem?_levels_zero hb _)⟩
    | succ p =>
      rw [slotsFrom, List.getElem?_cons_succ, List.getElem?_append, length_slotsFrom] at hs
      rw [getElem?_levels_binary] at hl
      split at hs
      next hp =>
        rw [if_pos hp] at hl
        obtain ⟨i, hi, h⟩ := iha hs hl
        exact ⟨i + 1, by omega, hleft h⟩
      next hp =>
        rw [if_neg hp] at hl
        obtain ⟨i, hi, h⟩ := ihb hs hl
        exact ⟨a.preorder.length + i + 1, by omega, hright h⟩
  | not a ih =>
    rw [levels_not] at hl ⊢
    cases p with
    | zero =>
      obtain rfl := Option.some.inj hs
      obtain rfl := Option.some.inj hl
      obtain ⟨hq, ha⟩ := mem_link (List.mem_singleton.1 (List.mem_toArray.1 hq)).symm
      exact ⟨1, by omega, getElem?_levels_zero ha _⟩
    | succ p =>
      obtain ⟨i, hi, h⟩ := ih hs hl
      exact ⟨i + 1, by omega, h⟩

end Expr
namespace SolveOrder

/-- So many slots lead from the first place to another one. -/
inductive Reaches (o : SolveOrder) : Nat → Nat → Prop
  | first : Reaches o 0 0
  | slot {p i q depth : Nat} (h : Reaches o p depth) (hs : o.slot? p i = some (q : Int)) : Reaches o q (depth + 1)

lemma mem_of_slot? {o : SolveOrder} {p i : Nat} {q : Int} (h : o.slot? p i = some q) :
    ∃ ss, o.slots[p]? = some ss ∧ some q ∈ ss := by
  obtain ⟨ss, hs, hi⟩ := Option.bind_eq_some_iff.1 (Option.join_eq_some_iff.1 h)
  exact ⟨ss, hs, Array.mem_of_getElem? hi⟩

/-- An expression that lies where so many slots lead is reached node by node, each at its level. -/
lemma Lies.reaches {o : SolveOrder} {e : Expr} {p depth i l : Nat} (hl : o.Lies p e) (hp : o.Reaches p depth)
    (hi : (e.levels depth)[i]? = some l) : o.Reaches (p + i) l := by
  induction e generalizing p depth i with
  | hole => simp [Expr.levels, Expr.gather] at hi
  | unset | unit =>
    cases i with
    | zero =>
      obtain rfl := Option.some.inj hi
      exact hp
    | succ i => simp [Expr.levels, Expr.gather] at hi
  | binary op a b iha ihb =>
    obtain ⟨-, hs, hla, hlb⟩ := hl.binary
    cases i with
    | zero =>
      obtain rfl := Option.some.inj hi
      exact hp
    | succ i =>
      rw [Expr.getElem?_levels_binary] at hi
      split at hi
      next h =>
        have ha : o.slot? p 0 = some ((p + 1 : Nat) : Int) := by
          rw [← Expr.link_of_pos (Nat.zero_lt_of_lt h)]
          simp [slot?, hs]
        rw [Nat.add_comm i 1, ← Nat.add_assoc]
        exact iha hla (.slot hp ha) hi
      next h =>
        have hb : o.slot? p 1 = some ((p + 1 + a.preorder.length : Nat) : Int) := by
          rw [← Expr.link_of_pos (Nat.zero_lt_of_lt (Expr.lt_of_getElem?_levels hi))]
          simp [slot?, hs]
        rw [show p + (i + 1) = p + 1 + a.preorder.length + (i - a.preorder.length) by omega]
        exact ihb hlb (.slot hp hb) hi
  | not a ih =>
    obtain ⟨-, hn⟩ := lies_cons hl.1
    obtain ⟨hs, hss⟩ := lies_cons hl.2
    cases i with
    | zero =>
      obtain rfl := Option.some.inj hi
      exact hp
    | succ i =>
      rw [Expr.levels_not, List.getElem?_cons_succ] at hi
      have ha : o.slot? p 0 = some ((p + 1 : Nat) : Int) := by
        rw [← Expr.link_of_pos (Nat.zero_lt_of_lt (Expr.lt_of_getElem?_levels hi))]
        simp [slot?, hs]
      rw [Nat.add_comm i 1, ← Nat.add_assoc]
      exact ih ⟨hn, hss⟩ (.slot hp ha) hi

/-- In the order of an expression every place is reached, by as many slots as its node stands further in. -/
lemma reaches_ofExpr {e : Expr} {p : Nat} (hp : p < e.preorder.length) (depth : Nat) :
    (ofExpr e).Reaches p depth ↔ (e.levels 0)[p]? = some depth := by
  have hlevel {q l : Nat} (h : (ofExpr e).Reaches q l) (he : 0 < e.preorder.length) : (e.levels 0)[q]? = some l := by
    induction h with
    | first => exact Expr.getElem?_levels_zero he 0
    | slot _ hs ih =>
      obtain ⟨ss, hs, hq⟩ := mem_of_slot? hs
      rw [(getElem?_ofExpr e _).2] at hs
      obtain ⟨i, hi, h⟩ := Expr.getElem?_levels_of_slot hs hq ih
      rwa [hi, Nat.zero_add]
  refine ⟨fun h => hlevel h (Nat.zero_lt_of_lt hp), fun h => ?_⟩
  have hr := (lies_ofExpr e).reaches .first h
  rwa [Nat.zero_add] at hr

end SolveOrder

/-- The walks over an expression come upon its nodes in the sequence of its order. The references are those of the nodes
that are references; the outline has one line for each node, and a node is as far in as slots lead to its place from the
first one, which is one number for each place. Each walk says what plain recursion says. -/
theorem Expr.walks_agree (e : Expr) :
    let o := SolveOrder.ofExpr e
    e.references = o.nodes.toList.filterMap reference? ∧
    (∃ depths : List Nat, depths.length = o.nodes.size ∧
      (∀ p < o.nodes.size, ∀ depth, o.Reaches p depth ↔ depths[p]? = some depth) ∧
      e.pretty = String.join (List.zipWith (fun depth n => blanks depth ++ n.caption ++ "\n") depths o.nodes.toList)) ∧
    o.nodes.toList = e.gather (fun _ n => [n]) 0 ∧
    e.references = e.gather (fun _ n => n.reference?.toList) 0 ∧
    e.pretty = String.join (e.gather (fun level n => [blanks level ++ n.caption ++ "\n"]) 0) := by
  intro o
  have hn : o.nodes.toList = e.preorder := by rw [show o = _ from SolveOrder.ofExpr_eq e]
  have hp : e.pretty = String.join (e.gather (fun level n => [blanks level ++ n.caption ++ "\n"]) 0) := by
    simp only [pretty, linesOn_eq_gather, line_eq]
  refine ⟨?_, ⟨e.levels 0, ?_, fun p hlt depth => ?_, ?_⟩, ?_, references_eq_gather 0 e, hp⟩
  · rw [hn, references_eq_filterMap]
  · rw [length_levels, SolveOrder.size_ofExpr]
  · exact SolveOrder.reaches_ofExpr (SolveOrder.size_ofExpr e ▸ hlt) depth
  · rw [hn, hp, ← zipWith_levels]
  · rw [hn, preorder_eq_gather 0]

/-- A missing operand has no line and no place; what follows it comes next. -/
example : (SolveOrder.ofExpr (.binary .or .hole (.not .unset))).slots = #[#[none, some 1], #[some 2], #[]] ∧
    (Expr.binary .or .hole (.not .unset)).pretty = "OR\n    NOT\n        UNSET\n" := by
  constructor
  · rw [SolveOrder.ofExpr_eq]
    rfl
  · rw [Expr.pretty, Expr.linesOn_eq_gather]
    decide +kernel

end TagRules
