import TagRules.Proofs.Engine.Process
import TagRules.Proofs.Grammar.Writable
import TagRules.Proofs.Rule.Names

/-!
Evaluation of registered rules cannot fail. A rule is parsed to a whole tree, and the order of a whole tree has, for
each node, the positions of its operands ahead of it; so the sweep finds every operand where it looks for it.
-/
namespace TagRules

lemma Expr.isComplete_of_isWritable {e : Expr} (h : e.IsWritable) : e.isComplete = true := by
  induction e with
  | hole | unset => exact h.elim
  | unit r => rfl
  | binary op a b iha ihb => simp [isComplete, iha h.1, ihb h.2]
  | not a ih => exact ih h

namespace SolveOrder

/-- There is a first node, and each node has all its operands, at positions ahead of it. -/
structure IsInRange (o : SolveOrder) : Prop where
  first : 0 < o.size
  operands : ∀ p < o.size, ∃ e ss, o.nodes[p]? = some e ∧ o.slots[p]? = some ss ∧
    ∀ i < e.slots.length, ∃ q : Nat, ss[i]? = some (some (q : Int)) ∧ p < q ∧ q < o.size

theorem isInRange_ofExpr {e : Expr} (h : e.isComplete = true) : (ofExpr e).IsInRange where
  first := by
    rw [size, size_ofExpr]
    exact Expr.preorder_pos (Expr.not_isHole_of_isComplete h)
  operands p hp := by
    have hn : (ofExpr e).nodes[p]? = some (ofExpr e).nodes[p] := Array.getElem?_eq_getElem hp
    obtain ⟨ss, hs⟩ := (forward_ofExpr e).exists_slots hn
    refine ⟨_, ss, hn, hs, fun i hi => ?_⟩
    -- A slot without a position would make the node a broken one.
    have hb := (isComplete_iff_not_isBroken (Expr.not_isHole_of_isComplete h)).1 h p
    refine (forward_ofExpr e).exists_position hn hs (fun hm => hb ⟨_, ss, hn, hs, fun r hr => ?_, .inr hm⟩) hi
    rw [hr] at hi
    exact absurd hi (Nat.not_lt_zero i)

/-- Where nothing is broken, the sweep comes through from any position on, whatever the values are. -/
theorem Forward.exists_sweep {o : SolveOrder} (h : o.Forward) (hb : ∀ p, ¬ o.IsBroken p) (evidence : Evidence) {n : Nat}
    (hn : n ≤ o.size) {values : Array Bool} (hv : values.size = o.size) :
    ∃ vs, o.sweep evidence n values = .ok vs ∧ vs.size = o.size := by
  induction n generalizing values with
  | zero => exact ⟨values, rfl, hv⟩
  | succ p ih =>
    have hp : o.nodes[p]? = some o.nodes[p] := Array.getElem?_eq_getElem hn
    obtain ⟨ss, hs⟩ := h.exists_slots hp
    rw [sweep_succ evidence values hp hs, h.nodeValue_eq evidence hp hs (hb p) hv]
    exact ih (Nat.le_of_succ_le hn) (by simpa using hv)

end SolveOrder
namespace Engine

/-- A tree that a parser gives, however often it was asked before, is whole, and its references have a tag and no empty
part between the dots of a path. So after any calls both ways of evaluation have a result on all evidence; the order of
every registered expression has each operand in its place, and no sweep over it fails. -/
theorem evaluation_never_fails (tagger : Option Tagger) (caseSensitive : Bool) (calls : List RuleCall) :
    let s := ((new tagger caseSensitive).after calls).store
    (∀ source cs n e, ((Parser.ofSource source cs).asked n).parse.1 = .ok e → e.IsWritable) ∧
    (∀ m evidence, s.evaluate m evidence = .ok (s.trueRules evidence.meets)) ∧
    ∀ c ∈ s.expressions, c.expr.IsWritable ∧ c.order.IsInRange ∧
      ∀ (evidence : Evidence) (n : Nat) (values : Array Bool), n ≤ c.order.size → values.size = c.order.size →
        ∃ vs, c.order.sweep evidence n values = .ok vs ∧ vs.size = c.order.size := by
  intro s
  have hs : s.IsCompiled := ((reached_new tagger caseSensitive).after calls).compiled
  have hw (source : String) (cs : Bool) (n : Nat) (e : Expr)
      (h : ((Parser.ofSource source cs).asked n).parse.1 = .ok e) : e.IsWritable :=
    (Parser.isFed_asked (Parser.isFed_ofSource source cs) n).isWritable h
  refine ⟨hw, hs.evaluate_eq, fun c hc => ?_⟩
  obtain ⟨-, hp, ho⟩ := Compiled.ofSource_ok (hs.faithful_of_mem hc)
  have hc : c.expr.IsWritable := hw c.source s.caseSensitive 0 c.expr hp
  have he : c.expr.isComplete = true := Expr.isComplete_of_isWritable hc
  rw [ho]
  refine ⟨hc, SolveOrder.isInRange_ofExpr he, fun evidence n values hn hv => ?_⟩
  have hb := (SolveOrder.isComplete_iff_not_isBroken (Expr.not_isHole_of_isComplete he)).1 he
  exact (SolveOrder.forward_ofExpr c.expr).exists_sweep hb evidence hn hv

end Engine
end TagRules
