import TagRules.Proofs.Evaluation.Agreement

/-!
Orders that point forward, be they of an expression or not. A position may be named by many slots or by none, and the
nodes may hold operands of their own: a position stands for what its node is and for what its slots name, and for
nothing else. Solving gives the truth of what the first position stands for, unless some node is broken, reached or not.
-/
namespace TagRules
namespace SolveOrder

/-- The expression that a position stands for. The operands inside the nodes are left out of account. -/
inductive Unfolds (o : SolveOrder) : Nat → Expr → Prop
  | unit {p : Nat} {r : Reference} : o.nodes[p]? = some (.unit r) → Unfolds o p (.unit r)
  | binary {p q q' : Nat} {op : Connective} {a b x y : Expr} : o.nodes[p]? = some (.binary op a b) →
      o.slot? p 0 = some (q : Int) → o.slot? p 1 = some (q' : Int) → Unfolds o q x → Unfolds o q' y →
      Unfolds o p (.binary op x y)
  | not {p q : Nat} {a x : Expr} : o.nodes[p]? = some (.not a) → o.slot? p 0 = some (q : Int) → Unfolds o q x →
      Unfolds o p (.not x)

variable {o : SolveOrder} {p : Nat} {e : Expr}

lemma Unfolds.isComplete (h : o.Unfolds p e) : e.isComplete = true := by
  induction h with
  | unit => rfl
  | binary _ _ _ _ _ iha ihb => simp [Expr.isComplete, iha, ihb]
  | not _ _ _ ih => exact ih

namespace Forward

lemma operandAt_of_slot? {i q : Nat} (hs : o.slot? p i = some (q : Int)) : o.operandAt p i = o.treeAt q := by
  simp [operandAt, hs]

/-- What a position stands for is what is reached from it, and so there is no second such expression. -/
theorem treeAt_of_unfolds (h : o.Forward) (he : o.Unfolds p e) : o.treeAt p = e := by
  induction he with
  | unit hp => exact treeAt_unit hp
  | binary hp ha hb _ _ iha ihb =>
    rw [h.treeAt_binary hp, operandAt_of_slot? ha, operandAt_of_slot? hb, iha, ihb]
  | not hp ha _ ih => rw [h.treeAt_not hp, operandAt_of_slot? ha, ih]

/-- A node that is not broken has each of its operands further ahead. -/
lemma exists_slot? (h : o.Forward) {n : Expr} {i : Nat} (hp : o.nodes[p]? = some n) (hb : ¬ o.IsBroken p)
    (hi : i < n.slots.length) : ∃ q : Nat, o.slot? p i = some (q : Int) ∧ p < q ∧ q < o.nodes.size := by
  obtain ⟨ss, hs⟩ := h.exists_slots hp
  have hu : ∀ r, n ≠ .unit r := by
    rintro r rfl
    simp [Expr.slots] at hi
  have hn : none ∉ ss := fun hm => hb ⟨n, ss, hp, hs, hu, .inr hm⟩
  obtain ⟨q, hq, hlt⟩ := h.exists_position hp hs hn hi
  exact ⟨q, by simp [slot?, hs, hq], hlt⟩

/-- Where no node is broken every position stands for something, the later ones before the earlier. -/
theorem exists_unfolds (h : o.Forward) (hb : ∀ p, ¬ o.IsBroken p) (hp : p < o.nodes.size) : ∃ e, o.Unfolds p e := by
  induction hk : o.nodes.size - p using Nat.strongRecOn generalizing p with
  | ind k ih =>
    have hn : o.nodes[p]? = some o.nodes[p] := Array.getElem?_eq_getElem hp
    have hahead {i : Nat} (hi : i < o.nodes[p].slots.length) : ∃ q : Nat, o.slot? p i = some (q : Int) ∧
        ∃ x, o.Unfolds q x := by
      obtain ⟨q, hs, hpq, hq⟩ := h.exists_slot? hn (hb p) hi
      exact ⟨q, hs, ih _ (by omega) hq rfl⟩
    cases hnode : o.nodes[p] with
    | hole => exact absurd (hnode ▸ hn) (h.node p)
    | unset =>
      obtain ⟨ss, hs⟩ := h.exists_slots hn
      exact absurd ⟨.unset, ss, hnode ▸ hn, hs, by simp, .inl rfl⟩ (hb p)
    | unit r => exact ⟨_, .unit (hnode ▸ hn)⟩
    | binary op a b =>
      obtain ⟨q, hs, x, hx⟩ := hahead (i := 0) (by simp [hnode, Expr.slots])
      obtain ⟨q', hs', y, hy⟩ := hahead (i := 1) (by simp [hnode, Expr.slots])
      exact ⟨_, .binary (hnode ▸ hn) hs hs' hx hy⟩
    | not a =>
      obtain ⟨q, hs, x, hx⟩ := hahead (i := 0) (by simp [hnode, Expr.slots])
      exact ⟨_, .not (hnode ▸ hn) hs hx⟩

end Forward

/-- An order that points forward is refused exactly when some position is broken, whether it is reached or not.
Otherwise the first position stands for one expression, and the order is solved as what that means. -/
theorem solve_forward {o : SolveOrder} (h : o.Forward) (h0 : 0 < o.nodes.size) (evidence : Evidence) :
    (Refused (o.solve evidence) ↔ ∃ p, o.IsBroken p) ∧
      ((∀ p, ¬ o.IsBroken p) → ∃ e, (∀ e', o.Unfolds 0 e' ↔ e' = e) ∧ e.isComplete = true ∧
        o.solve evidence = .ok (e.truth evidence.meets)) := by
  have hok (hb : ∀ p, ¬ o.IsBroken p) : o.solve evidence = .ok ((o.treeAt 0).truth evidence.meets) :=
    h.solve_ok evidence h0 hb
  constructor
  · constructor
    · rintro ⟨x, hx, -⟩
      rw [← Classical.not_forall_not]
      intro hb
      rw [hok hb] at hx
      cases hx
    · rintro ⟨p, hp⟩
      exact h.solve_error evidence hp
  · intro hb
    obtain ⟨e, he⟩ := h.exists_unfolds hb h0
    refine ⟨e, fun e' => ⟨fun he' => ?_, fun h => h ▸ he⟩, he.isComplete, ?_⟩
    · rw [← h.treeAt_of_unfolds he, h.treeAt_of_unfolds he']
    · rw [hok hb, h.treeAt_of_unfolds he]

/-- A node named twice is read twice, and one that is not named counts only where it is broken. It is the second
operand of the disjunction that is true. -/
theorem solve_forward_shared :
    let a : Expr := .unit ⟨"a", ""⟩
    let o (apart : Expr) : SolveOrder :=
      ⟨#[.binary .or .hole .unset, .not .hole, a, apart], #[#[some 2, some 1], #[some 2], #[none], #[]]⟩
    (o a).Forward ∧ (o a).solve [] = .ok true ∧ (o .unset).Forward ∧ Refused ((o .unset).solve []) := by
  intro a o
  have hf {apart : Expr} (hn : apart ≠ .hole) (hs : apart.slots = []) : (o apart).Forward := by
    constructor
    case size_slots => rfl
    case node => rintro (_ | _ | _ | _ | p) <;> simp [o, a, hn]
    case arity =>
      rintro (_ | _ | _ | _ | p) e ss he hss h
      · cases he
        cases hss
        rfl
      · cases he
        cases hss
        rfl
      · cases he
        exact absurd rfl h
      · cases he
        exact absurd hs h
      · cases he
    case ahead =>
      rintro (_ | _ | _ | _ | p) ss q hss hq <;> cases hss
      · obtain rfl | rfl : q = 2 ∨ q = 1 := by simpa [o] using hq
        · simp [o]
        · simp [o]
      · obtain rfl : q = 2 := by simpa [o] using hq
        simp [o]
      · simp [o] at hq
      · simp [o] at hq
  have hb : ∀ p, ¬ (o a).IsBroken p := by
    rintro (_ | _ | _ | _ | p) ⟨e, ss, he, hss, hu, hm⟩ <;> cases he
    · cases hss
      simp [o, Expr.slots] at hm
    · cases hss
      simp [o, Expr.slots] at hm
    · exact hu _ rfl
    · exact hu _ rfl
  have ha : (o a).Forward := hf (by simp [a]) rfl
  have hu : (o .unset).Forward := hf (by simp) rfl
  obtain ⟨e, he, -, hs⟩ := (solve_forward ha (by simp [o]) []).2 hb
  have hua : (o a).Unfolds 2 a := .unit rfl
  have h0 : (o a).Unfolds 0 (.binary .or a (.not a)) := .binary rfl rfl rfl hua (.not rfl rfl hua)
  obtain rfl := (he _).1 h0
  exact ⟨ha, hs, hu, (solve_forward hu (by simp [o]) []).1.2 ⟨3, .unset, #[], rfl, rfl, by simp, .inl rfl⟩⟩

end SolveOrder
end TagRules
