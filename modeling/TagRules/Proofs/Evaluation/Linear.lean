import TagRules.Proofs.Evaluation.Preorder
import TagRules.Proofs.Evaluation.Sweep

/-!
The order of an expression points forward, and reading it back from its first node gives the expression. One of
its nodes is broken exactly when the expression is not complete.
-/
namespace TagRules

namespace Expr

lemma preorder_pos {e : Expr} (h : e.isHole = false) : 0 < e.preorder.length := by
  cases e <;> simp_all [preorder]

lemma mem_link {e : Expr} {position : Nat} {q : Int} (h : e.link position = some q) :
    q = position ∧ 0 < e.preorder.length := by
  unfold link at h
  split at h
  · cases h
  next hh => exact ⟨(Option.some.inj h).symm, preorder_pos (by simpa using hh)⟩

/-- A node at a position has its slots, and they point behind it but not beyond a bound. -/
structure IsPlaced (n : Expr) (ss : Array (Option Int)) (position bound : Nat) : Prop where
  node : n.isHole = false
  arity : ss.size = n.slots.length
  ahead : ∀ q, some q ∈ ss → position < q ∧ q < bound

lemma IsPlaced.mono {n : Expr} {ss : Array (Option Int)} {position position' bound bound' : Nat}
    (h : n.IsPlaced ss position bound) (hp : position' = position) (hb : bound ≤ bound') :
    n.IsPlaced ss position' bound' where
  node := h.node
  arity := h.arity
  ahead q hq := by
    have := h.ahead q hq
    omega

lemma isPlaced_binary (op : Connective) (a b : Expr) (position : Nat) :
    IsPlaced (.binary op a b) #[a.link (position + 1), b.link (position + 1 + a.preorder.length)] position
      (position + (1 + a.preorder.length + b.preorder.length)) where
  node := rfl
  arity := rfl
  ahead q hq := by
    simp only [List.mem_toArray, List.mem_cons, List.not_mem_nil, or_false] at hq
    obtain hq | hq := hq
    · have := mem_link hq.symm
      omega
    · have := mem_link hq.symm
      omega

lemma isPlaced_not (a : Expr) (position : Nat) :
    IsPlaced (.not a) #[a.link (position + 1)] position (position + (1 + a.preorder.length)) where
  node := rfl
  arity := rfl
  ahead q hq := by
    simp only [List.mem_toArray, List.mem_singleton] at hq
    have := mem_link hq.symm
    omega

lemma isPlaced_of_getElem? {e n : Expr} {position i : Nat} {ss : Array (Option Int)} (hn : e.preorder[i]? = some n)
    (hs : (e.slotsFrom position)[i]? = some ss) :
    n.IsPlaced ss (position + i) (position + e.preorder.length) := by
  induction e generalizing position i with
  | hole => simp [preorder] at hn
  | unset | unit =>
    cases i with
    | succ i => simp [preorder] at hn
    | zero =>
      simp [preorder] at hn
      simp [slotsFrom] at hs
      subst hn hs
      exact ⟨rfl, rfl, by simp⟩
  | binary op a b iha ihb =>
    simp only [preorder, List.length_cons, List.length_append]
    cases i with
    | zero =>
      simp [preorder] at hn
      simp [slotsFrom] at hs
      subst hn hs
      exact (isPlaced_binary op a b position).mono rfl (by omega)
    | succ i =>
      simp only [preorder, slotsFrom, List.getElem?_cons_succ, List.getElem?_append, length_slotsFrom] at hn hs
      split at hn
      next hi =>
        rw [if_pos hi] at hs
        exact (iha hn hs).mono (by omega) (by omega)
      next hi =>
        rw [if_neg hi] at hs
        exact (ihb hn hs).mono (by omega) (by omega)
  | not a ih =>
    simp only [preorder, List.length_cons]
    cases i with
    | zero =>
      simp [preorder] at hn
      simp [slotsFrom] at hs
      subst hn hs
      exact (isPlaced_not a position).mono rfl (by omega)
    | succ i =>
      simp only [preorder, slotsFrom, List.getElem?_cons_succ] at hn hs
      exact (ih hn hs).mono (by omega) (by omega)

/-- A node that is no reference and misses an operand, or has no operands at all. -/
def Lacks (n : Expr) (ss : Array (Option Int)) : Prop := (∀ r, n ≠ .unit r) ∧ (n.slots = [] ∨ none ∈ ss)

lemma none_eq_link {e : Expr} {position : Nat} : none = e.link position ↔ e.isHole = true := by
  unfold link
  split <;> simp_all

/-- An expression is complete when none of its nodes lacks anything; a missing operand shows at its node. -/
lemma isComplete_iff {e : Expr} (position : Nat) :
    e.isComplete = true ↔
      e.isHole = false ∧ ∀ n ss, (n, ss) ∈ e.preorder.zip (e.slotsFrom position) → ¬ n.Lacks ss := by
  induction e generalizing position with
  | hole => simp [isComplete]
  | unset => simp [isComplete, preorder, slotsFrom, Lacks, slots]
  | unit r => simp [isComplete, preorder, slotsFrom, Lacks]
  | binary op a b iha ihb =>
    have hl : Lacks (.binary op a b) #[a.link (position + 1), b.link (position + 1 + a.preorder.length)] ↔
        a.isHole = true ∨ b.isHole = true := by
      simp [Lacks, slots, none_eq_link]
    simp only [isComplete, Bool.and_eq_true, iha (position + 1), ihb (position + 1 + a.preorder.length), preorder,
      slotsFrom, List.zip_cons_cons, List.mem_cons, Prod.mk.injEq, isHole_binary, true_and]
    rw [List.zip_append (length_slotsFrom a (position + 1)).symm]
    simp only [List.mem_append]
    constructor
    · rintro ⟨⟨ha, hna⟩, hb, hnb⟩ n ss (⟨rfl, rfl⟩ | hm | hm)
      · rw [hl, ha, hb]
        decide
      · exact hna n ss hm
      · exact hnb n ss hm
    · intro h
      have hh := h _ _ (.inl ⟨rfl, rfl⟩)
      simp only [hl, not_or, Bool.not_eq_true] at hh
      exact ⟨⟨hh.1, fun n ss hm => h n ss (.inr (.inl hm))⟩, hh.2, fun n ss hm => h n ss (.inr (.inr hm))⟩
  | not a ih =>
    have hl : Lacks (.not a) #[a.link (position + 1)] ↔ a.isHole = true := by
      simp [Lacks, slots, none_eq_link]
    simp only [isComplete, ih (position + 1), preorder, slotsFrom, List.zip_cons_cons, List.mem_cons, Prod.mk.injEq,
      isHole_not, true_and]
    constructor
    · rintro ⟨ha, hna⟩ n ss (⟨rfl, rfl⟩ | hm)
      · rw [hl, ha]
        decide
      · exact hna n ss hm
    · intro h
      have hh := h _ _ (.inl ⟨rfl, rfl⟩)
      simp only [hl, Bool.not_eq_true] at hh
      exact ⟨hh, fun n ss hm => h n ss (.inr hm)⟩

end Expr
namespace SolveOrder

lemma getElem?_ofExpr (e : Expr) (p : Nat) :
    (ofExpr e).nodes[p]? = e.preorder[p]? ∧ (ofExpr e).slots[p]? = (e.slotsFrom 0)[p]? := by
  simp [ofExpr_eq]

lemma size_ofExpr (e : Expr) : (ofExpr e).nodes.size = e.preorder.length := by simp [ofExpr_eq]

theorem forward_ofExpr (e : Expr) : (ofExpr e).Forward where
  size_slots := by simp [ofExpr_eq]
  node p hp := by
    rw [(getElem?_ofExpr e p).1] at hp
    obtain ⟨hlt, -⟩ := List.getElem?_eq_some_iff.1 hp
    have hs := List.getElem?_eq_getElem (by simpa using hlt : p < (e.slotsFrom 0).length)
    cases (Expr.isPlaced_of_getElem? hp hs).node
  arity {p n ss} hp hs _ := by
    rw [(getElem?_ofExpr e p).1] at hp
    rw [(getElem?_ofExpr e p).2] at hs
    exact (Expr.isPlaced_of_getElem? hp hs).arity
  ahead {p ss q} hs hq := by
    rw [(getElem?_ofExpr e p).2] at hs
    obtain ⟨hlt, -⟩ := List.getElem?_eq_some_iff.1 hs
    have hp := List.getElem?_eq_getElem (by simpa using hlt : p < e.preorder.length)
    have := (Expr.isPlaced_of_getElem? hp hs).ahead q hq
    rw [size_ofExpr]
    omega

/-- The tree lies in the order from the position on, its nodes and its slots. -/
def Lies (o : SolveOrder) (position : Nat) (e : Expr) : Prop :=
  e.preorder <+: o.nodes.toList.drop position ∧ e.slotsFrom position <+: o.slots.toList.drop position

lemma lies_ofExpr (e : Expr) : (ofExpr e).Lies 0 e := by simp [Lies, ofExpr_eq]

lemma lies_cons {α : Type} {xs : Array α} {x : α} {ys : List α} {p : Nat} (h : x :: ys <+: xs.toList.drop p) :
    xs[p]? = some x ∧ ys <+: xs.toList.drop (p + 1) := by
  obtain ⟨zs, hz⟩ := h
  constructor
  · rw [← Array.getElem?_toList, ← Nat.add_zero p, ← List.getElem?_drop, ← hz]
    rfl
  · exact ⟨zs, by rw [← List.drop_drop, ← hz]; rfl⟩

lemma lies_append {α : Type} {xs ys zs : List α} {p n : Nat} (h : ys ++ zs <+: xs.drop p) (hn : ys.length = n) :
    ys <+: xs.drop p ∧ zs <+: xs.drop (p + n) := by
  subst hn
  obtain ⟨us, hu⟩ := h
  refine ⟨⟨zs ++ us, by rw [← List.append_assoc, hu]⟩, us, ?_⟩
  rw [← List.drop_drop, ← hu, List.append_assoc, List.drop_left]

lemma Lies.binary {o : SolveOrder} {p : Nat} {op : Connective} {a b : Expr} (h : o.Lies p (.binary op a b)) :
    o.nodes[p]? = some (.binary op a b) ∧
      o.slots[p]? = some #[a.link (p + 1), b.link (p + 1 + a.preorder.length)] ∧
      o.Lies (p + 1) a ∧ o.Lies (p + 1 + a.preorder.length) b := by
  obtain ⟨hn, hs⟩ := h
  obtain ⟨hp, hn⟩ := lies_cons hn
  obtain ⟨hps, hs⟩ := lies_cons hs
  obtain ⟨hna, hnb⟩ := lies_append hn rfl
  obtain ⟨hsa, hsb⟩ := lies_append hs (Expr.length_slotsFrom a (p + 1))
  exact ⟨hp, hps, ⟨hna, hsa⟩, hnb, hsb⟩

lemma operandAt_eq {o : SolveOrder} {p i q : Nat} {e : Expr} (hs : o.slot? p i = e.link q)
    (he : e.isHole = false → o.treeAt q = e) : o.operandAt p i = e := by
  unfold operandAt
  rw [hs]
  cases hh : e.isHole with
  | true =>
    obtain rfl := Expr.eq_hole_of_isHole hh
    rfl
  | false => simpa [Expr.link, hh] using he hh

/-- A tree that lies at a position is what is reached from there. -/
theorem treeAt_of_lies {o : SolveOrder} (h : o.Forward) {e : Expr} (he : e.isHole = false) {p : Nat}
    (hl : o.Lies p e) : o.treeAt p = e := by
  induction e generalizing p with
  | hole => cases he
  | unset => rw [treeAt, (lies_cons hl.1).1]
  | unit r => exact treeAt_unit (lies_cons hl.1).1
  | binary op a b iha ihb =>
    obtain ⟨hp, hs, hla, hlb⟩ := hl.binary
    rw [h.treeAt_binary hp, operandAt_eq (q := p + 1) (by simp [slot?, hs]) fun ha => iha ha hla,
      operandAt_eq (q := p + 1 + a.preorder.length) (by simp [slot?, hs]) fun hb => ihb hb hlb]
  | not a ih =>
    obtain ⟨hp, hn⟩ := lies_cons hl.1
    obtain ⟨hs, hss⟩ := lies_cons hl.2
    rw [h.treeAt_not hp, operandAt_eq (q := p + 1) (by simp [slot?, hs]) fun ha => ih ha ⟨hn, hss⟩]

lemma isBroken_ofExpr {e : Expr} {p : Nat} :
    (ofExpr e).IsBroken p ↔ ∃ n ss, (e.preorder.zip (e.slotsFrom 0))[p]? = some (n, ss) ∧ n.Lacks ss := by
  simp [IsBroken, Expr.Lacks, getElem?_ofExpr, List.getElem?_zip_eq_some, and_assoc]

/-- What an expression lacks shows in its order, wherever in the tree it is. -/
theorem isComplete_iff_not_isBroken {e : Expr} (he : e.isHole = false) :
    e.isComplete = true ↔ ∀ p, ¬ (ofExpr e).IsBroken p := by
  simp only [Expr.isComplete_iff 0, he, true_and, isBroken_ofExpr]
  constructor
  · rintro h p ⟨n, ss, hm, hn⟩
    exact h n ss (List.mem_of_getElem? hm) hn
  · intro h n ss hm hn
    obtain ⟨p, hp⟩ := List.getElem?_of_mem hm
    exact h p ⟨n, ss, hp, hn⟩

/-- The order of a complete expression is solved as what the expression means. -/
theorem solve_ofExpr {e : Expr} (he : e.isComplete = true) (evidence : Evidence) :
    (ofExpr e).solve evidence = .ok (e.truth evidence.meets) := by
  have hh := Expr.not_isHole_of_isComplete he
  have h := forward_ofExpr e
  rw [h.solve_ok evidence (size_ofExpr e ▸ Expr.preorder_pos hh) ((isComplete_iff_not_isBroken hh).1 he),
    treeAt_of_lies h hh (lies_ofExpr e)]

theorem solve_ofExpr_error {e : Expr} (he : e.isComplete = false) (evidence : Evidence) :
    ∃ x, (ofExpr e).solve evidence = .error x ∧ x.IsStructural := by
  cases hh : e.isHole with
  | true =>
    obtain rfl := Expr.eq_hole_of_isHole hh
    exact ⟨.noNodes, by simp [solve, ofExpr_eq, Expr.preorder], trivial⟩
  | false =>
    have hb : ∃ p, (ofExpr e).IsBroken p := by
      rw [← Classical.not_forall_not, ← isComplete_iff_not_isBroken hh, he]
      decide
    obtain ⟨p, hp⟩ := hb
    exact (forward_ofExpr e).solve_error evidence hp

end SolveOrder
end TagRules
