import TagRules.Expr.SolveOrder
import TagRules.Proofs.Evaluation.Truth

/-!
The sweep over an order whose slots point forward. Every position stands for the tree that is reached from it,
and when the sweep has passed a position the value there is the truth of that tree. A broken node stops the
sweep wherever it is, reached from the first node or not.
-/
namespace TagRules
namespace SolveOrder

/-- An order in which every node has its slots and every slot that is filled points forward. -/
structure Forward (o : SolveOrder) : Prop where
  size_slots : o.slots.size = o.nodes.size
  node : ∀ p : Nat, o.nodes[p]? ≠ some Expr.hole
  arity : ∀ {p : Nat} {e : Expr} {ss : Array (Option Int)}, o.nodes[p]? = some e → o.slots[p]? = some ss →
    e.slots ≠ [] → ss.size = e.slots.length
  ahead : ∀ {p : Nat} {ss : Array (Option Int)} {q : Int}, o.slots[p]? = some ss → some q ∈ ss →
    p < q ∧ q < o.nodes.size

/-- A position whose node is of no kind or misses an operand. -/
def IsBroken (o : SolveOrder) (p : Nat) : Prop :=
  ∃ e ss, o.nodes[p]? = some e ∧ o.slots[p]? = some ss ∧ (∀ r, e ≠ .unit r) ∧ (e.slots = [] ∨ none ∈ ss)

/-- What a slot of a node holds. -/
def slot? (o : SolveOrder) (p i : Nat) : Option Int := (o.slots[p]?.bind (·[i]?)).join

/-- The tree that is reached from a position. -/
def treeAt (o : SolveOrder) (p : Nat) : Expr :=
  let operand (i : Nat) : Expr :=
    match o.slot? p i with
    | some q => if (p : Int) < q ∧ q < o.nodes.size then o.treeAt q.toNat else .hole
    | none => .hole
  match o.nodes[p]? with
  | some (.unit r) => .unit r
  | some (.binary op _ _) => .binary op (operand 0) (operand 1)
  | some (.not _) => .not (operand 0)
  | _ => .unset
termination_by o.nodes.size - p
decreasing_by omega

/-- The tree in a slot. -/
def operandAt (o : SolveOrder) (p i : Nat) : Expr :=
  match o.slot? p i with
  | some q => o.treeAt q.toNat
  | none => .hole

/-- The value of the operand in a slot. -/
def operandValue (o : SolveOrder) (values : Array Bool) (p i : Nat) : Bool :=
  match o.slot? p i with
  | some q => values.getD q.toNat false
  | none => false

/-- The value of a node, given those of its operands. -/
def combine (evidence : Evidence) (operands : Nat → Bool) : Expr → Bool
  | .unit r => evidence.meets r
  | .binary op _ _ => op.apply (operands 0) (operands 1)
  | .not _ => !operands 0
  | .hole | .unset => false

lemma treeAt_unit {o : SolveOrder} {p : Nat} {r : Reference} (hp : o.nodes[p]? = some (.unit r)) :
    o.treeAt p = .unit r := by rw [treeAt, hp]

lemma solve_eq {o : SolveOrder} (evidence : Evidence) (h0 : 0 < o.nodes.size) :
    o.solve evidence = (o.sweep evidence o.nodes.size (Array.replicate o.nodes.size false)).bind
      fun values => .ok (values.getD 0 false) := by
  have hne : o.nodes.isEmpty = false := by simpa [Array.isEmpty] using Nat.ne_of_gt h0
  rw [solve, hne]
  rfl

lemma sweep_succ {o : SolveOrder} (evidence : Evidence) {p : Nat} {e : Expr} {ss : Array (Option Int)}
    (values : Array Bool) (hp : o.nodes[p]? = some e) (hs : o.slots[p]? = some ss) :
    o.sweep evidence (p + 1) values = (nodeValue evidence values e ss).bind fun v =>
      o.sweep evidence p (values.setIfInBounds p v) := by
  have he : o.nodes.getD p .hole = e := by simp [hp]
  rw [sweep, hs, he]
  rfl

namespace Forward
variable {o : SolveOrder} (h : o.Forward)
include h

lemma slot_ahead {p i : Nat} {q : Int} (hq : o.slot? p i = some q) : p < q ∧ q < o.nodes.size := by
  unfold slot? at hq
  cases hs : o.slots[p]? with
  | none => simp [hs] at hq
  | some ss =>
    simp only [hs, Option.bind_some, Option.join_eq_some_iff] at hq
    exact h.ahead hs (Array.mem_of_getElem? hq)

lemma treeAt_binary {p : Nat} {op : Connective} {a b : Expr} (hp : o.nodes[p]? = some (.binary op a b)) :
    o.treeAt p = .binary op (o.operandAt p 0) (o.operandAt p 1) := by
  rw [treeAt, hp]
  simp only [operandAt]
  congr 1
  · cases hs : o.slot? p 0 with
    | none => rfl
    | some q => simp [h.slot_ahead hs]
  · cases hs : o.slot? p 1 with
    | none => rfl
    | some q => simp [h.slot_ahead hs]

lemma treeAt_not {p : Nat} {a : Expr} (hp : o.nodes[p]? = some (.not a)) :
    o.treeAt p = .not (o.operandAt p 0) := by
  rw [treeAt, hp]
  simp only [operandAt]
  congr 1
  cases hs : o.slot? p 0 with
  | none => rfl
  | some q => simp [h.slot_ahead hs]

lemma exists_slots {p : Nat} {e : Expr} (hp : o.nodes[p]? = some e) : ∃ ss, o.slots[p]? = some ss := by
  obtain ⟨hlt, -⟩ := Array.getElem?_eq_some_iff.1 hp
  exact ⟨_, Array.getElem?_eq_getElem (h.size_slots ▸ hlt)⟩

/-- A node that misses no operand has a position ahead of it in each of its slots. -/
lemma exists_position {p i : Nat} {e : Expr} {ss : Array (Option Int)} (hp : o.nodes[p]? = some e)
    (hs : o.slots[p]? = some ss) (hn : none ∉ ss) (hi : i < e.slots.length) :
    ∃ q : Nat, ss[i]? = some (some (q : Int)) ∧ p < q ∧ q < o.nodes.size := by
  have hi' : i < ss.size := by
    rw [h.arity hp hs (List.ne_nil_of_length_pos (Nat.zero_lt_of_lt hi))]
    exact hi
  cases hq : ss[i] with
  | none => exact absurd (hq ▸ Array.getElem_mem hi') hn
  | some q =>
    obtain ⟨hpq, hqn⟩ := h.ahead hs (hq ▸ Array.getElem_mem hi')
    have hnat : (q.toNat : Int) = q := by omega
    exact ⟨q.toNat, by simp [hi', hq, hnat], by omega, by omega⟩

lemma operand_eq {p i : Nat} {e : Expr} {ss : Array (Option Int)} {values : Array Bool} (hp : o.nodes[p]? = some e)
    (hs : o.slots[p]? = some ss) (hn : none ∉ ss) (hi : i < e.slots.length) (hv : values.size = o.nodes.size) :
    operand ss values i = .ok (o.operandValue values p i) := by
  obtain ⟨q, hq, -, hqn⟩ := h.exists_position hp hs hn hi
  have hslot : o.slot? p i = some (q : Int) := by simp [slot?, hs, hq]
  have hindex : index? values.size q = some q := by
    have h0 : ¬ (q : Int) < 0 := by omega
    simp [index?, h0, hv, hqn]
  simp [operand, hq, valueAt, hindex, operandValue, hslot]

/-- The value of a node that is not broken, whatever the values behind it are. -/
lemma nodeValue_eq (evidence : Evidence) {p : Nat} {e : Expr} {ss : Array (Option Int)} {values : Array Bool}
    (hp : o.nodes[p]? = some e) (hs : o.slots[p]? = some ss) (hb : ¬ o.IsBroken p)
    (hv : values.size = o.nodes.size) :
    nodeValue evidence values e ss = .ok (combine evidence (o.operandValue values p) e) := by
  have hn (hu : ∀ r, e ≠ .unit r) : none ∉ ss := fun hm => hb ⟨e, ss, hp, hs, hu, .inr hm⟩
  have hc (hu : ∀ r, e ≠ .unit r) : ss.contains none = false := by simpa using hn hu
  have hop (i : Nat) (hu : ∀ r, e ≠ .unit r) (hi : i < e.slots.length) :
      operand ss values i = .ok (o.operandValue values p i) := h.operand_eq hp hs (hn hu) hi hv
  cases e with
  | hole => exact absurd hp (h.node p)
  | unset => exact absurd ⟨.unset, ss, hp, hs, by simp, .inl rfl⟩ hb
  | unit r => rfl
  | not a =>
    simp only [nodeValue, hc (by simp), hop 0 (by simp) (by simp [Expr.slots])]
    rfl
  | binary op a b =>
    simp only [nodeValue, hc (by simp), hop 0 (by simp) (by simp [Expr.slots]),
      hop 1 (by simp) (by simp [Expr.slots])]
    change (if _ then Except.ok _ else Except.ok _) = _
    split
    next hd => rw [combine, Connective.apply_of_isDecidedBy hd]
    · rfl

lemma nodeValue_error (evidence : Evidence) {p : Nat} {e : Expr} {ss : Array (Option Int)} (values : Array Bool)
    (hp : o.nodes[p]? = some e) (hs : o.slots[p]? = some ss) (hb : o.IsBroken p) :
    ∃ x, nodeValue evidence values e ss = .error x ∧ x.IsStructural := by
  obtain ⟨e', ss', hp', hs', hu, hm⟩ := hb
  rw [hp] at hp'
  rw [hs] at hs'
  cases hp'
  cases hs'
  by_cases hn : none ∈ ss
  · refine ⟨.missingOperand e, ?_, trivial⟩
    cases e with
    | unit r => exact absurd rfl (hu r)
    | hole => exact absurd hp (h.node p)
    | unset | binary | not => simp [nodeValue, hn, Expr.isHole]
  · refine ⟨.unknownNode e, ?_, trivial⟩
    cases e with
    | unit r => exact absurd rfl (hu r)
    | hole => exact absurd hp (h.node p)
    | binary | not => simp [hn, Expr.slots] at hm
    | unset => simp [nodeValue, hn]

/-- What is in a slot is true when its tree is, once the values ahead are known. -/
lemma operandValue_eq (evidence : Evidence) {p : Nat} {values : Array Bool}
    (hv : ∀ q, p < q → q < o.nodes.size → values[q]? = some ((o.treeAt q).truth evidence.meets)) (i : Nat) :
    o.operandValue values p i = (o.operandAt p i).truth evidence.meets := by
  unfold operandValue operandAt
  cases hs : o.slot? p i with
  | none => rfl
  | some q =>
    obtain ⟨hpq, hqn⟩ := h.slot_ahead hs
    simp [hv q.toNat (by omega) (by omega)]

lemma nodeValue_truth (evidence : Evidence) {p : Nat} {e : Expr} {ss : Array (Option Int)} {values : Array Bool}
    (hp : o.nodes[p]? = some e) (hs : o.slots[p]? = some ss) (hb : ¬ o.IsBroken p)
    (hn : values.size = o.nodes.size)
    (hv : ∀ q, p < q → q < o.nodes.size → values[q]? = some ((o.treeAt q).truth evidence.meets)) :
    nodeValue evidence values e ss = .ok ((o.treeAt p).truth evidence.meets) := by
  rw [h.nodeValue_eq evidence hp hs hb hn]
  have ho := h.operandValue_eq evidence hv
  cases e with
  | hole => exact absurd hp (h.node p)
  | unset => exact absurd ⟨.unset, ss, hp, hs, by simp, .inl rfl⟩ hb
  | unit r => rw [treeAt_unit hp]; rfl
  | binary op a b => simp only [h.treeAt_binary hp, combine, Expr.truth_binary, ho]
  | not a => simp only [h.treeAt_not hp, combine, Expr.truth, ho]

/-- The sweep keeps the values behind it right: where nothing is broken, all of them are in the end. -/
theorem sweep_ok (evidence : Evidence) (hb : ∀ p, ¬ o.IsBroken p) {n : Nat} (hn : n ≤ o.nodes.size)
    {values : Array Bool} (hs : values.size = o.nodes.size)
    (hv : ∀ q, n ≤ q → q < o.nodes.size → values[q]? = some ((o.treeAt q).truth evidence.meets)) :
    ∃ vs, o.sweep evidence n values = .ok vs ∧
      ∀ q < o.nodes.size, vs[q]? = some ((o.treeAt q).truth evidence.meets) := by
  induction n generalizing values with
  | zero => exact ⟨values, rfl, fun q hq => hv q (Nat.zero_le q) hq⟩
  | succ p ih =>
    have hp : o.nodes[p]? = some o.nodes[p] := Array.getElem?_eq_getElem (by omega)
    obtain ⟨ss, hss⟩ := h.exists_slots hp
    rw [sweep_succ evidence values hp hss, h.nodeValue_truth evidence hp hss (hb p) hs hv]
    apply ih (by omega) (by simpa using hs)
    intro q hpq hqn
    by_cases hq : q = p
    · subst hq
      simp [hs, hqn]
    · rw [Array.getElem?_setIfInBounds_ne (by omega)]
      exact hv q (by omega) hqn

/-- A broken node stops the sweep, at the latest when it is reached. -/
theorem sweep_error (evidence : Evidence) {n : Nat} (hn : n ≤ o.nodes.size) {values : Array Bool}
    (hs : values.size = o.nodes.size) (hb : ∃ p < n, o.IsBroken p) :
    ∃ x, o.sweep evidence n values = .error x ∧ x.IsStructural := by
  induction n generalizing values with
  | zero =>
    obtain ⟨p, hp, -⟩ := hb
    omega
  | succ p ih =>
    have hp : o.nodes[p]? = some o.nodes[p] := Array.getElem?_eq_getElem (by omega)
    obtain ⟨ss, hss⟩ := h.exists_slots hp
    rw [sweep_succ evidence values hp hss]
    by_cases hbp : o.IsBroken p
    -- Nothing is known of the values here: they need not be right for the node to be refused.
    · obtain ⟨x, hx, hxs⟩ := h.nodeValue_error evidence values hp hss hbp
      exact ⟨x, by rw [hx]; rfl, hxs⟩
    · rw [h.nodeValue_eq evidence hp hss hbp hs]
      obtain ⟨q, hq, hbq⟩ := hb
      have hqp : q < p := by
        have : q ≠ p := fun he => hbp (he ▸ hbq)
        omega
      exact ih (by omega) (by simpa using hs) ⟨q, hqp, hbq⟩

/-- An order with a node is solved as the tree of its first node, unless some node is broken. -/
theorem solve_ok (evidence : Evidence) (h0 : 0 < o.nodes.size) (hb : ∀ p, ¬ o.IsBroken p) :
    o.solve evidence = .ok ((o.treeAt 0).truth evidence.meets) := by
  obtain ⟨vs, hvs, hv⟩ := h.sweep_ok evidence hb (Nat.le_refl _) Array.size_replicate (by omega)
  have hv0 : vs.getD 0 false = (o.treeAt 0).truth evidence.meets := by simp [hv 0 h0]
  rw [solve_eq evidence h0, hvs, ← hv0]
  rfl

theorem solve_error (evidence : Evidence) {p : Nat} (hb : o.IsBroken p) :
    ∃ x, o.solve evidence = .error x ∧ x.IsStructural := by
  have hp : p < o.nodes.size := by
    obtain ⟨e, ss, hp, -⟩ := hb
    exact (Array.getElem?_eq_some_iff.1 hp).1
  obtain ⟨x, hx, hxs⟩ := h.sweep_error evidence (Nat.le_refl _) Array.size_replicate ⟨p, hp, hb⟩
  exact ⟨x, by rw [solve_eq evidence (by omega), hx]; rfl, hxs⟩

end Forward
end SolveOrder
end TagRules
