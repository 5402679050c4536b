import TagRules.Proofs.Evaluation.Linear
import Mathlib.Algebra.Group.Nat.Even
import Mathlib.Algebra.Ring.Parity

/-!
Evaluation on more evidence. A reference that is met stays met when tags and paths are added; so an expression whose
units all stand under an even number of negations stays true, and one whose units all stand under an odd number stays
false. Under a negation the two cases change places, so they are shown together.
-/
namespace TagRules

/-- Each tag is in the other evidence too, and each path under it there. A tag without known paths has none. -/
def Evidence.IsWithin (less more : Evidence) : Prop :=
  ∀ tag paths, less.lookup tag = some paths →
    ∃ paths', more.lookup tag = some paths' ∧ ∀ p ∈ paths.getD [], p ∈ paths'.getD []

/-- How many negations stand above each unit, from left to right. -/
def Expr.negations : Expr → List Nat
  | .hole | .unset => []
  | .unit _ => [0]
  | .binary _ a b => a.negations ++ b.negations
  | .not a => a.negations.map (· + 1)

namespace Evidence

variable {less more : Evidence}

/-- A reference that is met on some evidence is met on more: its tag is still there, and so is the path. -/
theorem IsWithin.meets (h : less.IsWithin more) {r : Reference} (hr : less.meets r = true) : more.meets r = true := by
  unfold Evidence.meets at hr ⊢
  cases hl : less.lookup r.name with
  | none =>
    rw [hl] at hr
    cases hr
  | some paths =>
    obtain ⟨paths', hm, hp⟩ := h r.name paths hl
    rw [hl] at hr
    rw [hm]
    obtain hs | ha := Bool.or_eq_true_iff.1 hr
    · exact Bool.or_eq_true_iff.2 (.inl hs)
    · obtain ⟨p, hmem, hstarts⟩ := List.any_eq_true.1 ha
      exact Bool.or_eq_true_iff.2 (.inr (List.any_eq_true.2 ⟨p, hp p hmem, hstarts⟩))

end Evidence

lemma Connective.apply_mono (op : Connective) {a b a' b' : Bool} (ha : a = true → a' = true)
    (hb : b = true → b' = true) (h : op.apply a b = true) : op.apply a' b' = true := by
  cases op with
  | and =>
    obtain ⟨h₁, h₂⟩ := Bool.and_eq_true_iff.1 h
    exact Bool.and_eq_true_iff.2 ⟨ha h₁, hb h₂⟩
  | or => exact Bool.or_eq_true_iff.2 ((Bool.or_eq_true_iff.1 h).imp ha hb)

lemma not_antitone {a b : Bool} (h : a = true → b = true) (hb : (!b) = true) : (!a) = true := by
  cases a with
  | false => rfl
  | true =>
    rw [h rfl] at hb
    cases hb

namespace Expr

/-- When more references are met, an expression stays true whose units stand under an even number of negations, and one
stays false whose units stand under an odd number. -/
theorem truth_mono {met met' : Reference → Bool} (h : ∀ r, met r = true → met' r = true) (e : Expr) :
    ((∀ n ∈ e.negations, Even n) → e.truth met = true → e.truth met' = true) ∧
    ((∀ n ∈ e.negations, Odd n) → e.truth met' = true → e.truth met = true) := by
  induction e with
  | hole | unset => exact ⟨fun _ => id, fun _ => id⟩
  | unit r =>
    refine ⟨fun _ => h r, fun ho => ?_⟩
    -- The unit itself stands under no negation.
    exact absurd (ho 0 (List.mem_singleton.2 rfl)) Nat.not_odd_zero
  | binary op a b iha ihb =>
    simp only [negations, List.forall_mem_append, truth_binary]
    constructor
    · rintro ⟨ha, hb⟩
      exact op.apply_mono (iha.1 ha) (ihb.1 hb)
    · rintro ⟨ha, hb⟩
      exact op.apply_mono (iha.2 ha) (ihb.2 hb)
  | not a ih =>
    simp only [negations, List.forall_mem_map]
    constructor
    · intro he
      have ho : ∀ n ∈ a.negations, Odd n := fun n hn => Nat.not_even_iff_odd.1 (Nat.even_add_one.1 (he n hn))
      exact not_antitone (ih.2 ho)
    · intro ho
      have he : ∀ n ∈ a.negations, Even n := fun n hn => Nat.not_odd_iff_even.1 (Nat.odd_add_one.1 (ho n hn))
      exact not_antitone (ih.1 he)

/-- A complete expression has a truth value on all evidence, the same by recursion and by its order. On more evidence it
stays true if every unit stands under an even number of negations, and it stays false if every unit stands under an odd
number. -/
theorem value_on_more_evidence {e : Expr} (he : e.isComplete = true) {less more : Evidence} (h : less.IsWithin more) :
    ∃ a b, e.evaluate less = .ok a ∧ (SolveOrder.ofExpr e).solve less = .ok a ∧
      e.evaluate more = .ok b ∧ (SolveOrder.ofExpr e).solve more = .ok b ∧
      ((∀ n ∈ e.negations, Even n) → a = true → b = true) ∧ ((∀ n ∈ e.negations, Odd n) → b = true → a = true) :=
  ⟨e.truth less.meets, e.truth more.meets, evaluate_of_isComplete less he, SolveOrder.solve_ofExpr he less,
    evaluate_of_isComplete more he, SolveOrder.solve_ofExpr he more, truth_mono (fun _ => h.meets) e⟩

/-- A tag without paths gets one, and another tag comes in. -/
theorem value_on_more_evidence_scoped :
    let e : Expr := .not (.binary .and (.not (.unit ⟨"a", "x"⟩)) (.not (.unit ⟨"b", ""⟩)))
    let less : Evidence := [("a", none), ("b", some [])]
    let more : Evidence := [("c", some ["y"]), ("b", none), ("a", some ["z", "x.y"])]
    e.isComplete = true ∧ less.IsWithin more ∧ (∀ n ∈ e.negations, Even n) ∧
    (SolveOrder.ofExpr e).solve less = .ok true ∧ e.evaluate more = .ok true ∧
    (SolveOrder.ofExpr e).solve more = .ok true := by
  intro e less more
  have hw : less.IsWithin more := by
    intro tag paths ht
    simp only [less, List.lookup_cons, List.lookup_nil] at ht
    split at ht
    next ha =>
      obtain rfl : tag = "a" := by simpa using ha
      cases ht
      exact ⟨some ["z", "x.y"], rfl, by simp⟩
    next =>
      split at ht
      next hb =>
        obtain rfl : tag = "b" := by simpa using hb
        cases ht
        exact ⟨none, rfl, by simp⟩
      next => cases ht
  have hn : ∀ n ∈ e.negations, Even n := by decide
  have hl : (SolveOrder.ofExpr e).solve less = .ok true := by rw [SolveOrder.solve_ofExpr rfl]; rfl
  obtain ⟨a, b, -, ha, hb, hb', hm, -⟩ := value_on_more_evidence (e := e) rfl hw
  rw [hl] at ha
  cases ha
  obtain rfl : b = true := hm hn rfl
  exact ⟨rfl, hw, hn, hl, hb, hb'⟩

end Expr
end TagRules
