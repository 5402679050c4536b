import Mathlib.Data.List.Induction
import Mathlib.Tactic.Lemma

/-!
Each value where it comes first. Adding values one by one at the end of a list, unless they are there, gives a list
without repetitions; of values that are equal, be they spelled alike or not, it has the first.
-/
namespace TagRules

variable {α : Type} [BEq α]

/-- Adds a value at the end unless it is there. -/
def addNew (seen : List α) (v : α) : List α := if seen.contains v then seen else seen ++ [v]

/-- What is added is what is not there before, and of that each value where it comes first. -/
theorem foldl_addNew (seen vs : List α) :
    vs.foldl addNew seen = seen ++ (vs.filter fun v => !seen.contains v).eraseDups := by
  induction vs generalizing seen with
  | nil => simp
  | cons v vs ih =>
    rw [List.foldl_cons, ih, addNew]
    split
    next h => simp [h]
    next h =>
      have hs : (vs.filter fun w => !(seen ++ [v]).contains w) =
          (vs.filter fun w => !seen.contains w).filter fun w => !w == v := by
        rw [List.filter_filter]
        refine List.filter_congr fun w _ => ?_
        rw [List.contains_append, Bool.not_or, Bool.and_comm]
        simp
      rw [hs, List.filter_cons_of_pos (by simpa using h), List.eraseDups_cons, List.append_assoc]
      rfl

lemma foldl_addNew_nil (vs : List α) : vs.foldl addNew [] = vs.eraseDups := by
  rw [foldl_addNew, List.nil_append]
  exact congrArg _ (List.filter_eq_self.2 fun _ _ => rfl)

lemma eraseDups_concat (vs : List α) (v : α) : (vs ++ [v]).eraseDups = addNew vs.eraseDups v := by
  rw [← foldl_addNew_nil, List.foldl_append, foldl_addNew_nil]
  rfl

lemma eraseDups_subset (vs : List α) : vs.eraseDups ⊆ vs := by
  induction vs using List.reverseRecOn with
  | nil => exact List.nil_subset _
  | append_singleton vs v ih =>
    rw [eraseDups_concat, addNew]
    split
    · exact List.subset_append_of_subset_left _ ih
    · exact List.append_subset.2 ⟨List.subset_append_of_subset_left _ ih, List.subset_append_right _ _⟩

/-- Whether equal values are left out before or after does not matter, if they are treated alike. -/
lemma eraseDups_filter {p : α → Bool} (hp : ∀ v w, v == w → p v = p w) (vs : List α) :
    (vs.filter p).eraseDups = vs.eraseDups.filter p := by
  have hc {xs : List α} {v : α} (hv : p v = true) : (xs.filter p).contains v = xs.contains v := by
    rw [Bool.eq_iff_iff, List.contains_iff_exists_mem_beq, List.contains_iff_exists_mem_beq]
    constructor
    · rintro ⟨w, hw, he⟩
      exact ⟨w, (List.mem_filter.1 hw).1, he⟩
    · rintro ⟨w, hw, he⟩
      exact ⟨w, List.mem_filter.2 ⟨hw, hp v w he ▸ hv⟩, he⟩
  induction vs using List.reverseRecOn with
  | nil => rfl
  | append_singleton vs w ih =>
    rw [eraseDups_concat, addNew, List.filter_append]
    cases hw : p w with
    | false =>
      rw [List.filter_cons_of_neg (by simp [hw]), List.filter_nil, List.append_nil, ih]
      split
      next => rfl
      next => simp [hw]
    | true =>
      rw [List.filter_cons_of_pos hw, List.filter_nil, eraseDups_concat, addNew, ih, hc hw]
      split
      next => rfl
      next => simp [hw]

variable [EquivBEq α]

lemma contains_addNew (seen : List α) (v w : α) : (addNew seen v).contains w = (seen.contains w || w == v) := by
  unfold addNew
  split
  next h =>
    cases hw : w == v with
    | true => rw [List.contains_congr hw, h, Bool.or_true]
    | false => rw [Bool.or_false]
  next => simp [List.contains_append]

/-- Nothing is lost of what is equal to no other. -/
theorem contains_eraseDups (vs : List α) (v : α) : vs.eraseDups.contains v = vs.contains v := by
  induction vs using List.reverseRecOn with
  | nil => rfl
  | append_singleton vs w ih =>
    rw [eraseDups_concat, contains_addNew, ih]
    simp

theorem pairwise_eraseDups (vs : List α) : vs.eraseDups.Pairwise fun v w => ¬ v == w := by
  induction vs using List.reverseRecOn with
  | nil => exact .nil
  | append_singleton vs w ih =>
    rw [eraseDups_concat, addNew]
    split
    · exact ih
    next h =>
      rw [List.pairwise_append]
      refine ⟨ih, List.pairwise_singleton _ _, fun v hv w' hw hvw => ?_⟩
      obtain rfl := List.mem_singleton.1 hw
      exact h (List.contains_iff_exists_mem_beq.2 ⟨v, hv, BEq.symm hvw⟩)

/-- What comes behind adds what is not in front. -/
theorem eraseDups_append (vs ws : List α) :
    (vs ++ ws).eraseDups = vs.eraseDups ++ (ws.filter fun w => !vs.contains w).eraseDups := by
  rw [← foldl_addNew_nil, List.foldl_append, foldl_addNew_nil, foldl_addNew]
  simp only [contains_eraseDups]

lemma eraseDups_of_pairwise {vs : List α} (h : vs.Pairwise fun v w => ¬ v == w) : vs.eraseDups = vs := by
  induction vs using List.reverseRecOn with
  | nil => rfl
  | append_singleton vs w ih =>
    obtain ⟨hv, -, hw⟩ := List.pairwise_append.1 h
    have hc : ¬ vs.contains w := by
      rw [List.contains_iff_exists_mem_beq]
      rintro ⟨v, hm, hvw⟩
      exact hw v hm w List.mem_cons_self (BEq.symm hvw)
    rw [eraseDups_concat, ih hv, addNew, if_neg hc]

lemma foldl_addNew_eraseDups (seen vs : List α) : vs.eraseDups.foldl addNew seen = vs.foldl addNew seen := by
  have hp : ∀ v w, v == w → (!seen.contains v) = !seen.contains w := fun v w h => by rw [List.contains_congr h]
  rw [foldl_addNew, foldl_addNew, eraseDups_filter hp, eraseDups_of_pairwise (pairwise_eraseDups vs),
    eraseDups_filter hp]

lemma eraseDups_append_eraseDups (vs ws : List α) : (vs.eraseDups ++ ws.eraseDups).eraseDups = (vs ++ ws).eraseDups := by
  rw [← foldl_addNew_nil (vs.eraseDups ++ _), List.foldl_append, foldl_addNew_eraseDups, foldl_addNew_eraseDups,
    ← List.foldl_append, foldl_addNew_nil]

lemma eraseDups_flatMap {β : Type} (f : β → List α) (bs : List β) :
    (bs.flatMap fun b => (f b).eraseDups).eraseDups = (bs.flatMap f).eraseDups := by
  rw [← foldl_addNew_nil, ← foldl_addNew_nil, List.foldl_flatMap, List.foldl_flatMap]
  simp only [foldl_addNew_eraseDups]

end TagRules
