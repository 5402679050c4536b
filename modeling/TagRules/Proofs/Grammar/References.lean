import TagRules.Expr.Walk
import TagRules.Proofs.Grammar.Complete

/-!
The references of an expression. The walk with a stack comes upon them in the order of plain recursion, and what the
parser remembers of an expression are their names, and their scopes where they have one, each at its first place.
-/
namespace TagRules
namespace Expr

/-- The first tree on a stack is walked before the others are looked at. -/
theorem referencesOn_cons (e : Expr) (rest : List Expr) :
    referencesOn (e :: rest) = e.references ++ referencesOn rest := by
  unfold references
  induction e generalizing rest with
  | hole | unset | unit => simp [referencesOn]
  | binary op a b iha ihb => rw [referencesOn, referencesOn, iha, ihb, iha [b], List.append_assoc]
  | not a ih => rw [referencesOn, referencesOn, ih]

@[simp] lemma references_hole : hole.references = [] := by simp [references, referencesOn]

@[simp] lemma references_unset : unset.references = [] := by simp [references, referencesOn]

@[simp] lemma references_unit (r : Reference) : (unit r).references = [r] := by simp [references, referencesOn]

@[simp] lemma references_binary (op : Connective) (a b : Expr) :
    (binary op a b).references = a.references ++ b.references := by
  rw [references, referencesOn, referencesOn_cons]
  rfl

@[simp] lemma references_not (a : Expr) : a.not.references = a.references := by
  rw [references, referencesOn]
  rfl

/-- The tags that an expression names. -/
def names (e : Expr) : List String := e.references.map (·.name)

/-- The scopes that an expression looks under. -/
def scopes (e : Expr) : List String := (e.references.map (·.scope)).filter (!·.isEmpty)

@[simp] lemma names_binary (op : Connective) (a b : Expr) : (binary op a b).names = a.names ++ b.names := by
  simp [names]

@[simp] lemma names_not (a : Expr) : a.not.names = a.names := by simp [names]

@[simp] lemma scopes_binary (op : Connective) (a b : Expr) : (binary op a b).scopes = a.scopes ++ b.scopes := by
  simp [scopes]

@[simp] lemma scopes_not (a : Expr) : a.not.scopes = a.scopes := by simp [scopes]

lemma mem_scopes {e : Expr} {p : String} : p ∈ e.scopes ↔ p ≠ "" ∧ ∃ r ∈ e.references, r.scope = p := by
  simp [scopes, and_comm]

end Expr
namespace Parser

lemma mem_remember {names : List String} {name n : String} : n ∈ remember names name ↔ n ∈ names ∨ n = name := by
  unfold remember
  split
  next h =>
    rw [List.contains_iff_mem] at h
    exact ⟨.inl, fun hn => hn.elim id fun he => he ▸ h⟩
  next => simp

lemma nodup_remember {names : List String} (h : names.Nodup) (name : String) : (remember names name).Nodup := by
  unfold remember
  split
  next => exact h
  next hn =>
    rw [List.nodup_append]
    refine ⟨h, List.pairwise_singleton _ _, ?_⟩
    rintro n hm _ hs rfl
    rw [List.mem_singleton] at hs
    exact hn (by simpa [← hs] using hm)

lemma mem_foldl_remember {names more : List String} {n : String} :
    n ∈ more.foldl remember names ↔ n ∈ names ∨ n ∈ more := by
  induction more generalizing names with
  | nil => simp
  | cons name more ih => rw [List.foldl_cons, ih, mem_remember, List.mem_cons, or_assoc]

lemma nodup_foldl_remember {names : List String} (h : names.Nodup) (more : List String) :
    (more.foldl remember names).Nodup := by
  induction more generalizing names with
  | nil => exact h
  | cons name more ih => exact ih (nodup_remember h name)

namespace Memory

theorem tags_collect (m : Memory) (e : Expr) : (m.collect e).tags = e.names.foldl remember m.tags := by
  induction e generalizing m with
  | hole | unset | unit => simp [collect, Expr.names, add]
  | binary op a b iha ihb => simp [collect, iha, ihb]
  | not a ih => simpa [collect] using ih m

theorem fieldPaths_collect (m : Memory) (e : Expr) :
    (m.collect e).fieldPaths = e.scopes.foldl remember m.fieldPaths := by
  induction e generalizing m with
  | hole | unset => simp [collect, Expr.scopes]
  | unit r => cases h : r.scope.isEmpty <;> simp_all [collect, Expr.scopes, add]
  | binary op a b iha ihb => simp [collect, iha, ihb]
  | not a ih => simpa [collect] using ih m

end Memory
end Parser
end TagRules
