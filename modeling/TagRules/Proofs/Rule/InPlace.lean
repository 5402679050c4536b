import TagRules.Proofs.Engine.Reachable

/-!
Registration as writes to one store. Here a call is a sequence of steps that change the store as they go, and a step
that fails undoes nothing. A call that fails leaves the store as it was all the same, because whatever can fail in it
comes before its first write; and a call that does not leaves the store that the calls on values give.
-/
namespace TagRules

/-- Why a call that changes the rules fails. -/
inductive CallError
  | rule (e : RuleError)
  | unknown (u : UnknownRule)

/-- The store after a call, or why the call fails. -/
def RuleStore.perform (s : RuleStore) : RuleCall → Except CallError RuleStore
  | .addRule name expressions => ((s.addRule name expressions).map (·.1)).mapError .rule
  | .addRules batch => ((s.addRules batch).map (·.1)).mapError .rule
  | .removeRule name => (s.removeRule name).mapError .unknown

/-- Steps on a store. What was written before a failure stays written. -/
abbrev Writing (α : Type) := ExceptT CallError (StateM RuleStore) α

namespace Writing

/-- The outcome of some steps on a store, and the store as they leave it. -/
def on {α : Type} (w : Writing α) (s : RuleStore) : Except CallError α × RuleStore := w.run.run s

/-- Enters the names that an expression refers to. -/
def names (c : Compiled) : Writing Unit := do
  modify fun s => { s with tags := RuleStore.union s.tags c.tags }
  modify fun s => { s with paths := RuleStore.union s.paths c.fieldPaths }

/-- Enters the expressions of a rule, then the names that they refer to. -/
def rule (r : String × List Compiled) : Writing Unit := do
  modify fun s => { s with rules := Entries.extend s.rules r.1 r.2 }
  r.2.forM names

/-- Compiles a rule for the store. -/
def compiled (entry : String × Value) : Writing (String × List Compiled) := do
  let s ← get
  MonadExcept.ofExcept ((RuleStore.compileRule s.caseSensitive entry.1 entry.2).mapError .rule)

/-- Compiles all rules of a batch, then enters one after the other. -/
def batch (entries : List (String × Value)) : Writing Unit := do
  let rules ← entries.mapM compiled
  rules.forM rule

/-- Strikes a rule out, and collects the names anew. -/
def removal (name : String) : Writing Unit := do
  let s ← get
  if Entries.contains s.rules name then
    modify fun s => { s with rules := Entries.erase s.rules name }
    modify fun s => { s with tags := [], paths := [] }
    let left ← get
    left.rules.forM fun r => r.2.forM names
  else throw (.unknown ⟨name⟩)

variable {α β : Type} {s s' : RuleStore}

lemma on_bind_ok {w : Writing α} (f : α → Writing β) {a : α} (h : w.on s = (.ok a, s')) :
    on (w >>= f) s = on (f a) s' := by
  unfold on at h ⊢
  rw [ExceptT.run_bind, StateT.run_bind, h]
  rfl

lemma on_bind_error {w : Writing α} (f : α → Writing β) {e : CallError} (h : w.on s = (.error e, s')) :
    on (w >>= f) s = (.error e, s') := by
  unfold on at h ⊢
  rw [ExceptT.run_bind, StateT.run_bind, h]
  rfl

lemma on_get (s : RuleStore) : on (get : Writing RuleStore) s = (.ok s, s) := rfl

lemma on_ofExcept (x : Except CallError α) (s : RuleStore) : on (MonadExcept.ofExcept x) s = (x, s) := by
  cases x <;> rfl

/-- Steps that only write, taken for all elements of a list. -/
lemma on_forM {step : α → Writing Unit} {f : RuleStore → α → RuleStore}
    (h : ∀ a s, (step a).on s = (.ok (), f s a)) (xs : List α) (s : RuleStore) :
    on (xs.forM step) s = (.ok (), xs.foldl f s) := by
  induction xs generalizing s with
  | nil => rfl
  | cons a xs ih => exact (on_bind_ok _ (h a s)).trans (ih (f s a))

/-- Steps that only read, taken for all elements of a list; the first that fails decides. -/
lemma on_mapM {step : α → Writing β} {f : α → Except CallError β} (h : ∀ a, (step a).on s = (f a, s)) (xs : List α) :
    on (xs.mapM step) s = (xs.mapM f, s) := by
  induction xs with
  | nil => rfl
  | cons a xs ih =>
    rw [List.mapM_cons, List.mapM_cons]
    cases ha : f a with
    | error e => exact on_bind_error _ (by rw [h a, ha])
    | ok b =>
      rw [on_bind_ok _ (by rw [h a, ha])]
      cases hs : xs.mapM f with
      | error e => exact on_bind_error _ (by rw [ih, hs])
      | ok bs => exact on_bind_ok _ (by rw [ih, hs])

lemma on_names (c : Compiled) (s : RuleStore) : (names c).on s = (.ok (), s.refer [c]) := rfl

lemma on_forM_names (cs : List Compiled) (s : RuleStore) : on (cs.forM names) s = (.ok (), s.refer cs) :=
  on_forM (fun c s => on_names c s) cs s

lemma on_rule (r : String × List Compiled) (s : RuleStore) : (rule r).on s = (.ok (), s.insert r) :=
  on_forM_names r.2 _

lemma on_compiled (entry : String × Value) (s : RuleStore) :
    (compiled entry).on s = ((RuleStore.compileRule s.caseSensitive entry.1 entry.2).mapError .rule, s) := by
  rw [compiled, on_bind_ok _ (on_get s)]
  exact on_ofExcept _ s

end Writing

/-- A call as steps on the store. -/
def RuleCall.writing : RuleCall → Writing Unit
  | .addRule name expressions => .batch [(name, expressions)]
  | .addRules entries => .batch entries
  | .removeRule name => .removal name

namespace Writing

theorem on_batch (entries : List (String × Value)) (s : RuleStore) : (batch entries).on s =
    match s.perform (.addRules entries) with
    | .ok s' => (.ok (), s')
    | .error e => (.error e, s) := by
  -- All rules are compiled in the store as it was, before the first of them is entered.
  have hm := on_mapM (fun entry => on_compiled entry s) entries
  rw [mapM_mapError] at hm
  simp only [RuleStore.perform, RuleStore.addRules]
  cases hc : entries.mapM (fun entry => RuleStore.compileRule s.caseSensitive entry.1 entry.2) with
  | error e =>
    rw [hc] at hm
    exact on_bind_error _ hm
  | ok rules =>
    rw [hc] at hm
    exact (on_bind_ok _ hm).trans (on_forM (fun r s => on_rule r s) rules s)

theorem on_removal (name : String) (s : RuleStore) : (removal name).on s =
    match s.perform (.removeRule name) with
    | .ok s' => (.ok (), s')
    | .error e => (.error e, s) := by
  rw [removal, on_bind_ok _ (on_get s), RuleStore.perform, RuleStore.removeRule]
  split
  · exact on_forM (fun (r : String × List Compiled) s => on_forM_names r.2 s) _ _
  · rfl

/-- A call that fails has written nothing. -/
theorem on_call (c : RuleCall) (s : RuleStore) : c.writing.on s =
    match s.perform c with
    | .ok s' => (.ok (), s')
    | .error e => (.error e, s) := by
  cases c with
  | addRule name expressions => exact on_batch [(name, expressions)] s
  | addRules entries => exact on_batch entries s
  | removeRule name => exact on_removal name s

end Writing
end TagRules
