import TagRules.Engine
import TagRules.Proofs.Entries
import TagRules.Proofs.Outcome

/-!
Engines that calls can reach. Whatever the calls are and whichever of them fail, every expression of a rule is what
its source text compiles to, and no rule has two entries.
-/
namespace TagRules

/-- A call that changes the rules. -/
inductive RuleCall
  | addRule (name : String) (expressions : Value)
  | addRules (batch : List (String × Value))
  | removeRule (name : String)

namespace Engine

/-- The engine after a call; a call that fails leaves it as it was. -/
def call (g : Engine) : RuleCall → Engine
  | .addRule name expressions => match g.addRules [(name, expressions)] with
    | .ok (g', _) => g'
    | .error _ => g
  | .addRules batch => match g.addRules batch with
    | .ok (g', _) => g'
    | .error _ => g
  | .removeRule name => match g.removeRule name with
    | .ok g' => g'
    | .error _ => g

/-- The engine after some calls, one after the other. -/
def after (g : Engine) (calls : List RuleCall) : Engine := calls.foldl call g

end Engine

namespace Compiled

/-- The expression is what its source text compiles to. -/
def IsFaithful (caseSensitive : Bool) (c : Compiled) : Prop := ofSource caseSensitive c.source = .ok c

lemma ofSource_ok {caseSensitive : Bool} {source : String} {c : Compiled} (h : ofSource caseSensitive source = .ok c) :
    c.source = source ∧ (Parser.ofSource source caseSensitive).parse.1 = .ok c.expr ∧ c.order = .ofExpr c.expr := by
  unfold ofSource at h
  split at h
  next => cases h
  next expr p hp =>
    cases h
    exact ⟨rfl, by rw [hp], rfl⟩

lemma isFaithful_of_ofSource {caseSensitive : Bool} {source : String} {c : Compiled}
    (h : ofSource caseSensitive source = .ok c) : c.IsFaithful caseSensitive := by
  unfold IsFaithful
  rwa [(ofSource_ok h).1]

end Compiled
namespace RuleStore

/-- Every expression is compiled from its source, and no rule stands twice. -/
structure IsCompiled (s : RuleStore) : Prop where
  faithful : ∀ {name : String} {cs : List Compiled}, (name, cs) ∈ s.rules → ∀ c ∈ cs, c.IsFaithful s.caseSensitive
  distinct : s.ruleNames.Nodup

lemma isCompiled_empty (caseSensitive : Bool) : (empty caseSensitive).IsCompiled :=
  ⟨fun h => (by cases h), List.nodup_nil⟩

@[simp] lemma rules_refer (s : RuleStore) (cs : List Compiled) : (s.refer cs).rules = s.rules := by
  unfold refer
  induction cs generalizing s with
  | nil => rfl
  | cons c cs ih => rw [List.foldl_cons, ih]

@[simp] lemma caseSensitive_refer (s : RuleStore) (cs : List Compiled) :
    (s.refer cs).caseSensitive = s.caseSensitive := by
  unfold refer
  induction cs generalizing s with
  | nil => rfl
  | cons c cs ih => rw [List.foldl_cons, ih]

lemma caseSensitive_insert (s : RuleStore) (rule : String × List Compiled) :
    (s.insert rule).caseSensitive = s.caseSensitive := by simp [insert]

lemma IsCompiled.insert {s : RuleStore} (h : s.IsCompiled) {rule : String × List Compiled}
    (hr : ∀ c ∈ rule.2, c.IsFaithful s.caseSensitive) : (s.insert rule).IsCompiled where
  faithful {name cs} hm c hc := by
    rw [caseSensitive_insert]
    simp only [RuleStore.insert, rules_refer] at hm
    obtain hm | hm | ⟨old, ho, he⟩ := Entries.mem_update hm
    · exact h.faithful hm c hc
    · cases hm
      exact hr c (by simpa using hc)
    · cases he
      obtain hc | hc := List.mem_append.1 hc
      · exact h.faithful ho c hc
      · exact hr c hc
  distinct := by
    simp only [ruleNames, RuleStore.insert, rules_refer]
    exact Entries.nodup_update h.distinct _ _

lemma compileRule_ok {caseSensitive : Bool} {name : String} {expressions : Value} {rule : String × List Compiled}
    (h : compileRule caseSensitive name expressions = .ok rule) : ∀ c ∈ rule.2, c.IsFaithful caseSensitive := by
  obtain ⟨texts, -, h⟩ := ok_of_bind h
  obtain ⟨compiled, hc, h⟩ := ok_of_bind h
  cases h
  intro c hm
  obtain ⟨source, -, hs⟩ := exists_of_mapM_ok (ok_of_mapError hc) hm
  exact Compiled.isFaithful_of_ofSource hs

lemma caseSensitive_foldl_insert (s : RuleStore) (rules : List (String × List Compiled)) :
    (rules.foldl insert s).caseSensitive = s.caseSensitive := by
  induction rules generalizing s with
  | nil => rfl
  | cons rule rules ih => rw [List.foldl_cons, ih, caseSensitive_insert]

lemma IsCompiled.foldl_insert {s : RuleStore} (h : s.IsCompiled) {rules : List (String × List Compiled)}
    (hr : ∀ rule ∈ rules, ∀ c ∈ rule.2, c.IsFaithful s.caseSensitive) :
    (rules.foldl RuleStore.insert s).IsCompiled := by
  induction rules generalizing s with
  | nil => exact h
  | cons rule rules ih =>
    apply ih (h.insert (hr rule List.mem_cons_self))
    rw [caseSensitive_insert]
    exact fun r hm => hr r (List.mem_cons_of_mem _ hm)

/-- A batch that is registered was compiled first. -/
theorem IsCompiled.addRules {s s' : RuleStore} (h : s.IsCompiled) {batch : List (String × Value)} {notes : List Note}
    (ha : s.addRules batch = .ok (s', notes)) : s'.IsCompiled ∧ s'.caseSensitive = s.caseSensitive := by
  obtain ⟨rules, hr, ha⟩ := ok_of_bind ha
  cases ha
  refine ⟨h.foldl_insert ?_, caseSensitive_foldl_insert s rules⟩
  intro rule hm
  obtain ⟨entry, -, he⟩ := exists_of_mapM_ok hr hm
  exact compileRule_ok he

lemma refer_all (rules : List (String × List Compiled)) (s : RuleStore) :
    (rules.foldl (fun s r => s.refer r.2) s).rules = s.rules ∧
      (rules.foldl (fun s r => s.refer r.2) s).caseSensitive = s.caseSensitive := by
  induction rules generalizing s with
  | nil => exact ⟨rfl, rfl⟩
  | cons r rules ih => simpa using ih (s.refer r.2)

/-- What is left after a removal was there before. -/
theorem IsCompiled.removeRule {s s' : RuleStore} (h : s.IsCompiled) {name : String}
    (hr : s.removeRule name = .ok s') : s'.IsCompiled ∧ s'.caseSensitive = s.caseSensitive := by
  unfold RuleStore.removeRule at hr
  split at hr
  · cases hr
    have ⟨hrules, hcase⟩ :=
      refer_all (Entries.erase s.rules name) ⟨s.caseSensitive, Entries.erase s.rules name, [], []⟩
    refine ⟨⟨?_, ?_⟩, hcase⟩
    · intro n cs hm c hc
      rw [hrules] at hm
      rw [hcase]
      exact h.faithful ((List.mem_filter.1 hm).1) c hc
    · rw [ruleNames, hrules]
      exact h.distinct.sublist (List.filter_sublist.map _)
  · cases hr

end RuleStore
namespace Engine

lemma addRules_ok {g g' : Engine} {batch : List (String × Value)} {notes : List Note}
    (h : g.addRules batch = .ok (g', notes)) :
    g'.tagger = g.tagger ∧ g.store.addRules batch = .ok (g'.store, notes) := by
  obtain ⟨⟨store, notes'⟩, hs, h⟩ := ok_of_bind h
  cases h
  exact ⟨rfl, hs⟩

lemma removeRule_ok {g g' : Engine} {name : String} (h : g.removeRule name = .ok g') :
    g'.tagger = g.tagger ∧ g.store.removeRule name = .ok g'.store := by
  obtain ⟨store, hs, h⟩ := ok_of_bind h
  cases h
  exact ⟨rfl, hs⟩

/-- What holds of an engine that was made with a tagger and a case and then called. -/
structure Reached (tagger : Option Tagger) (caseSensitive : Bool) (g : Engine) : Prop where
  tagger_eq : g.tagger = tagger
  case_eq : g.store.caseSensitive = caseSensitive
  compiled : g.store.IsCompiled

variable {tagger : Option Tagger} {caseSensitive : Bool} {g g' : Engine}

lemma reached_new (tagger : Option Tagger) (caseSensitive : Bool) :
    (new tagger caseSensitive).Reached tagger caseSensitive := ⟨rfl, rfl, RuleStore.isCompiled_empty caseSensitive⟩

lemma Reached.addRules (h : g.Reached tagger caseSensitive) {batch : List (String × Value)} {notes : List Note}
    (ha : g.addRules batch = .ok (g', notes)) : g'.Reached tagger caseSensitive := by
  obtain ⟨ht, hs⟩ := addRules_ok ha
  obtain ⟨hc, hcase⟩ := h.compiled.addRules hs
  exact ⟨ht.trans h.tagger_eq, hcase.trans h.case_eq, hc⟩

lemma Reached.removeRule (h : g.Reached tagger caseSensitive) {name : String} (hr : g.removeRule name = .ok g') :
    g'.Reached tagger caseSensitive := by
  obtain ⟨ht, hs⟩ := removeRule_ok hr
  obtain ⟨hc, hcase⟩ := h.compiled.removeRule hs
  exact ⟨ht.trans h.tagger_eq, hcase.trans h.case_eq, hc⟩

/-- No call leads out of what can be reached. -/
theorem Reached.call (h : g.Reached tagger caseSensitive) (c : RuleCall) :
    (g.call c).Reached tagger caseSensitive := by
  cases c with
  | addRule name expressions =>
    simp only [Engine.call]
    split
    next ha => exact h.addRules ha
    · exact h
  | addRules batch =>
    simp only [Engine.call]
    split
    next ha => exact h.addRules ha
    · exact h
  | removeRule name =>
    simp only [Engine.call]
    split
    next hr => exact h.removeRule hr
    · exact h

/-- Nor do any number of calls. -/
theorem Reached.after (h : g.Reached tagger caseSensitive) (calls : List RuleCall) :
    (g.after calls).Reached tagger caseSensitive := by
  induction calls generalizing g with
  | nil => exact h
  | cons c calls ih => exact ih (h.call c)

end Engine
end TagRules
