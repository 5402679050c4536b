import TagRules.Proofs.Grammar.References
import TagRules.Proofs.Grammar.Sentence
import TagRules.Proofs.Rule.Log
import Mathlib.Data.String.Basic

/-!
The names that a store keeps against the rules that it holds. Adding expressions adds what they refer to and no more,
and a removal collects the names anew from what is left; so after any calls they are those that the sources of the
registered rules refer to, sorted and each once.
-/
namespace TagRules
namespace RuleStore

/-- All expressions of a store, rule by rule. -/
def expressions (s : RuleStore) : List Compiled := s.rules.flatMap (·.2)

/-- The names that a store keeps are those of some expressions, each once. -/
structure Names (s : RuleStore) (cs : List Compiled) : Prop where
  nodup_tags : s.tags.Nodup
  nodup_paths : s.paths.Nodup
  mem_tags : ∀ n, n ∈ s.tags ↔ ∃ c ∈ cs, n ∈ c.tags
  mem_paths : ∀ p, p ∈ s.paths ↔ ∃ c ∈ cs, p ∈ c.fieldPaths

/-- The names that a store keeps are those of its own expressions. -/
def IsNamed (s : RuleStore) : Prop := s.Names s.expressions

variable {s s' : RuleStore} {cs : List Compiled}

lemma names_nil (caseSensitive : Bool) (rules : List (String × List Compiled)) :
    Names ⟨caseSensitive, rules, [], []⟩ [] :=
  ⟨List.nodup_nil, List.nodup_nil, by simp, by simp⟩

lemma Names.congr (h : s.Names cs) {cs' : List Compiled} (hm : ∀ c, c ∈ cs ↔ c ∈ cs') : s.Names cs' where
  nodup_tags := h.nodup_tags
  nodup_paths := h.nodup_paths
  mem_tags n := by simp only [h.mem_tags, hm]
  mem_paths p := by simp only [h.mem_paths, hm]

/-- What one more expression refers to is added. -/
theorem Names.refer (h : s.Names cs) (more : List Compiled) : (s.refer more).Names (cs ++ more) := by
  induction more generalizing s cs with
  | nil =>
    rw [List.append_nil]
    exact h
  | cons c more ih =>
    rw [List.append_cons]
    refine @ih ⟨s.caseSensitive, s.rules, union s.tags c.tags, union s.paths c.fieldPaths⟩ (cs ++ [c]) ?_
    constructor
    · exact Parser.nodup_foldl_remember h.nodup_tags _
    · exact Parser.nodup_foldl_remember h.nodup_paths _
    · intro n
      simp [union, Parser.mem_foldl_remember, h.mem_tags, or_and_right, exists_or]
    · intro p
      simp [union, Parser.mem_foldl_remember, h.mem_paths, or_and_right, exists_or]

/-- The same for the expressions of some rules. -/
lemma Names.refer_all (h : s.Names cs) (rules : List (String × List Compiled)) :
    (rules.foldl (fun s r => s.refer r.2) s).Names (cs ++ rules.flatMap (·.2)) := by
  induction rules generalizing s cs with
  | nil => simpa using h
  | cons r rules ih => simpa using ih (h.refer r.2)

lemma isNamed_empty (caseSensitive : Bool) : (empty caseSensitive).IsNamed := names_nil caseSensitive []

theorem IsNamed.insert (h : s.IsNamed) (rule : String × List Compiled) : (s.insert rule).IsNamed := by
  -- The names do not depend on where the expressions stand.
  have hn : Names { s with rules := Entries.extend s.rules rule.1 rule.2 } s.expressions :=
    ⟨h.nodup_tags, h.nodup_paths, h.mem_tags, h.mem_paths⟩
  refine (hn.refer rule.2).congr fun c => ?_
  unfold expressions RuleStore.insert
  rw [rules_refer, Entries.mem_flatMap_extend]

lemma IsNamed.foldl_insert (h : s.IsNamed) (rules : List (String × List Compiled)) :
    (rules.foldl RuleStore.insert s).IsNamed := by
  induction rules generalizing s with
  | nil => exact h
  | cons rule rules ih => exact ih (h.insert rule)

theorem IsNamed.addRules (h : s.IsNamed) {batch : List (String × Value)}
    (hp : s.perform (.addRules batch) = .ok s') : s'.IsNamed := by
  obtain ⟨rules, -, rfl⟩ := inserted_of_perform hp
  exact h.foldl_insert rules

/-- After a removal nothing is known but what the rules that are left refer to. -/
theorem isNamed_of_removeRule {name : String} (hr : s.removeRule name = .ok s') : s'.IsNamed := by
  unfold RuleStore.removeRule at hr
  split at hr
  next =>
    cases hr
    rw [IsNamed, expressions, (RuleStore.refer_all _ _).1]
    exact (names_nil s.caseSensitive (Entries.erase s.rules name)).refer_all _
  next => cases hr

/-- A call keeps the names in step with the rules. -/
theorem IsNamed.perform (h : s.IsNamed) {c : RuleCall} (hp : s.perform c = .ok s') : s'.IsNamed := by
  cases c with
  | addRule name expressions =>
    have hb : s.perform (.addRules [(name, expressions)]) = .ok s' := hp
    exact h.addRules hb
  | addRules batch => exact h.addRules hp
  | removeRule name => exact isNamed_of_removeRule (ok_of_mapError hp)

/-- A source of a registered rule, parsed anew, has the reference. -/
def Mentions (s : RuleStore) (r : Reference) : Prop :=
  ∃ name ∈ s.ruleNames, ∃ sources, s.rule? name = .ok sources ∧
    ∃ source ∈ sources, ∃ e, parse source s.caseSensitive = .ok e ∧ r ∈ e.references

end RuleStore

/-- What was recorded of an expression when it was compiled are its references. -/
lemma Compiled.IsFaithful.mem_names {caseSensitive : Bool} {c : Compiled} (h : c.IsFaithful caseSensitive) :
    (∀ n, n ∈ c.tags ↔ n ∈ c.expr.names) ∧ ∀ p, p ∈ c.fieldPaths ↔ p ∈ c.expr.scopes := by
  have hp : parse c.source caseSensitive = .ok c.expr := (ofSource_ok h).2.1
  obtain ⟨p, hr, hm, -⟩ := (parse_eq_ok_iff.1 hp).parse
  unfold IsFaithful ofSource at h
  rw [hr] at h
  have hc := Except.ok.inj h
  have ht : c.tags = p.memory.tags := (congrArg tags hc).symm
  have hf : c.fieldPaths = p.memory.fieldPaths := (congrArg fieldPaths hc).symm
  simp [ht, hf, hm, Parser.Memory.tags_collect, Parser.Memory.fieldPaths_collect, Parser.mem_foldl_remember]

namespace RuleStore

variable {s : RuleStore}

lemma IsCompiled.mentions_iff (h : s.IsCompiled) {r : Reference} :
    s.Mentions r ↔ ∃ c ∈ s.expressions, r ∈ c.expr.references := by
  constructor
  · rintro ⟨name, -, sources, hs, source, hm, e, he, hr⟩
    unfold rule? at hs
    split at hs
    next cs hg =>
      cases hs
      obtain ⟨c, hc, rfl⟩ := List.mem_map.1 hm
      have hmem : (name, cs) ∈ s.rules := Entries.mem_of_get? hg
      have hp : parse c.source s.caseSensitive = .ok c.expr := (Compiled.ofSource_ok (h.faithful hmem c hc)).2.1
      rw [hp] at he
      cases he
      exact ⟨c, List.mem_flatMap.2 ⟨_, hmem, hc⟩, hr⟩
    next => cases hs
  · rintro ⟨c, hc, hr⟩
    obtain ⟨⟨name, cs⟩, hmem, hc⟩ := List.mem_flatMap.1 hc
    have hs : s.rule? name = .ok (cs.map (·.source)) := by rw [rule?, Entries.get?_of_mem h.distinct hmem]
    exact ⟨name, List.mem_map_of_mem hmem, _, hs, c.source, List.mem_map_of_mem hc, c.expr,
      (Compiled.ofSource_ok (h.faithful hmem c hc)).2.1, hr⟩

lemma IsCompiled.faithful_of_mem (h : s.IsCompiled) {c : Compiled} (hc : c ∈ s.expressions) :
    c.IsFaithful s.caseSensitive := by
  obtain ⟨rule, hr, hc⟩ := List.mem_flatMap.1 hc
  exact h.faithful hr c hc

lemma mem_sorted {names : List String} {n : String} : n ∈ sorted names ↔ n ∈ names := List.mem_mergeSort

/-- Names that are each there once are strictly increasing when they are sorted. -/
lemma pairwise_sorted {names : List String} (h : names.Nodup) : (sorted names).Pairwise (· < ·) := by
  have hle : (sorted names).Pairwise (· ≤ ·) := by
    simpa [sorted] using @List.pairwise_mergeSort String (fun a b => decide (a ≤ b))
      (fun a b c hab hbc => by simpa using le_trans (by simpa using hab) (by simpa using hbc))
      (fun a b => by simpa using le_total a b) names
  have hn : (sorted names).Nodup := (List.mergeSort_perm names _).nodup_iff.2 h
  exact hle.imp₂ (fun _ _ hab hne => lt_of_le_of_ne hab hne) hn

end RuleStore
namespace Engine

/-- After any calls on a new engine, whether they are taken as writes or as giving a new store, the names it shows are
those that the sources of its rules refer to when they are parsed anew: the tags, and the scopes that are not empty,
both strictly increasing. -/
theorem shown_names_after (tagger : Option Tagger) (caseSensitive : Bool) (calls : List RuleCall) :
    let s := ((new tagger caseSensitive).after calls).store
    (RuleStore.empty caseSensitive).written calls = s ∧ s.caseSensitive = caseSensitive ∧
    s.tagNames.Pairwise (· < ·) ∧ s.fieldPaths.Pairwise (· < ·) ∧
    (∀ n, n ∈ s.tagNames ↔ ∃ r, s.Mentions r ∧ r.name = n) ∧
    ∀ p, p ∈ s.fieldPaths ↔ p ≠ "" ∧ ∃ r, s.Mentions r ∧ r.scope = p := by
  intro s
  have hg : ((new tagger caseSensitive).after calls).Reached tagger caseSensitive :=
    (reached_new tagger caseSensitive).after calls
  have hc : s.IsCompiled := hg.compiled
  have hn : s.IsNamed := store_after (fun h hp => h.perform hp) (RuleStore.isNamed_empty caseSensitive) calls
  have hw : (RuleStore.empty caseSensitive).written calls = s := written_eq (new tagger caseSensitive) calls
  refine ⟨hw, hg.case_eq, RuleStore.pairwise_sorted hn.nodup_tags, RuleStore.pairwise_sorted hn.nodup_paths,
    fun n => ?_, fun p => ?_⟩
  · rw [RuleStore.tagNames, RuleStore.mem_sorted, hn.mem_tags]
    constructor
    · rintro ⟨c, hm, ht⟩
      obtain ⟨r, hr, rfl⟩ := List.mem_map.1 (((hc.faithful_of_mem hm).mem_names.1 n).1 ht)
      exact ⟨r, hc.mentions_iff.2 ⟨c, hm, hr⟩, rfl⟩
    · rintro ⟨r, hr, rfl⟩
      obtain ⟨c, hm, hr⟩ := hc.mentions_iff.1 hr
      exact ⟨c, hm, ((hc.faithful_of_mem hm).mem_names.1 _).2 (List.mem_map_of_mem hr)⟩
  · rw [RuleStore.fieldPaths, RuleStore.mem_sorted, hn.mem_paths]
    constructor
    · rintro ⟨c, hm, hp⟩
      obtain ⟨hne, r, hr, rfl⟩ := Expr.mem_scopes.1 (((hc.faithful_of_mem hm).mem_names.2 p).1 hp)
      exact ⟨hne, r, hc.mentions_iff.2 ⟨c, hm, hr⟩, rfl⟩
    · rintro ⟨hne, r, hr, rfl⟩
      obtain ⟨c, hm, hr⟩ := hc.mentions_iff.1 hr
      exact ⟨c, hm, ((hc.faithful_of_mem hm).mem_names.2 _).2 (Expr.mem_scopes.2 ⟨hne, r, hr, rfl⟩)⟩

end Engine
end TagRules
