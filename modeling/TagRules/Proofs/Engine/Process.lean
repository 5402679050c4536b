import TagRules.Extractor.Range
import TagRules.Proofs.Engine.Reachable
import TagRules.Proofs.Evaluation.Linear
import TagRules.Proofs.Field.Index
import TagRules.Proofs.Grammar.Sentence

/-!
What processing data means. The rules that match are the registered ones in their order, each with those of its
sources whose trees are true when a reference is true if a tagged field reports it.
-/
namespace TagRules

/-- A source text is true when its tree is, given which references are met. -/
def sourceHolds (caseSensitive : Bool) (met : Reference → Bool) (source : String) : Bool :=
  match parse source caseSensitive with
  | .ok e => e.truth met
  | .error _ => false

lemma sourceHolds_of_parse {source : String} {caseSensitive : Bool} {e : Expr}
    (h : parse source caseSensitive = .ok e) (met : Reference → Bool) :
    sourceHolds caseSensitive met source = e.truth met := by
  rw [sourceHolds, h]

namespace RuleStore

/-- Both ways of evaluating a compiled expression give the truth of its source. -/
theorem holds_eq {caseSensitive : Bool} {c : Compiled} (h : c.IsFaithful caseSensitive) (m : Method)
    (evidence : Evidence) : holds m evidence c = .ok (sourceHolds caseSensitive evidence.meets c.source) := by
  obtain ⟨-, hp, ho⟩ := Compiled.ofSource_ok h
  have hp' : parse c.source caseSensitive = .ok c.expr := hp
  obtain ⟨ts, -, hd⟩ := parse_eq_ok_iff.1 hp'
  have he : c.expr.isComplete = true := hd.isComplete
  rw [sourceHolds, hp']
  cases m with
  | order => rw [holds, ho, SolveOrder.solve_ofExpr he]
  | recursion => rw [holds, Expr.evaluate_of_isComplete evidence he]

lemma matching_eq {caseSensitive : Bool} {cs : List Compiled} (h : ∀ c ∈ cs, c.IsFaithful caseSensitive) (m : Method)
    (evidence : Evidence) : matching m evidence cs =
      .ok ((cs.map (·.source)).filter (sourceHolds caseSensitive evidence.meets)) := by
  induction cs with
  | nil => rfl
  | cons c cs ih =>
    rw [matching, holds_eq (h c List.mem_cons_self), ih fun c' hc => h c' (List.mem_cons_of_mem _ hc),
      List.map_cons, List.filter_cons]
    rfl

/-- The sources of a rule, none if it is not registered. -/
def sourcesOf (s : RuleStore) (name : String) : List String :=
  match s.rule? name with
  | .ok sources => sources
  | .error _ => []

/-- The registered rules in order, each with its sources that hold, without those that have none. -/
def trueRules (s : RuleStore) (met : Reference → Bool) : List (String × List String) :=
  (s.ruleNames.map fun name => (name, (s.sourcesOf name).filter (sourceHolds s.caseSensitive met))).filter
    fun (_, sources) => !sources.isEmpty

/-- A rule is among them as soon as one of its sources holds. -/
lemma exists_row_of_holds {s : RuleStore} {met : Reference → Bool} {rule source : String} {sources : List String}
    (hr : s.rule? rule = .ok sources) (hs : source ∈ sources) (hm : sourceHolds s.caseSensitive met source = true) :
    ∃ row ∈ s.trueRules met, row.1 = rule ∧ source ∈ row.2 := by
  have hsources : s.sourcesOf rule = sources := by rw [sourcesOf, hr]
  have hname : rule ∈ s.ruleNames := by
    unfold rule? at hr
    split at hr
    next cs hg => exact List.mem_map_of_mem (Entries.mem_of_get? hg)
    next => cases hr
  have hf : source ∈ sources.filter (sourceHolds s.caseSensitive met) := List.mem_filter.2 ⟨hs, hm⟩
  refine ⟨(rule, sources.filter (sourceHolds s.caseSensitive met)), List.mem_filter.2 ⟨?_, ?_⟩, rfl, hf⟩
  · rw [← hsources]
    exact List.mem_map_of_mem hname
  · simpa using List.ne_nil_of_mem hf

lemma IsCompiled.sourcesOf_eq {s : RuleStore} (h : s.IsCompiled) {name : String} {cs : List Compiled}
    (hm : (name, cs) ∈ s.rules) : s.sourcesOf name = cs.map (·.source) := by
  rw [sourcesOf, rule?, Entries.get?_of_mem h.distinct hm]

lemma IsCompiled.exists_parse {s : RuleStore} (h : s.IsCompiled) {name source : String}
    (hs : source ∈ s.sourcesOf name) : ∃ e, parse source s.caseSensitive = .ok e := by
  unfold sourcesOf rule? at hs
  cases hg : Entries.get? s.rules name with
  | none => simp [hg] at hs
  | some cs =>
    simp only [hg, List.mem_map] at hs
    obtain ⟨c, hc, rfl⟩ := hs
    exact ⟨c.expr, (Compiled.ofSource_ok (h.faithful (Entries.mem_of_get? hg) c hc)).2.1⟩

theorem IsCompiled.evaluate_eq {s : RuleStore} (h : s.IsCompiled) (m : Method) (evidence : Evidence) :
    s.evaluate m evidence = .ok (s.trueRules evidence.meets) := by
  have hrow : ∀ rule ∈ s.rules, (do return (rule.1, ← matching m evidence rule.2)) = Except.ok (rule.1,
      (s.sourcesOf rule.1).filter (sourceHolds s.caseSensitive evidence.meets)) := by
    intro rule hm
    rw [matching_eq (h.faithful hm), h.sourcesOf_eq hm]
    rfl
  rw [evaluate, mapM_eq_ok hrow, trueRules, ruleNames, List.map_map]
  rfl

end RuleStore
namespace Engine

/-- After any calls, processing gives the rules that are true when a reference is if a tagged field reports it. No
name is listed twice, and every source has a tree to be true or false. -/
theorem process_after {t : Tagger} {data : Value} {s : Selection} {fields : List Field}
    (h : (t.tagObject data s).1 = .ok fields) (caseSensitive : Bool) (calls : List RuleCall) :
    let g := (new (some t) caseSensitive).after calls
    g.process data s = .ok (g.store.trueRules fun r => fields.any (·.reports r)) ∧ g.store.ruleNames.Nodup ∧
      ∀ name, ∀ source ∈ g.store.sourcesOf name, ∃ e, parse source g.store.caseSensitive = .ok e := by
  intro g
  have hg : g.Reached (some t) caseSensitive := (reached_new (some t) caseSensitive).after calls
  refine ⟨?_, hg.compiled.distinct, fun name source => hg.compiled.exists_parse⟩
  have htag : (g.tag data s).1 = .ok fields := by
    simp [tag, requireTagger, hg.tagger_eq, h, Except.mapError]
  have hmeets : (TagIndex.evidence (Field.index fields)).meets = fun r => fields.any (·.reports r) :=
    funext (Field.meets_index fields)
  -- From here on the fields are seen through their index only.
  rw [process, htag, ← hmeets]
  simp only [matchFields, Engine.evaluate]
  change Except.mapError _ _ = _
  rw [hg.compiled.evaluate_eq]
  rfl

/-- Reports whole numbers of one digit. -/
def digitExtractor : Extractor :=
  RangeTagger.extractor ⟨[(.text "digit", ⟨some (.int 0), some (.int 9)⟩)]⟩ (.text "digits")

/-- The second operand makes one text true and another false. -/
theorem process_after_digits :
    let t := Tagger.empty.add digitExtractor .int
    let data := Value.map [(.text "a", .int 7), (.text "b", .list [.int 12])]
    let g := (new (some t) false).after [
      .addRules [("low", .list [.text "\"digit:a\"", .text "\"digit:b\""]), ("none", .list [.text "not \"digit\""])],
      .removeRule "unknown",
      .addRule "low" (.list [.text "\"digit:b\" OR \"digit:a\"", .text "\"digit\" AND \"digit:b\""])]
    (t.tagObject data .everything).1 = .ok [⟨"a", [(.text "digits", ⟨[.text "digit"], .null⟩)]⟩,
      ⟨"b.index(0)", [(.text "digits", ⟨[], .null⟩)]⟩] ∧
    g.process data .everything = .ok [("low", ["\"digit:a\"", "\"digit:b\" OR \"digit:a\""])] := by
  intro t data g
  have h : (t.tagObject data .everything).1 = .ok [⟨"a", [(.text "digits", ⟨[.text "digit"], .null⟩)]⟩,
      ⟨"b.index(0)", [(.text "digits", ⟨[], .null⟩)]⟩] := rfl
  exact ⟨h, (process_after h false _).1.trans (congrArg Except.ok (by decide +kernel))⟩

end Engine
end TagRules
