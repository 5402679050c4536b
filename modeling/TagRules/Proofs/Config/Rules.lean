import TagRules.Proofs.Engine.Process
import TagRules.Proofs.Rule.Log

/-!
The rules of a configuration against what is written in it. Names are taken as texts, so two keys may give one name;
of the rules of one name only the last is kept, and the engine has exactly the rules that are kept.
-/
namespace TagRules

namespace Value

/-- The expressions that the value of a rule lists; a text is one. -/
def expressions (given : Value) : List String :=
  match given.untied with
  | .text s => [s]
  | .list xs => xs.filterMap text?
  | _ => []

lemma texts_list (sources : List String) : texts (.list (sources.map .text)) = sources := by
  simp [texts, items, untied, List.filterMap_map, Function.comp_def, text?]

/-- The value of a key in a mapping, or what stands for a key that is not there. -/
def entry (v : Value) (key : String) (missing : Value) : Value :=
  (Entries.get? (v.entries?.getD []) (.text key)).getD missing

/-- The same with what counts as not given passed over. -/
def part (v : Value) (key : String) (missing : Value) : Value := (v.entry key .null).orElse missing

lemma part_of_entries {v : Value} {es : List (Value × Value)} (h : v.entries? = some es) (key : String)
    (missing : Value) : v.part key missing = ((Entries.get? es (.text key)).getD .null).orElse missing := by
  rw [part, entry, h]
  rfl

end Value
namespace Config

/-- A configuration is read part by part. -/
theorem ofValue_eq (v : Value) : ofValue v =
    match v.entries?, (v.part "settings" (.map [])).entries? with
    | none, _ => .error .notMap
    | some _, none => .error .settingsNotMap
    | some _, some settings => do
      let rules ← readRules (v.part "rules" (.map []))
      let declared ← (v.part "extractors" (.list [])).items.mapError .mismatch
      let definitions ← (declared.mapM ExtractorDefinition.ofValue).mapError .definition
      let included ← readPaths settings "includePaths"
      let excluded ← readPaths settings "excludePaths"
      return ⟨rules, definitions, ((Entries.get? settings (.text "caseSensitive")).getD .null).isTruthy, included,
        excluded⟩ := by
  cases he : v.entries? with
  | none =>
    simp only [ofValue, he]
    rfl
  | some entries =>
    simp only [ofValue, he, Value.part_of_entries he]
    cases (((Entries.get? entries (.text "settings")).getD .null).orElse (.map [])).entries? <;> rfl

/-- The rules and definitions of a configuration are those of its parts. -/
lemma parts_of_ofValue {v : Value} {c : Config} (h : ofValue v = .ok c) :
    readRules (v.part "rules" (.map [])) = .ok c.rules ∧
    ∃ ds, (v.part "extractors" (.list [])).items = .ok ds ∧
      ds.mapM ExtractorDefinition.ofValue = .ok c.definitions := by
  rw [ofValue_eq] at h
  split at h
  next => cases h
  next => cases h
  next =>
    obtain ⟨rules, hr, h⟩ := ok_of_bind h
    obtain ⟨ds, hds, h⟩ := ok_of_bind h
    obtain ⟨definitions, hd, h⟩ := ok_of_bind h
    obtain ⟨included, -, h⟩ := ok_of_bind h
    obtain ⟨excluded, -, h⟩ := ok_of_bind h
    cases h
    exact ⟨hr, ds, ok_of_mapError hds, ok_of_mapError hd⟩

/-- The rules as they are written: each name as a text, with its expressions. -/
def writtenRules (v : Value) : List (String × List String) :=
  ((v.part "rules" (.map [])).entries?.getD []).map fun (name, given) => (name.shown, given.expressions)

lemma readRule_ok {name given : Value} {sources : List String} (h : readRule name given = .ok sources) :
    sources = given.expressions := by
  unfold readRule at h
  split at h
  next s hg =>
    cases h
    rw [Value.expressions, hg]
  next xs hg =>
    split at h
    next hm =>
      cases h
      rw [Value.expressions, hg]
      exact (filterMap_of_mapM_some hm).symm
    next => cases h
  next => cases h

lemma readRules_ok {v : Value} {rules : List (String × List String)} (h : readRules v = .ok rules) :
    rules = Entries.ofList ((v.entries?.getD []).map fun (name, given) => (name.shown, given.expressions)) := by
  unfold readRules at h
  split at h
  next es he =>
    obtain ⟨rows, hr, h⟩ := ok_of_bind h
    cases h
    have hrows : rows.map id = es.map fun e => (e.1.shown, e.2.expressions) := by
      refine map_eq_of_mapM_ok (fun e row hrow => ?_) hr
      obtain ⟨name, hn, hrow⟩ := ok_of_bind hrow
      obtain ⟨sources, hs, hrow⟩ := ok_of_bind hrow
      cases hrow
      unfold textOf at hn
      split at hn <;> cases hn
      rw [id, readRule_ok hs]
    rw [List.map_id] at hrows
    rw [hrows, he]
    rfl
  next => cases h

lemma rules_of_ofValue {v : Value} {c : Config} (h : ofValue v = .ok c) :
    c.rules = Entries.ofList (writtenRules v) := readRules_ok (parts_of_ofValue h).1

end Config
namespace RuleStore

/-- Rules of new names are entered as they are. -/
lemma rules_foldl_insert {s : RuleStore} {rules : List (String × List Compiled)}
    (h : Entries.Apart (s.rules ++ rules)) : (rules.foldl insert s).rules = s.rules ++ rules := by
  induction rules generalizing s with
  | nil => simp
  | cons rule rules ih =>
    rw [List.append_cons] at h ⊢
    have hs : Entries.Apart (s.rules ++ [rule]) := h.of_append
    have hr : (s.insert rule).rules = s.rules ++ [rule] := by
      rw [insert, rules_refer, Entries.extend, Entries.update_of_not_contains hs.not_contains]
      rfl
    rw [List.foldl_cons, ih (hr ▸ h), hr]

lemma IsCompiled.shown_eq {s : RuleStore} (h : s.IsCompiled) :
    (s.ruleNames.map fun name => (name, s.rule? name)) =
      s.rules.map fun rule => (rule.1, .ok (rule.2.map (·.source))) := by
  rw [ruleNames, List.map_map]
  refine List.map_congr_left fun rule hm => ?_
  rw [Function.comp_apply, rule?, Entries.get?_of_mem h.distinct hm]

lemma IsCompiled.flatMap_sourcesOf {s : RuleStore} (h : s.IsCompiled) :
    s.ruleNames.flatMap s.sourcesOf = s.rules.flatMap fun rule => rule.2.map (·.source) := by
  rw [ruleNames, List.flatMap_map]
  exact List.flatMap_congr fun rule hm => h.sourcesOf_eq hm

end RuleStore
namespace Engine

/-- The rules of an engine are those of its configuration. -/
lemma rules_ofConfig {c : Config} (hd : Entries.Apart c.rules) {r : Registry} {l : PatternLanguage}
    {caseSensitive : Option Bool} {g : Engine} {notes : List Note} (h : ofConfig c r l caseSensitive = .ok (g, notes)) :
    g.store.IsCompiled ∧ g.store.rules.map (fun rule => (rule.1, rule.2.map (·.source))) = c.rules := by
  obtain ⟨tagger, -, h⟩ := ok_of_bind h
  have ha := ok_of_mapError h
  refine ⟨((reached_new _ _).addRules ha).compiled, ?_⟩
  obtain ⟨rules, hr, hs⟩ := ok_of_bind (addRules_ok ha).2
  have hrules : rules.map (fun rule => (rule.1, rule.2.map (·.source))) = c.rules := by
    rw [List.mapM_map] at hr
    refine (map_eq_of_mapM_ok (fun entry rule hc => ?_) hr).trans (List.map_id _)
    have he := RuleStore.compileRule_sources hc
    rw [Value.texts_list] at he
    obtain ⟨hn, hsources⟩ := RuleEvent.added.inj he
    exact Prod.ext hn hsources
  have hapart : Entries.Apart ((RuleStore.empty (caseSensitive.getD c.caseSensitive)).rules ++ rules) := by
    have hk : rules.map (·.1) = c.rules.map (·.1) := by
      rw [← hrules, List.map_map]
      rfl
    unfold Entries.Apart at hd ⊢
    rw [← hk] at hd
    exact hd
  have hg : rules.foldl RuleStore.insert (.empty (caseSensitive.getD c.caseSensitive)) = g.store :=
    congrArg Prod.fst (Except.ok.inj hs)
  rw [← hg, RuleStore.rules_foldl_insert hapart]
  exact hrules

end Engine
namespace Config

/-- The rules of a configuration are those that are written, but of the rules of one name only the last: the names stand
where they come up first, and under each name the expressions of its earlier rules are lost. Where the names differ
nothing is lost. An engine that is built of the configuration has these rules, and is short of the expressions written
by those of the rules that are overwritten. -/
theorem last_rules_kept {v : Value} {c : Config} (h : ofValue v = .ok c) :
    let written := writtenRules v
    let lost := Entries.overwritten written
    c.rules.map (·.1) = (written.map (·.1)).eraseDups ∧
    (∀ name, Entries.under written name = Entries.under lost name ++ (Entries.get? c.rules name).getD []) ∧
    ((written.map (·.1)).Nodup → c.rules = written) ∧
    ∀ (r : Registry) (l : PatternLanguage) (caseSensitive : Option Bool) (g : Engine) (notes : List Note),
      Engine.ofConfig c r l caseSensitive = .ok (g, notes) →
      (g.store.ruleNames.map fun name => (name, g.store.rule? name)) = c.rules.map (fun rule => (rule.1, .ok rule.2)) ∧
      (g.store.ruleNames.flatMap g.store.sourcesOf).length + (lost.flatMap (·.2)).length =
        (written.flatMap (·.2)).length := by
  intro written lost
  have hc : c.rules = Entries.ofList written := rules_of_ofValue h
  have hd : Entries.Apart c.rules := hc ▸ Entries.apart_ofList written
  refine ⟨?_, fun name => ?_, fun hn => ?_, fun r l caseSensitive g notes hg => ?_⟩
  · rw [hc, Entries.keys_ofList]
  · rw [hc, Entries.get?_ofList]
    exact Entries.under_eq written name
  · rw [hc]
    exact Entries.ofList_of_apart (Entries.apart_iff_nodup.2 hn)
  · obtain ⟨hs, hrules⟩ := Engine.rules_ofConfig hd hg
    constructor
    · rw [hs.shown_eq, ← hrules, List.map_map]
      rfl
    · have hsources : g.store.ruleNames.flatMap g.store.sourcesOf = c.rules.flatMap (·.2) := by
        rw [hs.flatMap_sourcesOf, ← hrules, List.flatMap_map]
      have hp : (c.rules ++ lost).Perm written := by
        rw [hc]
        exact ((Entries.ofList_perm_lasting written).append_right lost).trans
          (Entries.lasting_append_overwritten_perm written)
      rw [hsources, ← List.length_append, ← List.flatMap_append]
      exact (hp.flatMap_right _).length_eq

/-- Rules under a truth value and under a text that is not its name. -/
def rulesApart : Value :=
  .map [(.text "rules", .map [(.bool true, .text "\"a\""), (.text "two", .list [.text "\"b\"", .text "\"c\""])])]

theorem last_rules_kept_apart : ∃ c g notes, ofValue rulesApart = .ok c ∧
    Engine.ofConfig c [] .search none = .ok (g, notes) ∧ ((writtenRules rulesApart).map (·.1)).Nodup ∧
    c.rules = [("True", ["\"a\""]), ("two", ["\"b\"", "\"c\""])] ∧
    (g.store.ruleNames.flatMap g.store.sourcesOf).length = 3 := by
  let c : Config := ⟨[("True", ["\"a\""]), ("two", ["\"b\"", "\"c\""])], [], false, [], []⟩
  have h : ofValue rulesApart = .ok c := rfl
  have hn : ((writtenRules rulesApart).map (·.1)).Nodup := by decide
  obtain ⟨⟨g, notes⟩, hg⟩ : ∃ x, Engine.ofConfig c [] .search none = .ok x := exists_of_isOk (by decide +kernel)
  obtain ⟨-, -, hr, hb⟩ := last_rules_kept h
  exact ⟨c, g, notes, h, hg, hn, hr hn, (hb [] .search none g notes hg).2⟩

/-- Rules under a truth value and under the text of its name. -/
def rulesOfOneName : Value :=
  .map [(.text "rules", .map [(.bool true, .list [.text "\"a\""]), (.text "True", .list [.text "\"b\""])])]

/-- Two expressions are written under one name, and the engine has one of them. -/
theorem expression_lost_of_one_name : ∃ c, ofValue rulesOfOneName = .ok c ∧
    Entries.under (writtenRules rulesOfOneName) "True" = ["\"a\"", "\"b\""] ∧ c.rules = [("True", ["\"b\""])] ∧
    (Engine.ofConfig c [] .search none).toOption.map (fun x => x.1.store.ruleNames.flatMap x.1.store.sourcesOf) =
      some ["\"b\""] :=
  ⟨_, rfl, by decide, rfl, by decide +kernel⟩

end Config
end TagRules
