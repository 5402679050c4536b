import TagRules.Proofs.Engine.Scope
import TagRules.Proofs.Token.Encoded

/-!
From a tagged field back to a rule. The name of a tag and the path of a field can be written between quotes, the tag
with a backslash before what ends it, the path before what ends the literal; the text is parsed as the reference to that
tag under that path. A rule that holds the text alone matches the data that the field is from, and no other data but
where a field under the path has the tag.
-/
namespace TagRules

/-- The literal of a tag under a path. -/
def Reference.address (r : Reference) : String :=
  "\"" ++ escaped r.name ++ ":" ++ backslashed isSpecialInPath r.scope ++ "\""

lemma writes_backslashed (special : Char → Bool) (s : String) :
    Literal.Writes special s.toList (backslashed special s).toList := by
  rw [backslashed, String.toList_ofList]
  induction s.toList with
  | nil => exact .nil
  | cons c cs ih =>
    rw [List.flatMap_cons]
    by_cases hc : special c
    · rw [if_pos hc]
      exact .escaped c ih
    · rw [if_neg hc]
      exact .plain (by simpa using hc) ih

/-- A literal is parsed as what it is written for. -/
theorem parse_encoded {name inner : List Char} {path : Option (Nat × List Char)} (h : Literal.Encodes name path inner)
    (hn : name ≠ []) (hp : ∀ p ∈ path, [] ∉ p.2.splitOn '.') {source : String}
    (hsource : source.toList = '"' :: (inner ++ ['"'])) (caseSensitive : Bool) :
    parse source caseSensitive = .ok (.unit ⟨.ofList name, (path.map fun p => .ofList p.2).getD ""⟩) := by
  refine parse_eq_ok_iff.2 ⟨_, tokenize_encoded h hn hp hsource caseSensitive, ?_⟩
  cases path with
  | none => exact .operand (.literal (.anywhere rfl))
  | some p => exact .operand (.literal (.under rfl rfl))

lemma parse_address {r : Reference} (hn : r.name ≠ "") (hp : [] ∉ r.scope.toList.splitOn '.') (caseSensitive : Bool) :
    parse r.address caseSensitive = .ok (.unit r) := by
  have hname : Literal.Writes isSpecial r.name.toList (escaped r.name).toList := writes_backslashed isSpecial r.name
  have he := Literal.Encodes.under hname (writes_backslashed isSpecialInPath r.scope)
  have hs : r.address.toList =
      '"' :: ((escaped r.name).toList ++ ':' :: (backslashed isSpecialInPath r.scope).toList ++ ['"']) := by
    simp [Reference.address]
  have hr := parse_encoded he (by simpa using hn) (by simpa using hp) hs caseSensitive
  simpa using hr

lemma Compiled.exists_ofSource {source : String} {caseSensitive : Bool} {e : Expr}
    (h : parse source caseSensitive = .ok e) : ∃ c, ofSource caseSensitive source = .ok c := by
  rw [parse] at h
  unfold ofSource
  split
  next hx =>
    rw [hx] at h
    cases h
  next => exact ⟨_, rfl⟩

lemma RuleStore.compileRule_text {source : String} {caseSensitive : Bool} {c : Compiled} (rule : String)
    (h : Compiled.ofSource caseSensitive source = .ok c) :
    compileRule caseSensitive rule (.list [.text source]) = .ok (rule, [c]) := by
  have hs : sources rule (.list [.text source]) = .ok [source] := sources_texts rule [source]
  unfold compileRule
  rw [hs]
  change (([source].mapM (Compiled.ofSource caseSensitive)).mapError RuleError.source >>= _) = _
  rw [List.mapM_cons, h]
  rfl

namespace Engine

/-- An engine has one rule, and this has one expression. -/
structure HasOnly (g : Engine) (rule source : String) : Prop where
  names_eq : g.store.ruleNames = [rule]
  sources_eq : g.store.rule? rule = .ok [source]

variable {g : Engine} {t : Tagger} {tagger : Option Tagger} {rule source : String} {caseSensitive : Bool}

/-- Any source that can be parsed can be the only one of an engine. -/
lemma hasOnly_addRule {e : Expr} (h : parse source caseSensitive = .ok e) (tagger : Option Tagger) (rule : String) :
    ((new tagger caseSensitive).after [.addRule rule (.list [.text source])]).HasOnly rule source := by
  obtain ⟨c, hc⟩ := Compiled.exists_ofSource h
  have hs : c.source = source := (Compiled.ofSource_ok hc).1
  have hperform : (new tagger caseSensitive).store.perform (.addRule rule (.list [.text source])) =
      .ok ((RuleStore.empty caseSensitive).insert (rule, [c])) := by
    have hr := RuleStore.compileRule_text rule hc
    rw [RuleStore.perform_addRule]
    exact congrArg (fun x => (x.map (RuleStore.empty caseSensitive).insert).mapError CallError.rule) hr
  have hstore : ((new tagger caseSensitive).after [.addRule rule (.list [.text source])]).store =
      (RuleStore.empty caseSensitive).insert (rule, [c]) := by
    have hcall := store_call (new tagger caseSensitive) (.addRule rule (.list [.text source]))
    rw [hperform] at hcall
    exact hcall
  have hf := (RuleStore.follows_empty caseSensitive).insert (rule, [c])
  rw [← hstore] at hf
  constructor
  · rw [hf.names_eq]
    rfl
  · rw [hf.rule_eq, RuleLog.rule?_added, if_pos rfl, ← hs]
    rfl

/-- The only rule is true where the reference is that its source is parsed as. -/
lemma HasOnly.trueRules_eq (h : g.HasOnly rule source) {r : Reference}
    (hp : parse source g.store.caseSensitive = .ok (.unit r)) (met : Reference → Bool) :
    g.store.trueRules met = if met r then [(rule, [source])] else [] := by
  have hs : g.store.sourcesOf rule = [source] := by rw [RuleStore.sourcesOf, h.sources_eq]
  have hm : sourceHolds g.store.caseSensitive met source = met r := sourceHolds_of_parse hp met
  rw [RuleStore.trueRules, h.names_eq]
  cases hr : met r <;> simp [hs, hm, hr]

lemma HasOnly.process_eq (h : g.HasOnly rule source) (hg : g.Reached (some t) caseSensitive) {r : Reference}
    (hp : parse source caseSensitive = .ok (.unit r)) {data : Value} {s : Selection} {fields : List Field}
    (hf : (t.tagObject data s).1 = .ok fields) :
    g.process data s = .ok (if fields.any (·.reports r) then [(rule, [source])] else []) := by
  rw [← hg.case_eq] at hp
  rw [process_of_tagObject hg.tagger_eq hg.compiled hf, h.trueRules_eq hp]

/-- The rule matches some data when a field of it reports the reference. -/
lemma HasOnly.mem_process_iff (h : g.HasOnly rule source) (hg : g.Reached (some t) caseSensitive) {r : Reference}
    (hp : parse source caseSensitive = .ok (.unit r)) {data : Value} {s : Selection} {m : Matches}
    (hm : g.process data s = .ok m) : rule ∈ m.map (·.1) ↔
      ∃ fields, (t.tagObject data s).1 = .ok fields ∧ ∃ f ∈ fields, f.reports r := by
  obtain ⟨t', fields, ht, hf⟩ := exists_of_process_ok hm
  obtain rfl : t = t' := Option.some.inj (hg.tagger_eq.symm.trans ht)
  rw [h.process_eq hg hp hf] at hm
  obtain rfl := Except.ok.inj hm
  have hreports : (∃ fields', (t.tagObject data s).1 = .ok fields' ∧ ∃ f ∈ fields', f.reports r) ↔
      fields.any (·.reports r) = true := by
    rw [hf]
    simp
  rw [hreports]
  cases fields.any (·.reports r) <;> simp

/-- No rule whose source has a scope matches a plain text. -/
lemma HasOnly.processText_eq (h : g.HasOnly rule source) (hg : g.Reached (some t) caseSensitive) {r : Reference}
    (hp : parse source caseSensitive = .ok (.unit r)) (hr : r.scope ≠ "") {text : String} {m : Matches}
    (hm : g.processText text = .ok m) : m = [] := by
  rw [Engine.processText_eq hg.tagger_eq hg.compiled] at hm
  rw [← hg.case_eq] at hp
  obtain ⟨-, rfl⟩ := okUnless_eq_ok.1 hm
  rw [h.trueRules_eq hp, textMeets]
  simp [hr]

/-- A tag that a field reports can be asked for under the path of the field, if no part between the dots of the path is
empty: the literal of the two is parsed as the reference to them, in either case; there is an engine that has it for its
only rule; and whatever was called before, such an engine finds the rule to match where the field is, and anywhere else
only if a field whose path starts with the path reports the tag. A plain text has no fields. -/
theorem tagged_field_addressable {data : Value} {s : Selection} {fields : List Field} {f : Field} {tag : String}
    (hfields : (t.tagObject data s).1 = .ok fields) (hf : f ∈ fields) (htag : f.tags.contains (.text tag))
    (hn : tag ≠ "") (hp : [] ∉ f.name.toList.splitOn '.') (caseSensitive : Bool) :
    let source := (Reference.mk tag f.name).address
    parse source caseSensitive = .ok (.unit ⟨tag, f.name⟩) ∧
    (∀ rule, ((new (some t) caseSensitive).after [.addRule rule (.list [.text source])]).HasOnly rule source) ∧
    ∀ calls rule, let g := (new (some t) caseSensitive).after calls
      g.HasOnly rule source →
      g.process data s = .ok [(rule, [source])] ∧
      (∀ data' s' m, g.process data' s' = .ok m → (rule ∈ m.map (·.1) ↔
        ∃ fields', (t.tagObject data' s').1 = .ok fields' ∧
          ∃ f' ∈ fields', f'.tags.contains (.text tag) ∧ startsWith f.name f'.name)) ∧
      ∀ text m, g.processText text = .ok m → m = [] := by
  intro source
  have hparse : parse source caseSensitive = .ok (.unit ⟨tag, f.name⟩) := parse_address hn hp caseSensitive
  refine ⟨hparse, fun rule => hasOnly_addRule hparse (some t) rule, ?_⟩
  intro calls rule g h
  have hg : g.Reached (some t) caseSensitive := (reached_new (some t) caseSensitive).after calls
  refine ⟨?_, fun data' s' m hm => ?_, fun text m => h.processText_eq hg hparse ?_⟩
  · have hr : fields.any (·.reports ⟨tag, f.name⟩) = true :=
      List.any_eq_true.2 ⟨f, hf, by simp [Field.reports, htag, startsWith]⟩
    rw [h.process_eq hg hparse hfields, if_pos hr]
  · simpa [Field.reports] using h.mem_process_iff hg hparse hm
  · -- A path without an empty part is not the empty one.
    intro he
    simp only at he
    simp [he] at hp

theorem tagged_field_addressable_special :
    let tag := "a:\"b\\"
    let t := Tagger.empty.add (RangeTagger.extractor ⟨[(.text tag, ⟨some (.int 3), none⟩)]⟩ (.text "range")) .int
    let data := Value.map [(.text "x", .int 1), (.text "k:\"\\", .list [.int 5])]
    let f : Field := ⟨"k:\"\\.index(0)", [(.text "range", ⟨[.text tag], .null⟩)]⟩
    let source := (Reference.mk tag f.name).address
    let g := (new (some t) false).after [.addRule "known" (.list [.text source])]
    (t.tagObject data .everything).1 = .ok [⟨"x", [(.text "range", ⟨[], .null⟩)]⟩, f] ∧
    f.tags.contains (.text tag) ∧ [] ∉ f.name.toList.splitOn '.' ∧
    source = "\"a\\:\\\"b\\\\:k:\\\"\\\\.index(0)\"" ∧ parse source false = .ok (.unit ⟨tag, f.name⟩) ∧
    g.HasOnly "known" source ∧
    g.process data .everything = .ok [("known", [source])] ∧
    ∀ data' s' m, g.process data' s' = .ok m → ("known" ∈ m.map (·.1) ↔
      ∃ fields', (t.tagObject data' s').1 = .ok fields' ∧
        ∃ f' ∈ fields', f'.tags.contains (.text tag) ∧ startsWith f.name f'.name) := by
  intro tag t data f source g
  have hfields : (t.tagObject data .everything).1 = .ok [⟨"x", [(.text "range", ⟨[], .null⟩)]⟩, f] := rfl
  have htag : f.tags.contains (.text tag) := by decide
  have hp : [] ∉ f.name.toList.splitOn '.' := by decide
  obtain ⟨hparse, hg, hall⟩ := tagged_field_addressable hfields (by simp) htag (by decide) hp false
  obtain ⟨hm, hiff, -⟩ := hall _ "known" (hg "known")
  exact ⟨hfields, htag, hp, by decide, hparse, hg "known", hm, hiff⟩

end Engine
end TagRules
