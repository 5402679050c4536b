import TagRules.Proofs.Config.Reported
import TagRules.Proofs.Engine.Addressing
import TagRules.Proofs.Grammar.Writable
import TagRules.Proofs.Tagging.Patterns

/-!
Where the tags of a configured tagger come from, and which of them a rule can ask for. The extractors that come with the
library report keys of the mapping that they were declared with, and these keys are taken as they are. A rule has texts
for names, and no empty ones: so it can ask for a tag exactly if the key is a text that is not empty, and for no other
key, though it is reported all the same.
-/
namespace TagRules
namespace PatternTagger

variable {p : PatternTagger} {name v tag : Value} {found : Findings}

lemma mem_of_finding? (h : (p.extractor name).finding? v = some found) (ht : tag ∈ found.tags) :
    tag ∈ p.patterns.map (·.tag) := by
  obtain ⟨tags, data, he, hft⟩ := Extractor.extract_of_finding? h
  rw [hft] at ht
  simp only [extractor] at he
  split at he
  · cases he
    cases ht
  · obtain ⟨s, -, he⟩ := ok_of_bind he
    cases he
    have hs := Entries.keys_foldl_extend_subset TagPattern.tag (fun p => [Value.text p.source]) _ ht
    exact List.map_subset _ List.filter_sublist.subset hs

lemma tags_of_ofValue {l : PatternLanguage} {ignoreCase : Bool} {tags : Value}
    (h : ofValue l ignoreCase tags = .ok p) : ∀ q ∈ p.patterns, q.tag ∈ (tags.entries?.getD []).map (·.1) := by
  cases he : tags.entries? with
  | none =>
    simp only [ofValue, he] at h
    cases h
  | some es =>
    rw [ofValue_eq he] at h
    obtain ⟨-, rfl⟩ := okUnless_eq_ok.1 h
    intro q hq
    obtain ⟨⟨tag, given⟩, hm, rfl⟩ := List.mem_map.1 hq
    obtain ⟨e, hes, hm⟩ := List.mem_flatMap.1 hm
    obtain ⟨given, -, hpair⟩ := List.mem_map.1 hm
    cases hpair
    exact List.mem_map_of_mem hes

end PatternTagger
namespace RangeTagger

variable {r : RangeTagger} {name v tag : Value} {found : Findings}

lemma tagsOf_subset {ranges : List (Value × ValueRange)} {tags : List Value} (h : tagsOf v ranges = .ok tags) :
    tags ⊆ ranges.map (·.1) := by
  induction ranges generalizing tags with
  | nil =>
    cases h
    exact List.nil_subset _
  | cons range ranges ih =>
    obtain ⟨inside, -, h⟩ := ok_of_bind h
    obtain ⟨more, hm, h⟩ := ok_of_bind h
    have hmore := List.subset_cons_of_subset range.1 (ih hm)
    cases h
    cases inside with
    | true => exact List.cons_subset.2 ⟨List.mem_cons_self, hmore⟩
    | false => exact hmore

lemma mem_of_finding? (h : (r.extractor name).finding? v = some found) (ht : tag ∈ found.tags) :
    tag ∈ r.ranges.map (·.1) := by
  obtain ⟨tags, data, he, hft⟩ := Extractor.extract_of_finding? h
  obtain ⟨inside, hi, he⟩ := ok_of_bind he
  cases he
  rw [hft] at ht
  exact tagsOf_subset (ok_of_mapError hi) ht

lemma tags_of_ofValue {tags : Value} (h : ofValue tags = .ok r) :
    ∀ range ∈ r.ranges, range.1 ∈ (tags.entries?.getD []).map (·.1) := by
  unfold ofValue at h
  split at h
  next es he =>
    obtain ⟨rows, hr, h⟩ := ok_of_bind h
    cases h
    intro range hrange
    obtain ⟨⟨tag, given⟩, hm, hread⟩ := exists_of_mapM_ok hr hrange
    obtain ⟨bounds, -, hread⟩ := ok_of_bind hread
    cases hread
    rw [he]
    exact List.mem_map_of_mem hm
  next => cases h

end RangeTagger

/-- The keys of the tags that a declared extractor is given. -/
def Value.tagKeys (d : Value) : List Value :=
  (((d.part "params" (.map [])).part "tags" (.map [])).entries?.getD []).map (·.1)

/-- A type of extractors that comes with the library. -/
def ExtractorType.IsBuiltin (l : PatternLanguage) (type : ExtractorType) : Prop := type = .pattern l ∨ type = .range

/-- What is declared comes to an extractor. -/
def Registry.Builds (r : Registry) (d : Value) (x : Extractor) : Prop :=
  ∃ e, ExtractorDefinition.ofValue d = .ok e ∧ r.create e = .ok x

/-- An extractor of a type that comes with the library finds no tags but the keys that it was declared with. -/
lemma Registry.mem_tagKeys {r : Registry} {l : PatternLanguage} {d : Value} {x : Extractor} (h : r.Builds d x)
    {type : ExtractorType} (ht : r.type? (d.entry "type" .null) = some type) (hb : type.IsBuiltin l) {v tag : Value}
    {found : Findings} (hf : x.finding? v = some found) (htag : tag ∈ found.tags) : tag ∈ d.tagKeys := by
  obtain ⟨e, he, hx⟩ := h
  obtain ⟨htype, hparams, -⟩ := ExtractorDefinition.ofValue_ok he
  have hkeys : d.tagKeys = ((((e.param? "tags").getD .null).orElse (.map [])).entries?.getD []).map (·.1) := by
    rw [Value.tagKeys, Value.part_of_entries hparams]
    rfl
  rw [htype] at ht
  obtain ⟨u, -, hx⟩ := ok_of_bind hx
  rw [ht] at hx
  rw [hkeys]
  obtain rfl | rfl := hb
  · obtain ⟨p, hp, hx⟩ := ok_of_bind hx
    cases hx
    obtain ⟨q, hq, rfl⟩ := List.mem_map.1 (PatternTagger.mem_of_finding? hf htag)
    exact PatternTagger.tags_of_ofValue hp q hq
  · obtain ⟨p, hp, hx⟩ := ok_of_bind hx
    cases hx
    obtain ⟨range, hq, rfl⟩ := List.mem_map.1 (RangeTagger.mem_of_finding? hf htag)
    exact RangeTagger.tags_of_ofValue hp range hq

lemma Tagger.extractors_add (t : Tagger) (x : Extractor) (k kind : ScalarKind) :
    (t.add x k).extractors kind = if k = kind then t.extractors kind ++ [x] else t.extractors kind := by
  cases k <;> cases kind <;> rfl

lemma Tagger.extractors_foldl_add (kinds : List ScalarKind) (t : Tagger) (x : Extractor) (kind : ScalarKind) :
    (kinds.foldl (·.add x) t).extractors kind = t.extractors kind ++ List.replicate (kinds.count kind) x := by
  induction kinds generalizing t with
  | nil => simp
  | cons k kinds ih =>
    rw [List.foldl_cons, ih, extractors_add, List.count_cons]
    by_cases h : k = kind
    · subst h
      simp [List.replicate_succ]
    · simp [h]

/-- An extractor that is attached to a kind was there, or is the one that has been added. -/
lemma Tagger.mem_extractors_foldl_add {kinds : List ScalarKind} {t : Tagger} {x y : Extractor} {kind : ScalarKind}
    (h : y ∈ (kinds.foldl (·.add x) t).extractors kind) : y ∈ t.extractors kind ∨ y = x := by
  rw [extractors_foldl_add] at h
  exact (List.mem_append.1 h).imp_right List.eq_of_mem_replicate

namespace Config

variable {v : Value} {c : Config} {r : Registry} {t : Tagger}

/-- Every extractor of a configured tagger is built from one that is declared. -/
lemma exists_builds_of_mem_extractors (hc : ofValue v = .ok c) (ht : c.tagger r = .ok t) {kind : ScalarKind}
    {x : Extractor} (hx : x ∈ t.extractors kind) : ∃ d, v.Declares d ∧ r.Builds d x := by
  obtain ⟨-, ds, hds, hdefs⟩ := parts_of_ofValue hc
  refine ok_of_foldlM (P := fun t => ∀ x ∈ t.extractors kind, ∃ d, v.Declares d ∧ r.Builds d x) ht ?_ ?_ x hx
  · cases kind <;> simp [Tagger.empty, Tagger.extractors]
  · intro e he t₁ t₂ ih h y hy
    obtain ⟨z, hz, h⟩ := ok_of_bind h
    obtain ⟨kinds, rfl⟩ : ∃ kinds : List ScalarKind, kinds.foldl (·.add z) t₁ = t₂ := by
      split at h
      · obtain ⟨kinds, -, h⟩ := ok_of_bind h
        exact ⟨kinds, Except.ok.inj h⟩
      · exact ⟨e.kinds, Except.ok.inj h⟩
    obtain hy | rfl := Tagger.mem_extractors_foldl_add hy
    · exact ih y hy
    · obtain ⟨d, hd, hde⟩ := exists_of_mapM_ok hdefs he
      exact ⟨d, ⟨ds, hds, hd⟩, e, hde, hz⟩

end Config

/-- A source text asks for a tag and nothing else. -/
def Value.IsNamedBy (tag : Value) (caseSensitive : Bool) (source : String) : Prop :=
  ∃ name, tag = .text name ∧ parse source caseSensitive = .ok (.unit ⟨name, ""⟩)

/-- There is a text that asks for a tag exactly where the tag is a text that is not empty. -/
lemma Value.exists_isNamedBy_iff (tag : Value) (caseSensitive : Bool) :
    (∃ source, tag.IsNamedBy caseSensitive source) ↔ ∃ name, name ≠ "" ∧ tag = .text name := by
  constructor
  · rintro ⟨source, name, rfl, hp⟩
    have hw : (Expr.unit ⟨name, ""⟩).IsWritable := (Parser.isFed_ofSource source caseSensitive).isWritable hp
    exact ⟨name, hw.named, rfl⟩
  · rintro ⟨name, hn, rfl⟩
    have hw : (Reference.mk name "").IsWritable := ⟨hn, .inl rfl⟩
    exact ⟨_, name, rfl, (Spells.literal hw).parse_eq⟩

namespace Config

/-- A tag that a configured tagger reports was found by an extractor that is declared; where the type of this comes with
the library, the tag is a key that is declared with it, as it is written there. Some text asks for the tag exactly if it
is a text and not empty, and every rule with such a text matches the data; for any other key there is none. -/
theorem configured_tag_named_iff {v : Value} {c : Config} {r : Registry} {l : PatternLanguage} {t : Tagger}
    {data : Value} {s : Selection} {fields : List Field} {f : Field} {tag : Value} (hc : ofValue v = .ok c)
    (ht : c.tagger (r.withBuiltin l) = .ok t) (hfields : (t.tagObject data s).1 = .ok fields) (hf : f ∈ fields)
    (htag : tag ∈ f.tags) :
    (∃ leaf ∈ Tagger.selected data s, t.field "" leaf = f ∧ ∃ x ∈ t.extractors leaf.kind,
      (∃ found, x.finding? leaf.value = some found ∧ tag ∈ found.tags) ∧
      ∃ d, v.Declares d ∧ (r.withBuiltin l).Builds d x ∧
        ∀ type, (r.withBuiltin l).type? (d.entry "type" .null) = some type → type.IsBuiltin l → tag ∈ d.tagKeys) ∧
    ∀ caseSensitive,
      ((∃ source, tag.IsNamedBy caseSensitive source) ↔ ∃ name, name ≠ "" ∧ tag = .text name) ∧
      ∀ source, tag.IsNamedBy caseSensitive source → ∀ calls rule sources,
        let g := (Engine.new (some t) caseSensitive).after calls
        g.store.rule? rule = .ok sources → source ∈ sources →
          ∃ m, g.process data s = .ok m ∧ ∃ row ∈ m, row.1 = rule ∧ source ∈ row.2 := by
  constructor
  · obtain ⟨-, rfl⟩ := (t.fst_tagObject_eq_ok data s).1 hfields
    obtain ⟨leaf, hleaf, rfl⟩ := List.mem_map.1 hf
    obtain ⟨x, hx, found, hfound, hm⟩ := Tagger.exists_finding_of_mem_tags htag
    obtain ⟨d, hd, hb⟩ := exists_builds_of_mem_extractors hc ht hx
    refine ⟨leaf, hleaf, rfl, x, hx, ⟨found, hfound, hm⟩, d, hd, hb, fun type htype hbuiltin => ?_⟩
    exact Registry.mem_tagKeys hb htype hbuiltin hfound hm
  · intro caseSensitive
    refine ⟨tag.exists_isNamedBy_iff caseSensitive, ?_⟩
    rintro source ⟨name, rfl, hp⟩ calls rule sources g hr hs
    have hg : g.Reached (some t) caseSensitive := (Engine.reached_new (some t) caseSensitive).after calls
    have hreports : fields.any (·.reports ⟨name, ""⟩) = true := by
      have hn : f.tags.contains (.text name) := List.contains_iff_exists_mem_beq.2 ⟨_, htag, BEq.rfl⟩
      exact List.any_eq_true.2 ⟨f, hf, by simp [Field.reports, hn, startsWith]⟩
    have hholds : sourceHolds g.store.caseSensitive (fun r => fields.any (·.reports r)) source = true := by
      rw [hg.case_eq, sourceHolds_of_parse hp]
      exact hreports
    exact ⟨_, Engine.process_of_tagObject hg.tagger_eq hg.compiled hfields,
      RuleStore.exists_row_of_holds hr hs hholds⟩

/-- A range from 1 on is declared for a tag. -/
def rangeFromOne (tag : Value) : Value :=
  .map [(.text "extractors", .list [.map [(.text "type", .text "range"),
    (.text "params", .map [(.text "tags", .map [(tag, .map [(.text "min", .int 1)])])])]])]

theorem configured_tag_named_iff_colon :
    let tag := Value.text "from:1"
    let source := "\"from\\:1\""
    ∃ c t f, ofValue (rangeFromOne tag) = .ok c ∧ c.tagger (Registry.withBuiltin [] .search) = .ok t ∧
      (t.tagObject (.int 5) .everything).1 = .ok [f] ∧ tag ∈ f.tags ∧ tag.IsNamedBy false source ∧
      (∃ x ∈ t.ints, ∃ d, (rangeFromOne tag).Declares d ∧ (Registry.withBuiltin [] .search).Builds d x) ∧
      let g := (Engine.new (some t) false).after [.addRule "large" (.list [.text source])]
      g.store.rule? "large" = .ok [source] ∧
        ∃ m, g.process (.int 5) .everything = .ok m ∧ ∃ row ∈ m, row.1 = "large" ∧ source ∈ row.2 := by
  intro tag source
  have hs : parse source false = .ok (.unit ⟨"from:1", ""⟩) := by
    have hw : (Reference.mk "from:1" "").IsWritable := ⟨by decide, .inl rfl⟩
    have hsource : (Reference.mk "from:1" "").written = source := by decide
    rw [← hsource]
    exact (Spells.literal hw).parse_eq
  have hr (t : Tagger) : ((Engine.new (some t) false).after [.addRule "large" (.list [.text source])]).store.rule?
      "large" = .ok [source] := (Engine.hasOnly_addRule hs (some t) "large").sources_eq
  have ht : tag ∈ [tag] := List.mem_singleton_self _
  refine ⟨_, _, ⟨"", [(.text "range", ⟨[tag], .null⟩)]⟩, rfl, rfl, rfl, ht, ⟨"from:1", rfl, hs⟩, ?_⟩
  obtain ⟨⟨leaf, hl, -, x, hx, -, d, hd, hb, -⟩, hall⟩ := @configured_tag_named_iff (rangeFromOne tag) _ [] .search _
    (.int 5) .everything _ ⟨"", [(.text "range", ⟨[tag], .null⟩)]⟩ tag rfl rfl rfl (List.mem_singleton_self _) ht
  obtain rfl := List.mem_singleton.1 hl
  refine ⟨⟨x, hx, d, hd, hb⟩, hr _, ?_⟩
  exact (hall false).2 source ⟨"from:1", rfl, hs⟩ _ "large" _ (hr _) (List.mem_singleton_self _)

/-- A number is reported as a tag if it is a key, and no reference is met by it. -/
theorem numbered_tag_unnamed :
    ∃ c t f, ofValue (rangeFromOne (.int 2024)) = .ok c ∧ c.tagger (Registry.withBuiltin [] .search) = .ok t ∧
      (t.tagObject (.int 5) .everything).1 = .ok [f] ∧ f.tags = [.int 2024] ∧
      (∀ caseSensitive source, ¬ (Value.int 2024).IsNamedBy caseSensitive source) ∧ ∀ r, f.reports r = false := by
  refine ⟨_, _, ⟨"", [(.text "range", ⟨[.int 2024], .null⟩)]⟩, rfl, rfl, rfl, rfl, ?_, fun r => ?_⟩
  · rintro caseSensitive source ⟨name, hn, -⟩
    cases hn
  · have hn : ¬ Value.int 2024 == .text r.name := fun h => nomatch Value.eq_text_of_beq h
    have ht : Field.tags ⟨"", [(.text "range", ⟨[.int 2024], .null⟩)]⟩ = [.int 2024] := rfl
    rw [Field.reports, ht, List.contains_cons, BEq.comm]
    simp [hn]

end Config
end TagRules
