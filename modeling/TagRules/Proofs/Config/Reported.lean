import TagRules.Command.Run
import TagRules.Proofs.Config.Rules

/-!
What goes wrong with a configuration, and what is told of it. Every error on the way from a value to an engine is
reported as one of the configuration, but for those of four uses of a value that nothing checks before: the extractors
are listed, and their kinds, a type is looked up, and keys of a range that are no bounds are sorted and joined.
-/
namespace TagRules

/-- The definition is among the extractors of a configuration. -/
def Value.Declares (v d : Value) : Prop := ∃ ds, (v.part "extractors" (.list [])).items = .ok ds ∧ d ∈ ds

/-- The keys of a range that are no bounds. -/
def RangeTagger.strayKeys (bounds : List (Value × Value)) : List Value :=
  (bounds.map (·.1)).filter fun key => !(key == .text "min" || key == .text "max")

/-- Of the keys of a range that are no bounds, no text can be made. -/
def RangeTagger.FailsOnKeys (tags : Value) (m : Mismatch) : Prop :=
  ∃ es tag given bounds, tags.entries? = some es ∧ (tag, given) ∈ es ∧ given.untied = .map bounds ∧
    (sortValues (strayKeys bounds) >>= joinKeys) = .error m

/-- A use of a part of a configuration that nothing checks, and what comes of it. -/
inductive Value.Unchecked (v : Value) : Mismatch → Prop
  | extractors {m : Mismatch} (h : (v.part "extractors" (.list [])).items = .error m) : v.Unchecked m
  | kinds {d : Value} {m : Mismatch} (hd : v.Declares d) (h : (d.entry "kinds" (.list [])).items = .error m) :
    v.Unchecked m
  | type {d : Value} {m : Mismatch} (hd : v.Declares d) (h : (d.entry "type" .null).requireHashable = .error m) :
    v.Unchecked m
  | strayKeys {d : Value} {m : Mismatch} (hd : v.Declares d) (ht : d.entry "type" .null = .text "range")
    (h : RangeTagger.FailsOnKeys ((d.part "params" (.map [])).part "tags" (.map [])) m) : v.Unchecked m

namespace DefinitionError

/-- The error is reported as one of the configuration. -/
def IsReported (e : DefinitionError) : Prop :=
  ∀ message, Command.definitionEnding message e = .failed (message e.message)

/-- The error is reported, or it is a mismatch of a kind. -/
def IsReportedOr (P : Mismatch → Prop) (e : DefinitionError) : Prop := e.IsReported ∨ ∃ m, P m ∧ e = .mismatch m

variable {P Q : Mismatch → Prop}

lemma IsReported.or {e : DefinitionError} (h : e.IsReported) : e.IsReportedOr P := .inl h

lemma isReportedOr_mismatch {m : Mismatch} (h : P m) : IsReportedOr P (.mismatch m) := .inr ⟨m, h, rfl⟩

lemma IsReportedOr.mono (hPQ : ∀ m, P m → Q m) (e : DefinitionError) (h : e.IsReportedOr P) : e.IsReportedOr Q :=
  h.imp_right fun ⟨m, hm, he⟩ => ⟨m, hPQ m hm, he⟩

end DefinitionError
namespace ExtractorDefinition

open DefinitionError

lemma failsIn_readKinds (v : Value) : FailsIn (IsReportedOr (v.items = .error ·)) (readKinds v) := by
  unfold readKinds
  extract_lets named
  have hn : ∀ names, FailsIn (IsReportedOr (v.items = .error ·)) (named names) := by
    refine fun names => .mapM fun name _ => ?_
    split
    next => exact failsIn_ok _
    next => exact failsIn_error (.inl fun _ => rfl)
  split
  next => exact hn _
  next => exact .bind (.mapError fun m hm => isReportedOr_mismatch hm) fun names _ => hn names

lemma readKinds_ok {v : Value} {kinds : List ScalarKind} (h : readKinds v = .ok kinds) :
    ∃ names, v.items = .ok names := by
  unfold readKinds at h
  extract_lets named at h
  split at h
  next => exact ⟨_, rfl⟩
  next =>
    obtain ⟨names, hn, -⟩ := ok_of_bind h
    exact ⟨names, ok_of_mapError hn⟩

/-- A definition is read entry by entry. -/
lemma ofValue_eq (d : Value) : ofValue d =
    match Entries.get? (d.entries?.getD []) (.text "type"), (d.part "params" (.map [])).entries? with
    | none, _ => .error (.noType d)
    | some type, none => .error (.paramsNotMap type)
    | some type, some params => do
      return ⟨type, (d.entry "name" .null).orElse type, ← readKinds (d.entry "kinds" (.list [])), params⟩ := by
  unfold ofValue Value.part Value.entry
  cases he : d.entries? with
  | none => rfl
  | some es =>
    simp only [Option.bind_some, Option.getD_some]
    cases ht : Entries.get? es (.text "type") with
    | none => rfl
    | some type =>
      simp only [Option.map_some, ofEntries]
      cases (((Entries.get? es (.text "params")).getD .null).orElse (.map [])).entries? <;> rfl

lemma failsIn_ofValue (d : Value) :
    FailsIn (IsReportedOr ((d.entry "kinds" (.list [])).items = .error ·)) (ofValue d) := by
  rw [ofValue_eq]
  split
  next => exact failsIn_error (.inl fun _ => rfl)
  next => exact failsIn_error (.inl fun _ => rfl)
  next => exact (failsIn_readKinds _).bind fun _ _ => failsIn_ok _

lemma ofValue_ok {d : Value} {x : ExtractorDefinition} (h : ofValue d = .ok x) :
    d.entry "type" .null = x.type ∧ (d.part "params" (.map [])).entries? = some x.params ∧
      readKinds (d.entry "kinds" (.list [])) = .ok x.kinds := by
  rw [ofValue_eq] at h
  split at h
  next => cases h
  next => cases h
  next type params ht hp =>
    obtain ⟨kinds, hk, h⟩ := ok_of_bind h
    cases h
    rw [Value.entry, ht]
    exact ⟨rfl, hp, hk⟩

end ExtractorDefinition

/-- A pattern language in which a text that is no pattern is only ever invalid. -/
def PatternLanguage.OnlyInvalid (l : PatternLanguage) : Prop :=
  ∀ (ignoreCase : Bool) (source : String) (e : PatternError), l.compile ignoreCase source = .error e →
    ∃ reason, e = .invalid reason

namespace PatternTagger

open DefinitionError

variable {l : PatternLanguage} (hl : l.OnlyInvalid) (ignoreCase : Bool)
include hl

lemma failsIn_readPattern (tag given : Value) : FailsIn IsReported (readPattern l ignoreCase tag given) := by
  unfold readPattern
  split
  next =>
    split
    next => exact failsIn_ok _
    next hc =>
      obtain ⟨reason, rfl⟩ := hl _ _ _ hc
      exact failsIn_error fun _ => rfl
  next => exact failsIn_error fun _ => rfl

lemma failsIn_readPatterns (tag given : Value) : FailsIn IsReported (readPatterns l ignoreCase tag given) := by
  unfold readPatterns
  split
  next => exact (failsIn_readPattern hl ignoreCase tag _).bind fun _ _ => failsIn_ok _
  next => exact .mapM fun pattern _ => failsIn_readPattern hl ignoreCase tag pattern
  next => exact .mapM fun pattern _ => failsIn_readPattern hl ignoreCase tag pattern
  next => exact failsIn_error fun _ => rfl

lemma failsIn_ofValue (tags : Value) : FailsIn IsReported (ofValue l ignoreCase tags) := by
  unfold ofValue
  split
  next => exact .bind (.mapM fun entry _ => failsIn_readPatterns hl ignoreCase _ _) fun _ _ => failsIn_ok _
  next => exact failsIn_error fun _ => rfl

end PatternTagger
namespace RangeTagger

open DefinitionError

variable {tag given : Value}

lemma failsIn_readBound (tag : Value) (bounds : List (Value × Value)) (key : String) :
    FailsIn IsReported (readBound tag bounds key) := by
  unfold readBound
  split
  all_goals first | exact failsIn_ok _ | exact failsIn_error fun _ => rfl

lemma failsIn_strayText (tag : Value) (stray : List Value) :
    FailsIn (IsReportedOr fun m => (sortValues stray >>= joinKeys) = .error m) (strayText tag stray) := by
  unfold strayText
  split
  next => exact .mapError fun m hm => isReportedOr_mismatch hm
  next => exact failsIn_ok _

/-- Bounds are checked but for keys that are none, of which a text is made. -/
lemma failsIn_readRange (tag given : Value) : FailsIn (IsReportedOr fun m => ∃ bounds, given.untied = .map bounds ∧
    (sortValues (strayKeys bounds) >>= joinKeys) = .error m) (readRange tag given) := by
  unfold readRange
  extract_lets read
  have hread : ∀ bounds,
      FailsIn (IsReportedOr fun m => (sortValues (strayKeys bounds) >>= joinKeys) = .error m) (read bounds) := by
    intro bounds
    simp only [read]
    split
    next =>
      exact (failsIn_strayText tag _).bind fun keys _ => failsIn_error (.inl fun _ => rfl)
    next =>
      refine ((failsIn_readBound tag bounds "min").mono fun _ => IsReported.or).bind fun _ _ => ?_
      exact ((failsIn_readBound tag bounds "max").mono fun _ => IsReported.or).bind fun _ _ => failsIn_ok _
  split
  next =>
    -- Without bounds there are no keys at all.
    exact (hread []).mono (IsReportedOr.mono fun m hm => by cases hm)
  next bounds hg => exact (hread bounds).mono (IsReportedOr.mono fun m hm => ⟨bounds, hg, hm⟩)
  next => exact failsIn_error (.inl fun _ => rfl)

lemma failsIn_ofValue (tags : Value) : FailsIn (IsReportedOr (FailsOnKeys tags)) (ofValue tags) := by
  unfold ofValue
  split
  next es he =>
    refine .bind (.mapM fun ⟨tag, given⟩ hm => ?_) fun _ _ => failsIn_ok _
    refine ((failsIn_readRange tag given).mono (IsReportedOr.mono fun m => ?_)).bind fun _ _ => failsIn_ok _
    rintro ⟨bounds, hb, hs⟩
    exact ⟨es, tag, given, bounds, he, hm, hb, hs⟩
  next => exact failsIn_error (.inl fun _ => rfl)

lemma strayKeys_of_readRange {r : ValueRange} {bounds : List (Value × Value)} (h : readRange tag given = .ok r)
    (hb : given.untied = .map bounds) : strayKeys bounds = [] := by
  unfold readRange at h
  extract_lets read at h
  rw [hb] at h
  change read bounds = .ok r at h
  simp only [read] at h
  split at h
  next =>
    obtain ⟨keys, -, h⟩ := ok_of_bind h
    cases h
  next hs => simpa [strayKeys] using hs

lemma not_failsOnKeys {tags : Value} {t : RangeTagger} (h : ofValue tags = .ok t) (m : Mismatch) :
    ¬ FailsOnKeys tags m := by
  rintro ⟨es, tag, given, bounds, he, hm, hb, hs⟩
  unfold ofValue at h
  rw [he] at h
  obtain ⟨ranges, hr, -⟩ := ok_of_bind h
  obtain ⟨row, -, hrow⟩ := ok_of_mem_mapM hr hm
  obtain ⟨r, hread, -⟩ := ok_of_bind hrow
  rw [strayKeys_of_readRange hread hb] at hs
  cases hs

end RangeTagger
namespace Registry

/-- The types that come with the library, by name. -/
lemma type?_builtin {l : PatternLanguage} {type : Value} {t : ExtractorType}
    (h : (withBuiltin [] l).type? type = some t) :
    type = .text "pattern" ∧ t = .pattern l ∨ type = .text "range" ∧ t = .range := by
  obtain ⟨name, hn, hg⟩ := Option.bind_eq_some_iff.1 h
  have hr : withBuiltin [] l = [("pattern", .pattern l), ("range", .range)] := rfl
  rw [hr, Entries.get?_cons, Entries.get?_cons] at hg
  cases type <;> cases hn
  split at hg
  next hname =>
    cases hg
    rw [← eq_of_beq hname]
    exact .inl ⟨rfl, rfl⟩
  next =>
    split at hg
    next hname =>
      cases hg
      rw [← eq_of_beq hname]
      exact .inr ⟨rfl, rfl⟩
    next => cases hg

open DefinitionError

variable {l : PatternLanguage} {x : ExtractorDefinition}

lemma failsIn_create (hl : l.OnlyInvalid) (x : ExtractorDefinition) :
    FailsIn (IsReportedOr fun m => x.type.requireHashable = .error m ∨
      x.type = .text "range" ∧ RangeTagger.FailsOnKeys (((x.param? "tags").getD .null).orElse (.map [])) m)
      ((withBuiltin [] l).create x) := by
  refine .bind (.mapError fun m hm => isReportedOr_mismatch (.inl hm)) fun _ _ => ?_
  split
  next t ht =>
    obtain ⟨-, rfl⟩ | ⟨htype, rfl⟩ := type?_builtin ht
    · exact ((PatternTagger.failsIn_ofValue hl _ _).mono fun _ => IsReported.or).bind fun _ _ => failsIn_ok _
    · refine ((RangeTagger.failsIn_ofValue _).mono (IsReportedOr.mono fun m hm => ?_)).bind fun _ _ => failsIn_ok _
      exact .inr ⟨htype, hm⟩
  next => exact failsIn_error (.inl fun _ => rfl)

lemma failsIn_kindsOf (r : Registry) (type : Value) :
    FailsIn (IsReportedOr (type.requireHashable = .error ·)) (r.kindsOf type) := by
  refine .bind (.mapError fun m hm => isReportedOr_mismatch hm) fun _ _ => ?_
  split
  next => exact failsIn_ok _
  next => exact failsIn_error (.inl fun _ => rfl)

lemma create_ok {extractor : Extractor} (h : (withBuiltin [] l).create x = .ok extractor) :
    x.type.requireHashable = .ok () ∧ (x.type = .text "range" →
      ∀ m, ¬ RangeTagger.FailsOnKeys (((x.param? "tags").getD .null).orElse (.map [])) m) := by
  obtain ⟨u, hu, h⟩ := ok_of_bind h
  refine ⟨ok_of_mapError hu, fun hrange => ?_⟩
  split at h
  next t ht =>
    obtain ⟨hpattern, -⟩ | ⟨-, rfl⟩ := type?_builtin ht
    · rw [hrange] at hpattern
      exact absurd (Value.text.inj hpattern) (by decide)
    · obtain ⟨ranges, hr, -⟩ := ok_of_bind h
      exact RangeTagger.not_failsOnKeys hr
  next => cases h

end Registry

/-- Why a value gives no engine. -/
inductive SetupError
  | config (e : ConfigError)
  | build (e : BuildError)

namespace SetupError

def message : SetupError → String
  | .config e => e.message
  | .build e => e.message

/-- How a command ends that meets the error. -/
def ending (message : String → String) : SetupError → Command.Ending
  | .config e => Command.loadEnding message (.config e)
  | .build e => Command.buildEnding message e

/-- The error is reported as one of the configuration. -/
def IsReported (e : SetupError) : Prop := ∀ message, e.ending message = .failed (message e.message)

/-- The error is reported, or it is a mismatch of a kind and ends the command. -/
def IsReportedOr (P : Mismatch → Prop) (e : SetupError) : Prop :=
  e.IsReported ∨ ∃ m, P m ∧ ∀ message, e.ending message = .crashed (.mismatch m)

variable {P : Mismatch → Prop} {e : DefinitionError}

lemma isReportedOr_config (h : e.IsReportedOr P) : (config (.definition e)).IsReportedOr P := by
  obtain h | ⟨m, hm, rfl⟩ := h
  · exact .inl h
  · exact .inr ⟨m, hm, fun _ => rfl⟩

lemma isReportedOr_build (h : e.IsReportedOr P) : (build (.definition e)).IsReportedOr P := by
  obtain h | ⟨m, hm, rfl⟩ := h
  · exact .inl h
  · exact .inr ⟨m, hm, fun _ => rfl⟩

end SetupError

/-- The engine that a value describes, with the types that come with the library. -/
def Engine.ofValue (v : Value) (l : PatternLanguage) (caseSensitive : Option Bool) : Except SetupError Engine := do
  let c ← (Config.ofValue v).mapError .config
  let (g, _) ← (ofConfig c [] l caseSensitive).mapError .build
  return g

namespace Config

variable {v : Value} {c : Config}

lemma failsIn_textOf (name : Value) : FailsIn (fun e => (SetupError.config e).IsReported) (textOf name) := by
  unfold textOf
  split
  next => exact failsIn_ok _
  next => exact failsIn_error fun _ => rfl

lemma failsIn_readRule (name given : Value) :
    FailsIn (fun e => (SetupError.config e).IsReported) (readRule name given) := by
  unfold readRule
  split
  next => exact failsIn_ok _
  next =>
    split
    next => exact failsIn_ok _
    next => exact failsIn_error fun _ => rfl
  next => exact failsIn_error fun _ => rfl

lemma failsIn_readRules (v : Value) : FailsIn (fun e => (SetupError.config e).IsReported) (readRules v) := by
  unfold readRules
  split
  next =>
    refine .bind (.mapM fun entry _ => ?_) fun _ _ => failsIn_ok _
    refine (failsIn_textOf entry.1).bind fun _ _ => ?_
    exact (failsIn_readRule entry.1 entry.2).bind fun _ _ => failsIn_ok _
  next => exact failsIn_error fun _ => rfl

lemma failsIn_readPaths (settings : List (Value × Value)) (key : String) :
    FailsIn (fun e => (SetupError.config e).IsReported) (readPaths settings key) := by
  unfold readPaths
  split
  next => exact failsIn_ok _
  next => exact .mapM fun path _ => failsIn_textOf path
  next => exact failsIn_error fun _ => rfl

/-- A configuration is read with a report of what is wrong, or the extractors or the kinds of one are no list. -/
theorem failsIn_ofValue (v : Value) :
    FailsIn (fun e => (SetupError.config e).IsReportedOr v.Unchecked) (ofValue v) := by
  rw [ofValue_eq]
  split
  next => exact failsIn_error (.inl fun _ => rfl)
  next => exact failsIn_error (.inl fun _ => rfl)
  next settings _ _ =>
    have hpaths : ∀ key, FailsIn (fun e => (SetupError.config e).IsReportedOr v.Unchecked) (readPaths settings key) :=
      fun key => (failsIn_readPaths settings key).mono fun _ => .inl
    refine ((failsIn_readRules _).mono fun _ => .inl).bind fun _ _ => ?_
    refine .bind (.mapError fun m hm => .inr ⟨m, .extractors hm, fun _ => rfl⟩) fun ds hds => ?_
    refine .bind (.mapError (.mapM fun d hd => ?_)) fun _ _ => ?_
    · refine (ExtractorDefinition.failsIn_ofValue d).mono fun e he => SetupError.isReportedOr_config ?_
      exact he.mono (fun m hm => .kinds ⟨ds, ok_of_mapError hds, hd⟩ hm) e
    · exact (hpaths "includePaths").bind fun _ _ => (hpaths "excludePaths").bind fun _ _ => failsIn_ok _

/-- Extractors are built with a report of what is wrong, or a type is no key or keys of a range cannot be joined. -/
theorem failsIn_tagger {l : PatternLanguage} (hl : l.OnlyInvalid) (hv : ofValue v = .ok c) :
    FailsIn (DefinitionError.IsReportedOr v.Unchecked) (c.tagger (Registry.withBuiltin [] l)) := by
  obtain ⟨-, ds, hds, hdefs⟩ := parts_of_ofValue hv
  refine .foldlM (fun t x hx => ?_) _
  obtain ⟨d, hm, hdx⟩ := exists_of_mapM_ok hdefs hx
  have hd : v.Declares d := ⟨ds, hds, hm⟩
  obtain ⟨htype, hparams, -⟩ := ExtractorDefinition.ofValue_ok hdx
  have hunhashable : ∀ m, x.type.requireHashable = .error m → v.Unchecked m := by
    intro m hm
    rw [← htype] at hm
    exact .type hd hm
  refine ((Registry.failsIn_create hl x).mono (DefinitionError.IsReportedOr.mono fun m hm => ?_)).bind fun _ _ => ?_
  · obtain hm | ⟨hrange, hm⟩ := hm
    · exact hunhashable m hm
    · refine .strayKeys hd (htype.trans hrange) ?_
      rw [Value.part_of_entries hparams]
      exact hm
  · split
    next =>
      refine ((Registry.failsIn_kindsOf _ _).mono (DefinitionError.IsReportedOr.mono hunhashable)).bind fun _ _ => ?_
      exact failsIn_ok _
    next => exact failsIn_ok _

/-- Where extractors are built, all that nothing checks went well. -/
theorem not_unchecked {l : PatternLanguage} (hv : ofValue v = .ok c) {t : Tagger}
    (h : c.tagger (Registry.withBuiltin [] l) = .ok t) (m : Mismatch) : ¬ v.Unchecked m := by
  obtain ⟨-, ds, hds, hdefs⟩ := parts_of_ofValue hv
  -- Whatever is declared has been read, and whatever has been read was built.
  have hd : ∀ {d}, v.Declares d → ∃ x ∈ c.definitions, ExtractorDefinition.ofValue d = .ok x := by
    rintro d ⟨ds', hds', hm⟩
    cases hds.symm.trans hds'
    exact ok_of_mem_mapM hdefs hm
  have hcreate : ∀ {x}, x ∈ c.definitions → ∃ y, (Registry.withBuiltin [] l).create x = .ok y := by
    intro x hx
    obtain ⟨t₁, t₂, ht⟩ := ok_of_mem_foldlM h hx
    obtain ⟨y, hy, -⟩ := ok_of_bind ht
    exact ⟨y, hy⟩
  intro hm
  cases hm with
  | extractors he => cases hds.symm.trans he
  | kinds hdecl he =>
    obtain ⟨x, -, hdx⟩ := hd hdecl
    obtain ⟨names, hn⟩ := ExtractorDefinition.readKinds_ok (ExtractorDefinition.ofValue_ok hdx).2.2
    cases hn.symm.trans he
  | type hdecl he =>
    obtain ⟨x, hx, hdx⟩ := hd hdecl
    obtain ⟨y, hy⟩ := hcreate hx
    rw [(ExtractorDefinition.ofValue_ok hdx).1] at he
    cases (Registry.create_ok hy).1.symm.trans he
  | strayKeys hdecl ht he =>
    obtain ⟨x, hx, hdx⟩ := hd hdecl
    obtain ⟨y, hy⟩ := hcreate hx
    obtain ⟨htype, hparams, -⟩ := ExtractorDefinition.ofValue_ok hdx
    rw [Value.part_of_entries hparams] at he
    exact (Registry.create_ok hy).2 (htype.symm.trans ht) m he

end Config
namespace RuleStore

lemma failsIn_compileRule (caseSensitive : Bool) (name : String) (texts : List String) :
    FailsIn (fun e => ∃ s, e = .source s) (compileRule caseSensitive name (.list (texts.map .text))) := by
  unfold compileRule
  rw [sources_texts]
  exact .bind (failsIn_ok texts) fun _ _ => .bind (.mapError fun s _ => ⟨s, rfl⟩) fun _ _ => failsIn_ok _

end RuleStore
namespace Engine

/-- An engine is built with a report of what is wrong, where its tagger is. -/
theorem failsIn_ofConfig {c : Config} {r : Registry} {l : PatternLanguage} {P : Mismatch → Prop}
    (h : FailsIn (DefinitionError.IsReportedOr P) (c.tagger (r.withBuiltin l))) (caseSensitive : Option Bool) :
    FailsIn (fun e => (SetupError.build e).IsReportedOr P) (ofConfig c r l caseSensitive) := by
  refine .bind (.mapError (h.mono fun _ => SetupError.isReportedOr_build)) fun t _ => .mapError ?_
  refine .bind (.bind (.mapM fun entry hm => ?_) fun _ _ => failsIn_ok _) fun _ _ => failsIn_ok _
  obtain ⟨rule, -, rfl⟩ := List.mem_map.1 hm
  refine (RuleStore.failsIn_compileRule _ rule.1 rule.2).mono ?_
  rintro _ ⟨s, rfl⟩
  exact .inl fun _ => rfl

/-- The error is reported as one of the configuration, or it is the mismatch of a use that nothing checks. -/
lemma failsIn_ofValue {l : PatternLanguage} (hl : l.OnlyInvalid) (v : Value) (caseSensitive : Option Bool) :
    FailsIn (SetupError.IsReportedOr v.Unchecked) (ofValue v l caseSensitive) := by
  refine .bind (.mapError (Config.failsIn_ofValue v)) fun c hc => ?_
  refine .bind (.mapError (failsIn_ofConfig ?_ caseSensitive)) fun _ _ => failsIn_ok _
  exact Config.failsIn_tagger hl (ok_of_mapError hc)

/-- A value that gives an engine has nothing that goes wrong where nothing checks. -/
lemma not_unchecked_of_ofValue {l : PatternLanguage} {v : Value} {caseSensitive : Option Bool} {g : Engine}
    (h : ofValue v l caseSensitive = .ok g) (m : Mismatch) : ¬ v.Unchecked m := by
  obtain ⟨c, hc, h⟩ := ok_of_bind h
  obtain ⟨⟨g', notes⟩, hg, -⟩ := ok_of_bind h
  obtain ⟨t, ht, -⟩ := ok_of_bind (ok_of_mapError hg)
  exact Config.not_unchecked (ok_of_mapError hc) (ok_of_mapError ht) m

/-- From any value comes an engine, or an error that is reported as one of the configuration, or the value is used at
one of four places where nothing checks it and where it does not fit: then there is no engine, and an error that is not
reported ends the command as the mismatch it is. -/
theorem reported_unless_unchecked {l : PatternLanguage} (hl : l.OnlyInvalid) (v : Value)
    (caseSensitive : Option Bool) :
    match ofValue v l caseSensitive with
    | .ok _ => ∀ m, ¬ v.Unchecked m
    | .error e => e.IsReported ∨ ∃ m, v.Unchecked m ∧ ∀ message, e.ending message = .crashed (.mismatch m) := by
  split
  next h => exact not_unchecked_of_ofValue h
  next h => exact failsIn_ofValue hl v caseSensitive _ h

end Engine

/-- Search patterns, with every error told as that of an invalid pattern. -/
def PatternLanguage.searchOrInvalid : PatternLanguage :=
  ⟨fun ignoreCase source => (Pattern.compile ignoreCase source).mapError fun e => .invalid e.message⟩

lemma PatternLanguage.onlyInvalid_searchOrInvalid : searchOrInvalid.OnlyInvalid := by
  intro ignoreCase source e h
  have hf : FailsIn (fun e => ∃ reason, e = .invalid reason) (searchOrInvalid.compile ignoreCase source) :=
    .mapError fun e' _ => ⟨e'.message, rfl⟩
  exact hf e h

namespace Engine

/-- An extractor with a pattern that is none. -/
def openGroup : Value :=
  .map [(.text "extractors", .list [.map [(.text "type", .text "pattern"),
    (.text "params", .map [(.text "tags", .map [(.text "open", .text "(")])])]])]

theorem reported_unless_unchecked_openGroup : PatternLanguage.searchOrInvalid.OnlyInvalid ∧
    ∃ e, ofValue openGroup .searchOrInvalid none = .error e ∧ e.IsReported ∧
      e.message = "Invalid pattern '(' for tag 'open': missing ), unterminated subpattern at position 0" := by
  let e : SetupError := .build (.definition (.badPattern "(" (.text "open")
    (.invalid "missing ), unterminated subpattern at position 0")))
  have hl := PatternLanguage.onlyInvalid_searchOrInvalid
  have he : ofValue openGroup .searchOrInvalid none = .error e := rfl
  have h := reported_unless_unchecked hl openGroup none
  rw [he] at h
  obtain hr | ⟨m, -, hm⟩ := h
  · exact ⟨hl, e, he, hr, by decide⟩
  · cases hm id

/-- A range with a number among its keys. -/
def numberedKey : Value :=
  .map [(.text "extractors", .list [.map [(.text "type", .text "range"),
    (.text "params", .map [(.text "tags", .map [(.text "adult", .map [(.int 18, .null)])])])]])]

/-- The number is no bound, and the report that is to say so fails on it. -/
theorem not_reported_numberedKey : PatternLanguage.searchOrInvalid.OnlyInvalid ∧
    ∃ e, ofValue numberedKey .searchOrInvalid none = .error e ∧ ¬ e.IsReported ∧
      ∀ message, e.ending message = .crashed (.mismatch (.notJoinable 0 (.int 18))) := by
  let e : SetupError := .build (.definition (.mismatch (.notJoinable 0 (.int 18))))
  have hn : ¬ e.IsReported := by
    intro h
    cases h id
  exact ⟨PatternLanguage.onlyInvalid_searchOrInvalid, e, rfl, hn, fun _ => rfl⟩

end Engine
end TagRules
