import TagRules.Proofs.Config.Tags
import Mathlib.Data.List.DropRight
import Mathlib.Data.Set.List

/-!
Which type of extractors a name stands for after any registrations, and where the extractors of a configuration are
attached. Of the registrations since the registry was last cleared the first one of a name counts, for how to build and
for the kinds alike; the types that come with the library stand behind them all. A definition gives one extractor, and
this is attached as often as its kinds say.
-/
namespace TagRules

/-- A call that changes the registry. -/
inductive RegistryCall
  | register (name : String) (type : ExtractorType)
  | clear

namespace RegistryCall

/-- What a call registers. -/
def registration? : RegistryCall → Option (String × ExtractorType)
  | .register name type => some (name, type)
  | .clear => none

/-- All that is registered since the registry was last cleared, in the order of the calls. -/
def standing (calls : List RegistryCall) : List (String × ExtractorType) :=
  (calls.rtakeWhile (·.registration?.isSome)).filterMap registration?

lemma standing_register (calls : List RegistryCall) (name : String) (type : ExtractorType) :
    standing (calls ++ [.register name type]) = standing calls ++ [(name, type)] := by
  rw [standing, List.rtakeWhile_concat_pos _ _ _ rfl, List.filterMap_append]
  rfl

lemma standing_clear (calls : List RegistryCall) : standing (calls ++ [.clear]) = [] := by
  rw [standing, List.rtakeWhile_concat_neg _ _ _ (by simp [registration?])]
  rfl

end RegistryCall
namespace Registry

/-- The registry after a call. -/
def call (r : Registry) : RegistryCall → Registry
  | .register name type => r.register name type
  | .clear => []

/-- The registry after some calls, one after the other; at first it is empty. -/
def after (calls : List RegistryCall) : Registry := calls.foldl call []

/-- The types that come with the library, by name. -/
def builtin (l : PatternLanguage) : List (String × ExtractorType) := [("pattern", .pattern l), ("range", .range)]

/-- What is registered stands behind what was there. -/
lemma get?_register (r : Registry) (name : String) (type : ExtractorType) (k : String) :
    Entries.get? (r.register name type) k = (Entries.get? r k).or (Entries.get? [(name, type)] k) := by
  unfold register
  split
  next h =>
    rw [Entries.get?_cons]
    split
    next hk =>
      obtain ⟨t, ht⟩ := Option.isSome_iff_exists.1 ((Entries.isSome_get? r name).trans h)
      rw [← eq_of_beq hk, ht]
      rfl
    next =>
      simp [Entries.get?]
  next => exact Entries.get?_append r [(name, type)] k

lemma after_concat (calls : List RegistryCall) (c : RegistryCall) : after (calls ++ [c]) = (after calls).call c := by
  rw [after, List.foldl_append]
  rfl

/-- The first registration of a name since the registry was last cleared is the one that counts. -/
lemma get?_after (calls : List RegistryCall) (name : String) :
    Entries.get? (after calls) name = Entries.get? (RegistryCall.standing calls) name := by
  induction calls using List.reverseRecOn with
  | nil => rfl
  | append_singleton calls c ih =>
    rw [after_concat]
    cases c with
    | register n type => rw [call, get?_register, ih, RegistryCall.standing_register, Entries.get?_append]
    | clear =>
      rw [RegistryCall.standing_clear]
      rfl

lemma get?_withBuiltin (r : Registry) (l : PatternLanguage) (name : String) :
    Entries.get? (r.withBuiltin l) name = (Entries.get? r name).or (Entries.get? (builtin l) name) := by
  rw [withBuiltin, get?_register, get?_register, Option.or_assoc, ← Entries.get?_append]
  rfl

/-- What a name stands for: the first registration that stands, or else what comes with the library. -/
lemma type?_after (calls : List RegistryCall) (l : PatternLanguage) (type : Value) :
    ((after calls).withBuiltin l).type? type = type.text?.bind fun name =>
      (Entries.get? (RegistryCall.standing calls) name).or (Entries.get? (builtin l) name) := by
  simp only [type?, get?_withBuiltin, get?_after]

end Registry

/-- The registry as two tables by name, one of how to build and one of the kinds; a name that the first one has is
taken. -/
structure RegistryTables where
  builders : List (String × (ExtractorDefinition → Except DefinitionError Extractor))
  kinds : List (String × List ScalarKind)

namespace RegistryTables

/-- Enters a type in both tables unless its name is taken. -/
def register (ts : RegistryTables) (name : String) (type : ExtractorType) : RegistryTables :=
  if Entries.contains ts.builders name then ts
  else ⟨Entries.put ts.builders name type.build, Entries.put ts.kinds name type.kinds⟩

/-- The tables after a call. -/
def call (ts : RegistryTables) : RegistryCall → RegistryTables
  | .register name type => ts.register name type
  | .clear => ⟨[], []⟩

/-- The tables after some calls; at first they are empty. -/
def after (calls : List RegistryCall) : RegistryTables := calls.foldl call ⟨[], []⟩

/-- Enters the types that come with the library. -/
def withBuiltin (ts : RegistryTables) (l : PatternLanguage) : RegistryTables :=
  (ts.register "pattern" (.pattern l)).register "range" .range

/-- Builds the extractor of a definition by the first table. -/
def create (ts : RegistryTables) (d : ExtractorDefinition) : Except DefinitionError Extractor := do
  d.type.requireHashable.mapError .mismatch
  match d.type.text?.bind (Entries.get? ts.builders) with
  | some build => build d
  | none => throw (.unregistered d.type ((ts.builders.map (·.1)).mergeSort fun a b => decide (a ≤ b)))

/-- The kinds of a type by the second table. -/
def kindsOf (ts : RegistryTables) (type : Value) : Except DefinitionError (List ScalarKind) := do
  type.requireHashable.mapError .mismatch
  match type.text?.bind (Entries.get? ts.kinds) with
  | some kinds => return kinds
  | none => throw (.noKinds type)

/-- A registry, split in two. -/
def ofRegistry (r : Registry) : RegistryTables :=
  ⟨r.map fun e => (e.1, e.2.build), r.map fun e => (e.1, e.2.kinds)⟩

lemma register_ofRegistry (r : Registry) (name : String) (type : ExtractorType) :
    (ofRegistry r).register name type = ofRegistry (r.register name type) := by
  have hb : Entries.contains (ofRegistry r).builders name = Entries.contains r name :=
    Entries.contains_map_values r (·.build) name
  have hk : Entries.contains (ofRegistry r).kinds name = Entries.contains r name :=
    Entries.contains_map_values r (·.kinds) name
  unfold register Registry.register
  rw [hb]
  split
  next => rfl
  next h =>
    rw [Entries.put, Entries.put, Entries.update_of_not_contains (by simpa [hb] using h),
      Entries.update_of_not_contains (by simpa [hk] using h)]
    simp [ofRegistry]

/-- Whatever the calls are, the tables are those of the registry. -/
lemma after_eq (calls : List RegistryCall) : after calls = ofRegistry (Registry.after calls) := by
  change calls.foldl call (ofRegistry []) = ofRegistry (calls.foldl Registry.call [])
  refine List.foldl_hom ofRegistry fun r c => ?_
  cases c with
  | register name type => exact register_ofRegistry r name type
  | clear => rfl

lemma withBuiltin_ofRegistry (r : Registry) (l : PatternLanguage) :
    (ofRegistry r).withBuiltin l = ofRegistry (r.withBuiltin l) := by
  rw [withBuiltin, register_ofRegistry, register_ofRegistry]
  rfl

lemma create_ofRegistry (r : Registry) : (ofRegistry r).create = r.create := by
  funext d
  have hbuild : d.type.text?.bind (Entries.get? (ofRegistry r).builders) = (r.type? d.type).map (·.build) := by
    rw [Registry.type?, Option.map_bind]
    exact congrArg _ (funext (Entries.get?_map_values r (·.build)))
  have hnames : (ofRegistry r).builders.map (·.1) = r.map (·.1) := by simp [ofRegistry]
  rw [create, Registry.create, hbuild, hnames]
  cases r.type? d.type <;> rfl

lemma kindsOf_ofRegistry (r : Registry) : (ofRegistry r).kindsOf = r.kindsOf := by
  funext type
  have hkinds : type.text?.bind (Entries.get? (ofRegistry r).kinds) = (r.type? type).map (·.kinds) := by
    rw [Registry.type?, Option.map_bind]
    exact congrArg _ (funext (Entries.get?_map_values r (·.kinds)))
  rw [kindsOf, Registry.kindsOf, hkinds]
  cases r.type? type <;> rfl

lemma contains_kinds_after (calls : List RegistryCall) (name : String) :
    Entries.contains (after calls).kinds name = Entries.contains (after calls).builders name := by
  rw [after_eq]
  exact (Entries.contains_map_values _ _ name).trans (Entries.contains_map_values _ _ name).symm

end RegistryTables

/-- A definition, the type that it names, and the extractor that this builds of it. -/
structure Registry.Built (r : Registry) where
  definition : ExtractorDefinition
  type : ExtractorType
  extractor : Extractor
  named : r.type? definition.type = some type
  built : type.build definition = .ok extractor

namespace Registry

variable {r : Registry}

lemma requireHashable_of_type? {v : Value} {type : ExtractorType} (h : r.type? v = some type) :
    v.requireHashable = .ok () := by
  obtain ⟨name, hn, -⟩ := Option.bind_eq_some_iff.1 h
  cases v <;> cases hn
  rfl

namespace Built

/-- The kinds that the extractor is attached to, in order: those of the definition, or else those of the type. -/
def kinds (b : Built r) : List ScalarKind := if b.definition.kinds.isEmpty then b.type.kinds else b.definition.kinds

lemma create_eq (b : Built r) : r.create b.definition = .ok b.extractor := by
  rw [create, requireHashable_of_type? b.named, b.named]
  exact b.built

lemma kindsOf_eq (b : Built r) : r.kindsOf b.definition.type = .ok b.type.kinds := by
  rw [kindsOf, requireHashable_of_type? b.named, b.named]
  rfl

/-- Every extractor that is created is built by the type that its definition names. -/
lemma exists_of_create {d : ExtractorDefinition} {x : Extractor} (h : r.create d = .ok x) :
    ∃ b : Built r, b.definition = d := by
  obtain ⟨-, -, h⟩ := ok_of_bind h
  split at h
  next type ht => exact ⟨⟨d, type, x, ht, h⟩, rfl⟩
  next => cases h

/-- The tagger with the extractor attached to its kinds. -/
def attach (t : Tagger) (b : Built r) : Tagger := b.kinds.foldl (·.add b.extractor) t

lemma extractors_foldl_attach (built : List (Built r)) (t : Tagger) (kind : ScalarKind) :
    (built.foldl attach t).extractors kind =
      t.extractors kind ++ built.flatMap fun b => List.replicate (b.kinds.count kind) b.extractor := by
  induction built generalizing t with
  | nil => simp
  | cons b built ih =>
    rw [List.foldl_cons, ih, attach, Tagger.extractors_foldl_add, List.append_assoc]
    rfl

/-- A configuration whose definitions are built gives the tagger with all that was built, in order. -/
lemma tagger_eq {c : Config} {built : List (Built r)} (h : built.map (·.definition) = c.definitions) :
    c.tagger r = .ok (built.foldl attach .empty) := by
  have hstep (t : Tagger) (b : Built r) : (do
      let x ← r.create b.definition
      let kinds ← if b.definition.kinds.isEmpty then r.kindsOf b.definition.type else pure b.definition.kinds
      return kinds.foldl (·.add x) t) = (pure (attach t b) : Except DefinitionError Tagger) := by
    rw [b.create_eq, b.kindsOf_eq, attach, kinds]
    cases b.definition.kinds.isEmpty <;> rfl
  rw [Config.tagger, ← h, List.foldlM_map]
  simp only [hstep]
  exact List.foldlM_pure

end Built
end Registry
namespace Config

/-- Whatever has been registered and cleared, a name stands for the first type that was registered under it since, or
else for the one that comes with the library, and what has builders has kinds. Where every definition of a configuration
gives an extractor, there is a tagger, and to each kind of scalar it has the extractors in the order of their
definitions, every one as often as the kind is among those of the definition or, where it has none, of its type. -/
theorem attached_as_declared (calls : List RegistryCall) (l : PatternLanguage) (c : Config) :
    let ts := RegistryTables.after calls
    let r := (Registry.after calls).withBuiltin l
    (∀ name, Entries.contains ts.kinds name = Entries.contains ts.builders name) ∧
    (∀ d x, ts.create d = .ok x → ∃ kinds, ts.kindsOf d.type = .ok kinds) ∧
    ((ts.withBuiltin l).create = r.create ∧ (ts.withBuiltin l).kindsOf = r.kindsOf) ∧
    (∀ type, r.type? type = type.text?.bind fun name =>
      (Entries.get? (RegistryCall.standing calls) name).or (Entries.get? (Registry.builtin l) name)) ∧
    ((∀ d ∈ c.definitions, ∃ x, r.create d = .ok x) → ∃ built : List (Registry.Built r),
      built.map (·.definition) = c.definitions ∧ ∃ t, c.tagger r = .ok t ∧ ∀ kind, t.extractors kind =
        built.flatMap fun b => List.replicate (b.kinds.count kind) b.extractor) := by
  intro ts r
  have hts : ts = RegistryTables.ofRegistry (Registry.after calls) := RegistryTables.after_eq calls
  refine ⟨RegistryTables.contains_kinds_after calls, fun d x h => ?_, ?_, Registry.type?_after calls l, fun h => ?_⟩
  · rw [hts, RegistryTables.create_ofRegistry] at h
    obtain ⟨b, rfl⟩ := Registry.Built.exists_of_create h
    rw [hts, RegistryTables.kindsOf_ofRegistry]
    exact ⟨b.type.kinds, b.kindsOf_eq⟩
  · rw [hts, RegistryTables.withBuiltin_ofRegistry]
    exact ⟨RegistryTables.create_ofRegistry r, RegistryTables.kindsOf_ofRegistry r⟩
  · obtain ⟨built, hbuilt⟩ : c.definitions ∈ Set.range (List.map (Registry.Built.definition (r := r))) := by
      rw [Set.range_list_map]
      intro d hd
      obtain ⟨x, hx⟩ := h d hd
      exact Registry.Built.exists_of_create hx
    refine ⟨built, hbuilt, _, Registry.Built.tagger_eq hbuilt, fun kind => ?_⟩
    rw [Registry.Built.extractors_foldl_attach]
    cases kind <;> rfl

/-- Extractors that report one tag for everything. -/
def constantType (tag : String) (kinds : List ScalarKind) : ExtractorType where
  build d := .ok ⟨d.name, .other, fun _ => .ok true, fun _ => .ok (some [.text tag], .null)⟩
  kinds := kinds

/-- What is registered before the registry is cleared is forgotten, and of two types with one name the second is passed
over. -/
def shadowingCalls : List RegistryCall :=
  [.register "range" (constantType "forgotten" [.string]), .clear,
    .register "pattern" (constantType "first" [.string, .int, .string]),
    .register "pattern" (constantType "second" [.float])]

/-- One definition without kinds, one with a kind given twice, and one of a type that comes with the library. -/
def shadowedConfig : Config :=
  ⟨[], [⟨.text "pattern", .text "a", [], []⟩, ⟨.text "pattern", .text "b", [.float, .int, .float], []⟩,
    ⟨.text "range", .text "c", [], []⟩], false, [], []⟩

theorem attached_as_declared_shadowed :
    let r := (Registry.after shadowingCalls).withBuiltin .search
    (∀ d ∈ shadowedConfig.definitions, ∃ x, r.create d = .ok x) ∧
    ∃ built : List (Registry.Built r), built.map (·.definition) = shadowedConfig.definitions ∧
      ∃ t, shadowedConfig.tagger r = .ok t ∧
        (∀ kind, t.extractors kind = built.flatMap fun b => List.replicate (b.kinds.count kind) b.extractor) ∧
        (t.extractors .string).map (·.name) = [.text "a", .text "a"] ∧
        (t.extractors .int).map (·.name) = [.text "a", .text "b", .text "c"] ∧
        (t.extractors .float).map (·.name) = [.text "b", .text "b", .text "c"] ∧
        (t.extractors .string).map (·.extract .null) = List.replicate 2 (.ok (some [.text "first"], .null)) := by
  intro r
  have hall : ∀ d ∈ shadowedConfig.definitions, ∃ x, r.create d = .ok x := by
    simp only [shadowedConfig, List.forall_mem_cons]
    exact ⟨⟨_, rfl⟩, ⟨_, rfl⟩, ⟨_, rfl⟩, by simp⟩
  obtain ⟨built, hbuilt, t, ht, hx⟩ := (attached_as_declared shadowingCalls .search shadowedConfig).2.2.2.2 hall
  refine ⟨hall, built, hbuilt, t, ht, hx, ?_⟩
  cases ht
  exact ⟨rfl, rfl, rfl, rfl⟩

end Config
end TagRules
