import TagRules.Proofs.Tagging.Lasting
import Mathlib.Data.List.Nodup

/-!
Paths as addresses. The parts of a value have names, and a path is the names on the way to a scalar with dots between
them. Where no name is empty or has a dot in it, the names can be read off the path, and the parts of one value have
different names; so different scalars have different paths.
-/
namespace TagRules

/-- A name that a path can be cut back into. -/
def IsSegment (name : String) : Prop := name ≠ "" ∧ '.' ∉ name.toList

instance (name : String) : Decidable (IsSegment name) := inferInstanceAs (Decidable (_ ∧ _))

/-- What stands between the dots of a path. -/
def pathSegments (path : String) : List String :=
  if path = "" then [] else (path.toList.splitOn '.').map String.ofList

lemma indexName_injective : Function.Injective indexName := by
  intro i j h
  have ht : Nat.toDigits 10 i = Nat.toDigits 10 j := by
    have hl := congrArg String.toList h
    simpa [indexName, Nat.toString_eq_ofList_toDigits] using hl
  rw [← @Nat.ofDigitChars_ten_toDigits i, ht, Nat.ofDigitChars_ten_toDigits]

lemma isSegment_indexName (i : Nat) : IsSegment (indexName i) := by
  have hd : '.' ∉ Nat.toDigits 10 i :=
    fun h => absurd (Nat.isDigit_of_mem_toDigits (by decide) (by decide) h) (by decide)
  constructor
  · intro h
    have hl := congrArg String.toList h
    simp [indexName] at hl
  · simpa [indexName, Nat.toString_eq_ofList_toDigits] using hd

/-- The names on the way to a leaf can be read off its path. -/
lemma Leaf.pathSegments_path {l : Leaf} (h : ∀ name ∈ l.segments, IsSegment name) :
    pathSegments l.path = l.segments := by
  obtain ⟨segments, kind, v⟩ := l
  cases segments with
  | nil => rfl
  | cons name names =>
    have hn : name ≠ "" := (h name List.mem_cons_self).1
    have hl : (Leaf.path ⟨name :: names, kind, v⟩).toList = ['.'].intercalate ((name :: names).map String.toList) := by
      simp [Leaf.path, Leaf.pathFrom, dotted, hn]
    have hne : Leaf.path ⟨name :: names, kind, v⟩ ≠ "" := by
      intro he
      rw [he] at hl
      cases names <;> simp [List.intercalate, hn] at hl
    rw [pathSegments, if_neg hne, hl, List.splitOn_intercalate '.' _ (by simp), List.map_map]
    · simp [Function.comp_def]
    · simpa using fun n hn => (h n hn).2

namespace Value

/-- The names that data itself gives to parts: the fields of a record, and the keys of a mapping that are texts. -/
def names : Value → List String
  | .record _ _ fields => fields.map (·.1)
  | .map entries => entries.filterMap (·.1.text?)
  | _ => []

/-- The parts that tagging goes into, each with its name. -/
def parts : Value → List (String × Value)
  | .record _ _ fields => fields.filter fun f => !startsWith "_" f.1
  | .map entries => entries.filterMap fun e => e.1.text?.map fun name => (name, e.2)
  | .list xs | .tuple xs => xs.zipIdx.map fun x => (indexName x.2, x.1)
  | _ => []

/-- All names that are given are different from one another in one place, not empty and without a dot. -/
inductive HasPlainNames : Value → Prop
  | intro {v : Value} : v.names.Nodup → (∀ name ∈ v.names, IsSegment name) → (∀ p ∈ v.parts, HasPlainNames p.2) →
      HasPlainNames v

/-- Some names lead from a value to one in it. -/
inductive Leads : Value → List String → Value → Prop
  | here (v : Value) : Leads v [] v
  | part {v w u : Value} {name : String} {names : List String} : (name, w) ∈ v.parts → Leads w names u →
      Leads v (name :: names) u

lemma fieldLeaves_eq (fields : List (String × Value)) :
    fieldLeaves fields = (fields.filter fun f => !startsWith "_" f.1).flatMap fun p => p.2.leaves.map (.under p.1) := by
  induction fields with
  | nil => rfl
  | cons f rest ih =>
    obtain ⟨name, v⟩ := f
    rw [fieldLeaves, ih, List.filter_cons]
    cases startsWith "_" name <;> simp

lemma entryLeaves_eq (entries : List (Value × Value)) :
    entryLeaves entries = (entries.filterMap fun e => e.1.text?.map fun name => (name, e.2)).flatMap
      fun p => p.2.leaves.map (.under p.1) := by
  induction entries with
  | nil => rfl
  | cons e rest ih =>
    obtain ⟨key, v⟩ := e
    cases key with
    | text name =>
      rw [entryLeaves, ih]
      simp [text?]
    | _ =>
      rw [entryLeaves, ih]
      · simp [text?]
      · simp

lemma elementLeaves_eq (i : Nat) (xs : List Value) :
    elementLeaves i xs = ((xs.zipIdx i).map fun x => (indexName x.2, x.1)).flatMap
      fun p => p.2.leaves.map (.under p.1) := by
  induction xs generalizing i with
  | nil => rfl
  | cons x rest ih =>
    rw [elementLeaves, ih]
    simp

/-- The leaves of a value are the value itself, if it is a scalar, or else those of its parts. -/
lemma leaves_eq (v : Value) : v.leaves =
    match v.shape with
    | .scalar kind => [⟨[], kind, v⟩]
    | _ => v.parts.flatMap fun p => p.2.leaves.map (.under p.1) := by
  cases v with
  | record identity name fields => exact fieldLeaves_eq fields
  | map entries => exact entryLeaves_eq entries
  | list xs | tuple xs => exact elementLeaves_eq 0 xs
  | _ => rfl

variable {v u u' : Value} {l : Leaf} {path : List String}

lemma exists_of_mem_leaves (h : l ∈ v.leaves) : l = ⟨[], l.kind, v⟩ ∧ v.shape = .scalar l.kind ∨
    ∃ p ∈ v.parts, ∃ m ∈ p.2.leaves, l = m.under p.1 := by
  rw [leaves_eq] at h
  split at h
  next kind hk =>
    obtain rfl := List.mem_singleton.1 h
    exact .inl ⟨rfl, hk⟩
  next =>
    obtain ⟨p, hp, hl⟩ := List.mem_flatMap.1 h
    obtain ⟨m, hm, rfl⟩ := List.mem_map.1 hl
    exact .inr ⟨p, hp, m, hm, rfl⟩

/-- Elements of a list have different names, and other parts the names that are given. -/
lemma nodup_fst_parts (h : v.names.Nodup) : (v.parts.map (·.1)).Nodup := by
  cases v with
  | record identity name fields => exact h.sublist (List.filter_sublist.map _)
  | map entries =>
    rw [parts, List.map_filterMap]
    simpa [names, Function.comp_def] using h
  | list xs | tuple xs =>
    have hx : (xs.zipIdx.map fun x => (indexName x.2, x.1)).map (·.1) = (xs.zipIdx.map Prod.snd).map indexName := by
      rw [List.map_map, List.map_map]
      rfl
    rw [parts, hx, List.zipIdx_map_snd]
    exact (List.nodup_range').map indexName_injective
  | _ => exact .nil

lemma isSegment_of_mem_parts (h : ∀ name ∈ v.names, IsSegment name) {p : String × Value} (hp : p ∈ v.parts) :
    IsSegment p.1 := by
  cases v with
  | record identity name fields => exact h _ (List.mem_map_of_mem (List.mem_of_mem_filter hp))
  | map entries =>
    obtain ⟨e, he, hn⟩ := List.mem_filterMap.1 hp
    obtain ⟨name, ht, rfl⟩ := Option.map_eq_some_iff.1 hn
    exact h name (List.mem_filterMap.2 ⟨e, he, ht⟩)
  | list xs | tuple xs =>
    obtain ⟨x, -, rfl⟩ := List.mem_map.1 hp
    exact isSegment_indexName x.2
  | _ => cases hp

namespace HasPlainNames

lemma of_scalar {kind : ScalarKind} (h : v.shape = .scalar kind) : v.HasPlainNames := by
  have hn : v.names = [] ∧ v.parts = [] := by
    cases v with
    | text | int | float => exact ⟨rfl, rfl⟩
    | _ => cases h
  exact .intro (by simp [hn.1]) (by simp [hn.1]) (by simp [hn.2])

/-- The names on the way to a leaf lead to its value. -/
lemma of_mem_leaves (h : v.HasPlainNames) : ∀ l ∈ v.leaves,
    (∀ name ∈ l.segments, IsSegment name) ∧ v.Leads l.segments l.value := by
  induction h with
  | @intro v _ hs _ ih =>
    intro l hl
    obtain ⟨hv, -⟩ | ⟨p, hp, m, hm, rfl⟩ := exists_of_mem_leaves hl
    · rw [hv]
      exact ⟨by simp, .here v⟩
    · obtain ⟨hn, hlead⟩ := ih p hp m hm
      exact ⟨List.forall_mem_cons.2 ⟨isSegment_of_mem_parts hs hp, hn⟩, .part hp hlead⟩

lemma leads_unique (h : v.HasPlainNames) (hu : v.Leads path u) (hu' : v.Leads path u') : u = u' := by
  induction hu with
  | here =>
    cases hu'
    rfl
  | @part v w u name names hp _ ih =>
    obtain ⟨hn, -, hr⟩ := h
    cases hu' with
    | @part _ w' _ _ _ hp' hl' =>
      have hw : (name, w) = (name, w') := List.inj_on_of_nodup_map (nodup_fst_parts hn) hp hp' rfl
      obtain rfl : w = w' := (Prod.mk.inj hw).2
      exact ih (hr _ hp) hl'

/-- The leaves of one part are told from those of another by the name of the part. -/
lemma nodup_segments (h : v.HasPlainNames) : (v.leaves.map (·.segments)).Nodup := by
  induction h with
  | @intro v hn _ _ ih =>
    rw [leaves_eq]
    split
    · exact List.nodup_singleton _
    · rw [List.map_flatMap, List.nodup_flatMap]
      constructor
      · intro p hp
        rw [List.map_map]
        have hm : (p.2.leaves.map (·.segments)).map (p.1 :: ·) = p.2.leaves.map ((·.segments) ∘ Leaf.under p.1) := by
          simp [Leaf.under]
        rw [← hm]
        exact (ih p hp).map (List.cons_injective)
      · have hd := List.pairwise_map.1 (nodup_fst_parts hn)
        refine hd.imp fun {p q} hpq => ?_
        intro path hp hq
        obtain ⟨l, hl, rfl⟩ : ∃ l ∈ p.2.leaves, p.1 :: l.segments = path := by simpa [Leaf.under] using hp
        obtain ⟨m, hm, he⟩ : ∃ m ∈ q.2.leaves, q.1 :: m.segments = p.1 :: l.segments := by simpa [Leaf.under] using hq
        exact hpq (List.cons.inj he).1.symm

end HasPlainNames
end Value
namespace Tagger

/-- Where the names in some data are not empty and have no dot, a path is an address: each field has the names on the
way to its scalar between the dots of its path, these lead to no other value, no two fields have one path, and the index
lists none twice for a tag. -/
theorem paths_identify_leaves {t : Tagger} {data : Value} {s : Selection} {fields : List Field}
    (hd : data.HasPlainNames) (hf : (t.tagObject data s).1 = .ok fields) :
    (fields.map fun f => pathSegments f.name) = (selected data s).map (·.segments) ∧
    (∀ l ∈ selected data s, l.value.shape = .scalar l.kind ∧ ∀ w, data.Leads l.segments w ↔ w = l.value) ∧
    (fields.map (·.name)).Nodup ∧
    ∀ tag paths, Entries.get? (Field.index fields) tag = some paths → paths.Nodup := by
  obtain ⟨-, rfl⟩ := (t.fst_tagObject_eq_ok data s).1 hf
  have hleaf : ∀ l ∈ selected data s, l ∈ data.leaves := fun l hl => List.mem_of_mem_filter hl
  have hsegments : ((selected data s).map (t.field "")).map (fun f => pathSegments f.name) =
      (selected data s).map (·.segments) := by
    rw [List.map_map]
    exact List.map_congr_left fun l hl => Leaf.pathSegments_path (hd.of_mem_leaves l (hleaf l hl)).1
  have hnames : (((selected data s).map (t.field "")).map (·.name)).Nodup := by
    have hn : ((selected data s).map (·.segments)).Nodup := hd.nodup_segments.sublist (List.filter_sublist.map _)
    rw [← hsegments] at hn
    have hm : ((selected data s).map (t.field "")).map (fun f => pathSegments f.name) =
        (((selected data s).map (t.field "")).map (·.name)).map pathSegments :=
      (@List.map_map _ _ _ pathSegments Field.name _).symm
    rw [hm] at hn
    exact hn.of_map
  refine ⟨hsegments, fun l hl => ?_, hnames, fun tag paths hp => ?_⟩
  · obtain ⟨-, hlead⟩ := hd.of_mem_leaves l (hleaf l hl)
    refine ⟨data.shape_of_mem_leaves l (hleaf l hl), fun w => ⟨fun hw => hd.leads_unique hw hlead, ?_⟩⟩
    rintro rfl
    exact hlead
  · rw [Field.get?_index] at hp
    split at hp
    · obtain rfl := Option.some.inj hp
      exact hnames.sublist (List.filter_sublist.map _)
    · cases hp

/-- A key may look like the name of a list element, and private fields and what has other keys may stand beside. -/
theorem paths_identify_leaves_nested :
    let t := Tagger.empty.add (RangeTagger.extractor ⟨[(.text "digit", ⟨none, some (.int 9)⟩)]⟩ (.text "digits")) .int
    let inner := Value.map [(.text "index(1)", .record 0 "R" [("_i", .int 1), ("i", .int 4)])]
    let data := Value.map [(.text "index(1)", .int 12), (.int 0, .map []), (.text "a b", .list [.int 3, inner])]
    let s : Selection := ⟨["index", "a b.index(1)"], ["a b.index(0)"]⟩
    let fields : List Field := [⟨"index(1)", [(.text "digits", ⟨[], .null⟩)]⟩,
      ⟨"a b.index(1).index(1).i", [(.text "digits", ⟨[.text "digit"], .null⟩)]⟩]
    data.HasPlainNames ∧ (t.tagObject data s).1 = .ok fields ∧
    (fields.map fun f => pathSegments f.name) = (selected data s).map (·.segments) ∧
    (∀ l ∈ selected data s, l.value.shape = .scalar l.kind ∧ ∀ w, data.Leads l.segments w ↔ w = l.value) ∧
    (fields.map (·.name)).Nodup := by
  intro t inner data s fields
  have hr : (Value.record 0 "R" [("_i", .int 1), ("i", .int 4)]).HasPlainNames :=
    .intro (by decide) (by decide) (List.forall_mem_singleton.2 (.of_scalar rfl))
  have hi : inner.HasPlainNames := .intro (by decide) (by decide) (List.forall_mem_singleton.2 hr)
  have hl : (Value.list [.int 3, inner]).HasPlainNames :=
    .intro (by decide) (by decide) (List.forall_mem_cons.2 ⟨.of_scalar rfl, List.forall_mem_singleton.2 hi⟩)
  have hd : data.HasPlainNames :=
    .intro (by decide) (by decide) (List.forall_mem_cons.2 ⟨.of_scalar rfl, List.forall_mem_singleton.2 hl⟩)
  have hf : (t.tagObject data s).1 = .ok fields := rfl
  obtain ⟨hs, hl, hn, -⟩ := paths_identify_leaves hd hf
  exact ⟨hd, hf, hs, hl, hn⟩

end Tagger
end TagRules
