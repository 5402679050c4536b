import TagRules.Proofs.Field.Index

/-!
The index of a list of fields as the list turned inside out. Its keys are the tags that were found, in the order in which
they come up first, and under each stand the names of the fields in which it was found, one for each such field. The
index of one list behind another has the keys of the first, with what both have under them, and then those that are new.
-/
namespace TagRules
namespace Field

/-- The names of the fields that have a tag. -/
def namesWith (fields : List Field) (tag : Value) : List String :=
  (fields.filter (·.tags.contains tag)).map (·.name)

/-- A field adds the tags that are new to the keys. -/
lemma keys_enter (start : TagIndex) (f : Field) : (enter start f).map (·.1) = f.tags.foldl addNew (start.map (·.1)) := by
  have hk := Entries.keys_foldl_extend id (fun _ => [f.name]) f.tags start
  rwa [List.map_id] at hk

/-- The keys come in the order of the tags, field after field and extractor after extractor. -/
theorem keys_index (fields : List Field) :
    (index fields).map (·.1) = (fields.flatMap fun f => tagsOf f.results).eraseDups := by
  have hk (start : TagIndex) : (fields.foldl enter start).map (·.1) =
      (fields.flatMap fun f => f.tags).foldl addNew (start.map (·.1)) := by
    induction fields generalizing start with
    | nil => rfl
    | cons f fields ih => rw [List.foldl_cons, ih, keys_enter, List.flatMap_cons, List.foldl_append]
  rw [index, hk, List.map_nil, foldl_addNew_nil]
  simp only [tags, distinct_eq_eraseDups, eraseDups_flatMap]

lemma apart_index (fields : List Field) : Entries.Apart (index fields) := by
  rw [Entries.Apart, keys_index]
  exact pairwise_eraseDups _

lemma contains_index (fields : List Field) (tag : Value) :
    Entries.contains (index fields) tag = fields.any (·.tags.contains tag) := by
  rw [← Entries.isSome_get?, get?_index]
  cases fields.any (·.tags.contains tag) <;> rfl

lemma getD_get?_index (fields : List Field) (tag : Value) :
    (Entries.get? (index fields) tag).getD [] = namesWith fields tag := by
  rw [get?_index]
  split
  next => rfl
  next h =>
    rw [namesWith, List.filter_eq_nil_iff.2 (by simpa using h)]
    rfl

theorem index_eq (fields : List Field) : index fields =
    (fields.flatMap fun f => tagsOf f.results).eraseDups.map fun tag => (tag, namesWith fields tag) := by
  rw [← keys_index]
  refine (apart_index fields).eq_map_keys fun tag names h => ?_
  rw [← getD_get?_index, h]
  rfl

lemma namesWith_append (fields more : List Field) (tag : Value) :
    namesWith (fields ++ more) tag = namesWith fields tag ++ namesWith more tag := by
  simp [namesWith]

lemma namesWith_of_not_contains {fields : List Field} {tag : Value} (h : Entries.contains (index fields) tag = false) :
    namesWith fields tag = [] := by
  rw [← getD_get?_index, Entries.get?_of_not_contains (by simp [h])]
  rfl

/-- The index of one list behind another: what is new comes behind, and under a key that both have stands what the first
has and then what the second has. -/
theorem index_append (fields more : List Field) : index (fields ++ more) =
    (index fields).map (fun e => (e.1, e.2 ++ (Entries.get? (index more) e.1).getD [])) ++
      (index more).filter fun e => !Entries.contains (index fields) e.1 := by
  have hc (tag : Value) : (fields.flatMap fun f => tagsOf f.results).contains tag =
      Entries.contains (index fields) tag := by
    simp only [contains_index, tags, contains_distinct, List.contains_flatMap]
  have hp : ∀ v w : Value, v == w →
      (!Entries.contains (index fields) v) = !Entries.contains (index fields) w := by
    intro v w h
    rw [← hc, ← hc, List.contains_congr h]
  simp only [getD_get?_index]
  rw [index_eq (fields ++ more), List.flatMap_append, eraseDups_append, List.map_append]
  congr 1
  · rw [index_eq fields, List.map_map]
    exact List.map_congr_left fun tag _ => Prod.ext rfl (namesWith_append fields more tag)
  · rw [index_eq more, List.filter_map]
    simp only [hc, eraseDups_filter hp]
    refine List.map_congr_left fun tag h => Prod.ext rfl ?_
    rw [namesWith_append, namesWith_of_not_contains (by simpa using (List.mem_filter.1 h).2), List.nil_append]

/-- An index tells exactly which tags were found and where. A tag is a key if it was found in one of the fields; the keys
come in the order in which they were found first; under each are the names of the fields that have it, in their order and
one for each, however often it was found there; and the index of one list behind another puts together what both have
under each key. -/
theorem index_inverts (fields : List Field) :
    (∀ tag, Entries.contains (index fields) tag = true ↔
      ∃ f ∈ fields, ∃ r ∈ f.results, r.2.tags.contains tag = true) ∧
    (index fields).map (·.1) = (fields.flatMap fun f => f.results.flatMap (·.2.tags)).eraseDups ∧
    (∀ e ∈ index fields, e.2 = (fields.filter fun f => f.results.any (·.2.tags.contains e.1)).map (·.name)) ∧
    ∀ more, index (fields ++ more) =
      (index fields).map (fun e => (e.1, e.2 ++ (Entries.get? (index more) e.1).getD [])) ++
        (index more).filter fun e => !Entries.contains (index fields) e.1 := by
  refine ⟨fun tag => ?_, keys_index fields, fun e he => ?_, index_append fields⟩
  · rw [contains_index]
    simp [contains_tags]
  · rw [index_eq] at he
    obtain ⟨tag, -, rfl⟩ := List.mem_map.1 he
    simp only [namesWith, contains_tags]

/-- Two fields of one name, the first with a tag that is found three times in it. -/
example : index [⟨"a", [(.text "p", ⟨[.text "y", .text "x", .text "y"], .null⟩), (.text "q", ⟨[.text "y"], .null⟩)]⟩,
    ⟨"a", [(.text "p", ⟨[.text "x", .text "y"], .null⟩)]⟩] = [(.text "y", ["a", "a"]), (.text "x", ["a", "a"])] := rfl

end Field
end TagRules
