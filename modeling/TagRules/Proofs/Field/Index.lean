import TagRules.Field.Index
import TagRules.Proofs.Entries
import Mathlib.Data.List.Induction

/-!
The index of a list of fields. It has exactly the tags that some field reports, each with the names of the
fields that report it in their order; a reference is met by it when it is met by one of the fields.
-/
namespace TagRules

lemma Value.eq_text_of_beq {v : Value} {s : String} (h : (v == .text s) = true) : v = .text s := by
  rw [beq_iff] at h
  cases v with
  | text t => simpa [key] using h
  | float x =>
    simp only [key, Binary64.key] at h
    split at h <;> simp at h
  | moment d t =>
    simp only [key, TimeOfDay.key] at h
    split at h <;> simp at h
  | _ => simp [key, Day.key] at h

lemma distinct_eq_eraseDups (vs : List Value) : distinct vs = vs.eraseDups := foldl_addNew_nil vs

/-- Nothing is lost among the distinct values. -/
theorem contains_distinct (vs : List Value) (v : Value) : (distinct vs).contains v = vs.contains v := by
  rw [distinct_eq_eraseDups, contains_eraseDups]

lemma mem_of_mem_distinct {vs : List Value} {v : Value} (h : v ∈ distinct vs) : v ∈ vs := by
  rw [distinct_eq_eraseDups] at h
  exact eraseDups_subset vs h

theorem pairwise_distinct (vs : List Value) : (distinct vs).Pairwise fun v w => ¬ v == w := by
  rw [distinct_eq_eraseDups]
  exact pairwise_eraseDups vs

lemma distinct_of_pairwise {vs : List Value} (h : vs.Pairwise fun v w => ¬ v == w) : distinct vs = vs := by
  rw [distinct_eq_eraseDups, eraseDups_of_pairwise h]

namespace Field

/-- The field reports the tag that a reference names, and its path starts with the scope; any path starts with an
empty one. -/
def reports (f : Field) (r : Reference) : Bool := f.tags.contains (.text r.name) && startsWith r.scope f.name

lemma contains_tags (f : Field) (tag : Value) : f.tags.contains tag = f.results.any (·.2.tags.contains tag) := by
  rw [tags, contains_distinct, tagsOf, List.contains_flatMap]

lemma get?_extend_all (name : String) {tags : List Value} (h : tags.Pairwise fun v w => ¬ v == w)
    (index : TagIndex) (tag : Value) :
    Entries.get? (tags.foldl (fun index t => Entries.extend index t [name]) index) tag =
      if tags.contains tag then some ((Entries.get? index tag).getD [] ++ [name]) else Entries.get? index tag := by
  induction tags generalizing index with
  | nil => rfl
  | cons t rest ih =>
    obtain ⟨ht, hrest⟩ := List.pairwise_cons.1 h
    rw [List.foldl_cons, ih hrest, Entries.get?_extend, List.contains_cons, BEq.comm (a := tag)]
    by_cases htag : t == tag
    · have hn : rest.contains tag = false := by
        by_contra hc
        obtain ⟨w, hw, hb⟩ := List.contains_iff_exists_mem_beq.1 (by simpa using hc)
        exact ht w hw (BEq.trans htag hb)
      simp [htag, hn, Entries.get?_congr index htag]
    · simp [htag]

/-- A field is entered once under each tag that it reports. -/
theorem get?_enter (index : TagIndex) (f : Field) (tag : Value) :
    Entries.get? (enter index f) tag =
      if f.tags.contains tag then some ((Entries.get? index tag).getD [] ++ [f.name])
      else Entries.get? index tag :=
  get?_extend_all f.name (pairwise_distinct _) index tag

/-- What the index has under a tag. -/
theorem get?_index (fields : List Field) (tag : Value) :
    Entries.get? (index fields) tag =
      if fields.any (·.tags.contains tag) then some ((fields.filter (·.tags.contains tag)).map (·.name))
      else none := by
  induction fields using List.reverseRecOn with
  | nil => rfl
  | append_singleton fields f ih =>
    have hi : index (fields ++ [f]) = enter (index fields) f := by simp [index]
    rw [hi, get?_enter, ih]
    cases hf : f.tags.contains tag with
    | false => simp [hf]
    | true =>
      cases ha : fields.any (·.tags.contains tag) with
      | true => simp [hf, ha]
      | false =>
        have hn : fields.filter (·.tags.contains tag) = [] := by simpa using ha
        simp [hf, ha, hn]

end Field

/-- Only what is under a text can be looked up by its name. -/
lemma lookup_texts {α β : Type} (f : α → β) (es : List (Value × α)) (name : String) :
    (es.filterMap fun (tag, a) => tag.text?.map fun s => (s, f a)).lookup name =
      (Entries.get? es (.text name)).map f := by
  induction es with
  | nil => rfl
  | cons e rest ih =>
    obtain ⟨tag, a⟩ := e
    rw [Entries.get?_cons]
    cases ht : tag.text? with
    | none =>
      have hn : ¬ tag == .text name := by
        intro h
        rw [Value.eq_text_of_beq h] at ht
        cases ht
      rw [if_neg hn, ← ih]
      simp [ht]
    | some s =>
      have htag : tag = .text s := by
        cases tag <;> simp_all [Value.text?]
      subst htag
      rw [Value.text_beq_text]
      simp only [List.filterMap_cons, Value.text?, Option.map_some, List.lookup_cons]
      rw [BEq.comm (a := name)]
      cases s == name with
      | true => rfl
      | false => exact ih

lemma TagIndex.lookup_evidence (index : TagIndex) (name : String) :
    (TagIndex.evidence index).lookup name = (Entries.get? index (.text name)).map some :=
  lookup_texts some index name

lemma lookup_textEvidence (tags : List Value) (name : String) :
    (textEvidence tags).lookup name = if tags.contains (.text name) then some none else none := by
  have ht : textEvidence tags = (tags.map fun tag => (tag, ())).filterMap fun (tag, _) =>
      tag.text?.map fun s => (s, none) := by
    rw [List.filterMap_map]
    rfl
  rw [ht, lookup_texts (fun _ => none), Entries.get?_map_same]
  split <;> rfl

lemma startsWith_of_isEmpty {scope : String} (h : scope.isEmpty = true) (path : String) :
    startsWith scope path = true := by
  obtain rfl : scope = "" := by simpa using h
  rfl

/-- A reference is met by the index when one of the fields reports it. -/
theorem Field.meets_index (fields : List Field) (r : Reference) :
    (TagIndex.evidence (Field.index fields)).meets r = fields.any (·.reports r) := by
  have hr : fields.any (·.reports r) =
      ((fields.filter (·.tags.contains (.text r.name))).map (·.name)).any (startsWith r.scope) := by
    simp [List.any_filter, List.any_map, Function.comp_def, Field.reports]
  unfold Evidence.meets
  rw [TagIndex.lookup_evidence, Field.get?_index]
  cases ha : fields.any (·.tags.contains (.text r.name)) with
  | false =>
    have hn : fields.filter (·.tags.contains (.text r.name)) = [] := by simpa using ha
    rw [hr, hn]
    rfl
  | true =>
    rw [hr]
    cases hs : r.scope.isEmpty with
    | false => rfl
    | true =>
      have hne : fields.filter (·.tags.contains (.text r.name)) ≠ [] := by
        rw [ne_eq, List.filter_eq_nil_iff]
        simpa using ha
      obtain ⟨f, hf⟩ := List.exists_mem_of_ne_nil _ hne
      have := List.any_eq_true.2 ⟨f.name, List.mem_map_of_mem hf, startsWith_of_isEmpty hs f.name⟩
      rw [this]
      rfl

/-- A plain text meets the references without a scope to the tags that were found in it. -/
theorem meets_textEvidence (tags : List Value) (r : Reference) :
    (textEvidence tags).meets r = (r.scope.isEmpty && tags.contains (.text r.name)) := by
  unfold Evidence.meets
  rw [lookup_textEvidence]
  cases tags.contains (.text r.name) <;> simp

lemma startsWith_empty (scope : String) : startsWith scope "" = scope.isEmpty := by
  rw [Bool.eq_iff_iff, startsWith, List.isPrefixOf_iff_prefix]
  simp

end TagRules
