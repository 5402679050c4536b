import TagRules.Proofs.Field.Index
import TagRules.Proofs.Tagging.Exclusion
import TagRules.Proofs.Tagging.Leaves

/-!
Which tags a field keeps. What extractors find is kept by name, so of the extractors with one name that accept a value
only the last leaves its tags. Where the names differ, no tag is lost.
-/
namespace TagRules
namespace Extractor

/-- The extractor accepts the value and finds the tag in it. -/
def finds (x : Extractor) (v tag : Value) : Bool := (x.finding? v).any (·.tags.contains tag)

/-- One of some extractors finds the tag in the value, and none behind it that has its name accepts the value. -/
def FoundLast (xs : List Extractor) (v tag : Value) : Prop :=
  ∃ front x back, xs = front ++ x :: back ∧ x.finds v tag ∧ ∀ y ∈ back, y.name == x.name → y.finding? v = none

/-- Where names differ, every extractor is the last of its name. -/
theorem foundLast_iff_of_pairwise {xs : List Extractor} (h : xs.Pairwise fun x y => ¬ x.name == y.name)
    (v tag : Value) : FoundLast xs v tag ↔ ∃ x ∈ xs, x.finds v tag := by
  constructor
  · rintro ⟨front, x, back, rfl, hx, -⟩
    exact ⟨x, by simp, hx⟩
  · rintro ⟨x, hm, hx⟩
    obtain ⟨front, back, rfl⟩ := List.append_of_mem hm
    refine ⟨front, x, back, rfl, hx, fun y hy hn => ?_⟩
    have hxb := (List.pairwise_append.1 h).2.1
    exact absurd (BEq.symm hn) ((List.pairwise_cons.1 hxb).1 y hy)

/-- What some extractors find in a value, kept by name. -/
def kept (xs : List Extractor) (v : Value) : List (Value × Findings) :=
  Entries.ofList (xs.filterMap fun x => x.entry? v)

lemma get?_entries (xs : List Extractor) (v name : Value) : Entries.get? (xs.filterMap fun x => x.entry? v) name =
    xs.findSome? fun x => if x.name == name then x.finding? v else none := by
  induction xs with
  | nil => rfl
  | cons x xs ih =>
    rw [List.filterMap_cons, List.findSome?_cons, entry?, ← ih]
    cases x.finding? v with
    | none => simp
    | some found =>
      simp only [Option.map_some, Entries.get?_cons]
      cases x.name == name <;> rfl

/-- What is kept under a name is what the last extractor of that name that accepts the value has found. -/
lemma get?_kept (xs : List Extractor) (v name : Value) : Entries.get? (kept xs v) name =
    xs.reverse.findSome? fun x => if x.name == name then x.finding? v else none := by
  rw [kept, Entries.get?_ofList, ← List.filterMap_reverse, get?_entries]

theorem any_kept (xs : List Extractor) (v tag : Value) :
    (kept xs v).any (·.2.tags.contains tag) = true ↔ FoundLast xs v tag := by
  rw [List.any_eq_true]
  constructor
  · rintro ⟨⟨name, found⟩, hm, ht⟩
    obtain ⟨k, hk⟩ : ∃ k, Entries.get? (kept xs v) k = some found :=
      (Entries.apart_ofList _).exists_get?_iff.2 ⟨name, hm⟩
    rw [get?_kept, List.findSome?_eq_some_iff] at hk
    obtain ⟨back, x, front, hxs, hx, hn⟩ := hk
    obtain ⟨hxk, hx⟩ : x.name == k ∧ x.finding? v = some found := by simpa using hx
    refine ⟨front.reverse, x, back.reverse, ?_, by simp [finds, hx, ht], fun y hy hyx => ?_⟩
    · rw [← List.reverse_reverse xs, hxs]
      simp
    · simpa [BEq.trans hyx hxk] using hn y (List.mem_reverse.1 hy)
  · rintro ⟨front, x, back, rfl, hx, hn⟩
    obtain ⟨found, hf, ht⟩ : ∃ found, x.finding? v = some found ∧ found.tags.contains tag := by
      simpa [finds, Option.any_eq_true] using hx
    have hk : Entries.get? (kept (front ++ x :: back) v) x.name = some found := by
      rw [get?_kept, List.findSome?_eq_some_iff]
      refine ⟨back.reverse, x, front.reverse, by simp, by simp [hf], fun y hy => ?_⟩
      split
      next hyx => exact hn y (List.mem_reverse.1 hy) hyx
      next => rfl
    obtain ⟨name, hm⟩ := (Entries.apart_ofList _).exists_get?_iff.1 ⟨x.name, hk⟩
    exact ⟨_, hm, ht⟩

end Extractor
namespace Field

/-- A path is listed for a tag when it is the path of a field that has the tag. -/
lemma mem_index {fields : List Field} {tag : Value} {path : String} :
    (∃ paths, Entries.get? (index fields) tag = some paths ∧ path ∈ paths) ↔
      ∃ f ∈ fields, f.tags.contains tag ∧ f.name = path := by
  rw [get?_index]
  split
  next h => simp [and_assoc]
  next h => simpa using fun f hf ht => absurd (List.any_eq_true.2 ⟨f, hf, ht⟩) h

end Field

/-- A plain text, as the only leaf of a document. -/
def Leaf.ofText (text : String) : Leaf := ⟨[], .string, .text text⟩

namespace Tagger

variable (t : Tagger)

/-- Tagging some data is tagging its leaves. -/
lemma fst_tagObject_eq_tagEach (data : Value) (s : Selection) :
    (t.tagObject data s).1 = t.tagEach s "" data.leaves := by
  rw [fst_tagObject, ← result_visit, Progress.result]
  cases (t.visit s "" data).failure <;> rfl

/-- The leaves of some data at selected paths. -/
def selected (data : Value) (s : Selection) : List Leaf := data.leaves.filter fun l => s.admits l.path

lemma fst_tagObject_eq_ok (data : Value) (s : Selection) {fields : List Field} : (t.tagObject data s).1 = .ok fields ↔
    (∀ l ∈ selected data s, t.error? "" l = none) ∧ (selected data s).map (t.field "") = fields := by
  have h : (t.tagObject data s).1 =
      okUnless ((selected data s).findSome? (t.error? "")) ((selected data s).map (t.field "")) := by
    rw [fst_tagObject_eq_tagEach]
    exact mapM_eq_okUnless (fun _ => rfl) _
  rw [h, okUnless_eq_ok, List.findSome?_eq_none_iff]

lemma tagText_eq (text : String) :
    t.tagText text = okUnless (t.error? "" (.ofText text)) (t.field "" (.ofText text)).results :=
  Extractor.runAll_eq _ _ _ _

lemma contains_tags_field (path : String) (l : Leaf) (tag : Value) :
    (t.field path l).tags.contains tag = true ↔ Extractor.FoundLast (t.extractors l.kind) l.value tag := by
  rw [Field.contains_tags]
  exact Extractor.any_kept _ _ _

variable {t} in
/-- A tag of a field was found by one of the extractors for its scalar. -/
lemma exists_finding_of_mem_tags {path : String} {l : Leaf} {tag : Value} (h : tag ∈ (t.field path l).tags) :
    ∃ x ∈ t.extractors l.kind, ∃ found, x.finding? l.value = some found ∧ tag ∈ found.tags := by
  obtain ⟨⟨k, found⟩, hr, ht⟩ := List.mem_flatMap.1 (mem_of_mem_distinct h)
  obtain ⟨k', hk⟩ := Entries.exists_mem_of_mem_ofList hr
  obtain ⟨x, hx, he⟩ := List.mem_filterMap.1 hk
  obtain ⟨found', hf, he⟩ := Option.map_eq_some_iff.1 he
  cases he
  exact ⟨x, hx, found, hf, ht⟩

/-- A field has the tags that an extractor of its kind finds in it, but for those of an extractor with another one of
its name behind it that accepts the value; the index lists its path for the same tags, and a plain text has tags by the
same rule. With names that differ, these are all tags that are found. -/
theorem tags_of_last_found (data : Value) (s : Selection) :
    let kept := data.leaves.filter fun l => s.admits l.path
    let fields := kept.map (t.field "")
    (t.tagObject data s).1 = okUnless (kept.findSome? (t.error? "")) fields ∧
    (∀ l tag, (t.field "" l).tags.contains tag = true ↔ Extractor.FoundLast (t.extractors l.kind) l.value tag) ∧
    (∀ tag path, (∃ paths, Entries.get? (Field.index fields) tag = some paths ∧ path ∈ paths) ↔
      ∃ l ∈ kept, Extractor.FoundLast (t.extractors l.kind) l.value tag ∧ l.path = path) ∧
    (∀ text, ∃ results, t.tagText text = okUnless (t.error? "" (.ofText text)) results ∧
      ∀ tag, (textTags results).contains tag = true ↔ Extractor.FoundLast t.strings (.text text) tag) ∧
    ∀ (xs : List Extractor) (v tag : Value), (xs.Pairwise fun x y => ¬ x.name == y.name) →
      (Extractor.FoundLast xs v tag ↔ ∃ x ∈ xs, x.finds v tag) := by
  intro kept fields
  refine ⟨?_, t.contains_tags_field "", fun tag path => ?_, fun text => ?_,
    fun xs v tag h => Extractor.foundLast_iff_of_pairwise h v tag⟩
  · rw [fst_tagObject_eq_tagEach]
    exact mapM_eq_okUnless (fun _ => rfl) kept
  · rw [Field.mem_index]
    simp only [fields, List.mem_map, exists_exists_and_eq_and, contains_tags_field]
    rfl
  · exact ⟨_, t.tagText_eq text, t.contains_tags_field "" (.ofText text)⟩

/-- The tags of two ranges with names of their own are both there. -/
theorem tags_of_last_found_named :
    let xs := [RangeTagger.extractor ⟨[(.text "small", ⟨none, some (.int 9)⟩)]⟩ (.text "upper"),
      RangeTagger.extractor ⟨[(.text "positive", ⟨some (.int 1), none⟩)]⟩ (.text "lower")]
    (xs.Pairwise fun x y => ¬ x.name == y.name) ∧ (∃ x ∈ xs, x.finds (.int 5) (.text "small")) ∧
      Extractor.FoundLast xs (.int 5) (.text "small") := by
  intro xs
  have hp : xs.Pairwise fun x y => ¬ x.name == y.name := by simp [xs, RangeTagger.extractor]
  have hx : ∃ x ∈ xs, x.finds (.int 5) (.text "small") := ⟨_, List.mem_cons_self, rfl⟩
  obtain ⟨-, -, -, -, h⟩ := (Tagger.mk [] xs []).tags_of_last_found (.int 5) .everything
  exact ⟨hp, hx, (h xs _ _ hp).2 hx⟩

/-- Two declared ranges without names of their own. -/
def unnamedRanges : Value :=
  let range (tag bound : String) (n : Int) := Value.map [(.text "type", .text "range"),
    (.text "params", .map [(.text "tags", .map [(.text tag, .map [(.text bound, .int n)])])])]
  .map [(.text "extractors", .list [range "small" "max" 9, range "positive" "min" 1])]

/-- Both are called by their type, so that the second takes the place of the first. -/
theorem small_lost_of_unnamedRanges :
    ∃ c t f, Config.ofValue unnamedRanges = .ok c ∧ c.tagger (Registry.withBuiltin [] .search) = .ok t ∧
      (∃ x ∈ t.ints, x.finds (.int 5) (.text "small")) ∧ (t.tagObject (.int 5) .everything).1 = .ok [f] ∧
      f.tags.contains (.text "small") = false ∧ Entries.get? (Field.index [f]) (.text "small") = none :=
  ⟨_, _, ⟨"", [(.text "range", ⟨[.text "positive"], .null⟩)]⟩, rfl, rfl, ⟨_, List.mem_cons_self, rfl⟩, rfl, rfl, rfl⟩

end Tagger
end TagRules
