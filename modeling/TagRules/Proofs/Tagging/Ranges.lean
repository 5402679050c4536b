import TagRules.Extractor.Range
import TagRules.Proofs.Number.Order
import TagRules.Proofs.Tagging.Lasting

/-!
Which tags the ranges give to a number. A range has the numbers between its bounds, both included, in the order of the
extended real line; so a field with a number has the tags of these ranges, in the order in which they are declared, and
what is no number has none.
-/
namespace TagRules

/-- The number has a value, and it is not outside the bounds that there are. -/
def Number.LiesBetween (low high : Option Number) (x : Number) : Prop :=
  ∃ u, x.extended? = some u ∧ (∀ l ∈ low, ∃ a, l.extended? = some a ∧ a ≤ u) ∧
    ∀ h ∈ high, ∃ b, h.extended? = some b ∧ u ≤ b

/-- The bound that a range gives under a key, as it is written; null gives none, nor does a range that is null. -/
def Value.bound? (given : Value) (key : String) : Option Number :=
  (Entries.get? (given.entries?.getD []) (.text key)).bind Value.number?

namespace ValueRange

lemma admits_iff {low high : Option Number} {x : Number} {u : EReal} (hx : x.extended? = some u)
    (hl : ∀ l ∈ low, l.extended? ≠ none) (hh : ∀ h ∈ high, h.extended? ≠ none) :
    admits low high x = true ↔ x.LiesBetween low high := by
  have hlow : (low.any fun l => x.lt l) = false ↔ ∀ l ∈ low, ∃ a, l.extended? = some a ∧ a ≤ u := by
    cases low with
    | none => simp
    | some l =>
      obtain ⟨a, ha⟩ := Option.ne_none_iff_exists'.1 (hl l rfl)
      simp [ha, ← not_lt, ← Number.lt_iff hx ha]
  have hhigh : (high.any fun h => h.lt x) = false ↔ ∀ h ∈ high, ∃ b, h.extended? = some b ∧ u ≤ b := by
    cases high with
    | none => simp
    | some h =>
      obtain ⟨b, hb⟩ := Option.ne_none_iff_exists'.1 (hh h rfl)
      simp [hb, ← not_lt, ← Number.lt_iff hb hx]
  rw [admits, Bool.and_eq_true, Bool.not_eq_true', Bool.not_eq_true', hlow, hhigh]
  simp [Number.LiesBetween, hx]

/-- The bounds that a range has are these numbers. -/
structure HasBounds (r : ValueRange) (low high : Option Number) : Prop where
  min : r.min.map Value.number? = low.map some
  max : r.max.map Value.number? = high.map some

lemma HasBounds.contains {r : ValueRange} {low high : Option Number} (h : r.HasBounds low high) {v : Value}
    {x : Number} (hv : v.number? = some x) : r.contains v = .ok (admits low high x) := by
  obtain ⟨min, max⟩ := r
  obtain ⟨hmin, hmax⟩ := h
  cases low <;> cases high <;> simp only [Option.map_none, Option.map_some, Option.map_eq_none_iff,
    Option.map_eq_some_iff] at hmin hmax
  case none.none =>
    subst hmin hmax
    rfl
  case none.some z =>
    obtain ⟨b, rfl, hb⟩ := hmax
    subst hmin
    simp only [ValueRange.contains, Value.isAbove_of_number? hv hb, admits, Option.any_none, Option.any_some]
    cases z.lt x <;> rfl
  case some.none y =>
    obtain ⟨a, rfl, ha⟩ := hmin
    subst hmax
    simp only [ValueRange.contains, Value.isBelow_of_number? hv ha, admits, Option.any_none, Option.any_some]
    cases x.lt y <;> rfl
  case some.some y z =>
    obtain ⟨a, rfl, ha⟩ := hmin
    obtain ⟨b, rfl, hb⟩ := hmax
    exact contains_of_number? hv ha hb

end ValueRange
namespace RangeTagger

lemma map_number?_of_readBound {tag : Value} {bounds : List (Value × Value)} {key : String} {bound : Option Value}
    (h : readBound tag bounds key = .ok bound) :
    bound.map Value.number? = ((Entries.get? bounds (.text key)).bind Value.number?).map some := by
  unfold readBound at h
  split at h <;> cases h <;> simp [*, Value.number?]

lemma hasBounds_of_readRange {tag given : Value} {range : ValueRange} (h : readRange tag given = .ok range) :
    range.HasBounds (given.bound? "min") (given.bound? "max") := by
  unfold readRange at h
  extract_lets read at h
  have hread : ∀ bounds, given.entries?.getD [] = bounds → read bounds = .ok range →
      range.HasBounds (given.bound? "min") (given.bound? "max") := by
    rintro bounds rfl h
    simp only [read] at h
    split at h
    next =>
      obtain ⟨keys, -, h⟩ := ok_of_bind h
      cases h
    next =>
      obtain ⟨low, hlow, h⟩ := ok_of_bind h
      obtain ⟨high, hhigh, h⟩ := ok_of_bind h
      cases h
      exact ⟨map_number?_of_readBound hlow, map_number?_of_readBound hhigh⟩
  split at h
  next hg => exact hread [] (by simp [Value.entries?, hg]) h
  next bounds hg => exact hread bounds (by simp [Value.entries?, hg]) h
  next => cases h

/-- The tags of a number are those of the ranges that admit it, as they are declared. -/
lemma tagsOf_eq_of_number? {es : List (Value × Value)} {ranges : List (Value × ValueRange)}
    (hr : (es.mapM fun (tag, given) => do return (tag, ← readRange tag given)) = .ok ranges) {v : Value} {x : Number}
    (hv : v.number? = some x) : tagsOf v ranges =
      .ok ((es.filter fun e => ValueRange.admits (e.2.bound? "min") (e.2.bound? "max") x).map (·.1)) := by
  induction es generalizing ranges with
  | nil =>
    cases hr
    rfl
  | cons e es ih =>
    rw [List.mapM_cons] at hr
    obtain ⟨row, hrow, hr⟩ := ok_of_bind hr
    obtain ⟨rows, hrows, hr⟩ := ok_of_bind hr
    obtain ⟨range, hrange, hrow⟩ := ok_of_bind hrow
    cases hrow
    cases hr
    rw [tagsOf, (hasBounds_of_readRange hrange).contains hv, ih hrows, List.filter_cons]
    cases ValueRange.admits (e.2.bound? "min") (e.2.bound? "max") x <;> rfl

lemma accepts_eq_of_number? {v : Value} {x : Number} (hv : v.number? = some x) :
    accepts v = x.extended?.isSome := by
  cases v with
  | bool | int =>
    cases hv
    rfl
  | float y =>
    cases hv
    cases y <;> rfl
  | _ => cases hv

/-- The ranges, attached to integers and floats. -/
def tagger (r : RangeTagger) (name : Value) : Tagger :=
  (Tagger.empty.add (r.extractor name) .int).add (r.extractor name) .float

variable {r : RangeTagger} {name v : Value} {x : Number} {tags : List Value}

lemma failure?_extractor (hv : v.number? = some x) (ht : tagsOf v r.ranges = .ok tags) :
    (r.extractor name).failure? v = none := by
  simp only [Extractor.failure?, extractor, accepts_eq_of_number? hv, ht]
  cases x.extended? <;> rfl

lemma finding?_extractor (hv : v.number? = some x) (ht : tagsOf v r.ranges = .ok tags) :
    (r.extractor name).finding? v = x.extended?.map fun _ => ⟨tags, .null⟩ := by
  simp only [Extractor.finding?, extractor, accepts_eq_of_number? hv, ht]
  cases x.extended? <;> rfl

lemma error?_extractor (hn : name.requireHashable = .ok ()) (hv : v.number? = some x)
    (ht : tagsOf v r.ranges = .ok tags) (path : String) : (r.extractor name).error? v path = none := by
  have hn' : (r.extractor name).name.requireHashable = .ok () := hn
  simp only [Extractor.error?, failure?_extractor hv ht, finding?_extractor hv ht, hn']
  cases x.extended? <;> rfl

/-- An integer or a float meets the ranges, and nothing else does. -/
lemma extractors_tagger {l : Leaf} (h : l.value.shape = .scalar l.kind) :
    (r.tagger name).extractors l.kind = if l.value.number?.isSome then [r.extractor name] else [] := by
  obtain ⟨segments, kind, v⟩ := l
  cases v <;> cases h <;> rfl

lemma results_field_tagger {l : Leaf} (h : l.value.shape = .scalar l.kind) (hv : l.value.number? = some x)
    (ht : tagsOf l.value r.ranges = .ok tags) (path : String) :
    ((r.tagger name).field path l).results = (x.extended?.map fun _ => (name, ⟨tags, .null⟩)).toList := by
  rw [Tagger.field, extractors_tagger h, hv]
  simp only [Option.isSome_some, if_true, List.filterMap_cons, Extractor.entry?, finding?_extractor hv ht]
  cases x.extended? <;> rfl

/-- What a mapping declares, the ranges give to a number. -/
lemma tagsOf_eq_of_ofValue {tags : Value} {es : List (Value × Value)} (hr : ofValue tags = .ok r)
    (he : tags.entries? = some es) (hv : v.number? = some x) : tagsOf v r.ranges =
      .ok ((es.filter fun e => ValueRange.admits (e.2.bound? "min") (e.2.bound? "max") x).map (·.1)) := by
  unfold ofValue at hr
  rw [he] at hr
  obtain ⟨ranges, hranges, hr⟩ := ok_of_bind hr
  cases hr
  exact tagsOf_eq_of_number? hranges hv

open Classical in
lemma filter_admits {es : List (Value × Value)} {u : EReal}
    (hb : ∀ e ∈ es, ∀ key payload, e.2.bound? key ≠ some (.float (.nan payload))) (hu : x.extended? = some u) :
    (es.filter fun e => ValueRange.admits (e.2.bound? "min") (e.2.bound? "max") x) =
      es.filter fun e => x.LiesBetween (e.2.bound? "min") (e.2.bound? "max") := by
  have hv : ∀ e ∈ es, ∀ key, ∀ y ∈ e.2.bound? key, y.extended? ≠ none := by
    intro e hm key y hy hn
    obtain ⟨payload, rfl⟩ := Number.extended?_eq_none.1 hn
    exact hb e hm key payload hy
  refine List.filter_congr fun e hm => ?_
  rw [Bool.eq_iff_iff, decide_eq_true_iff]
  exact ValueRange.admits_iff hu (hv e hm "min") (hv e hm "max")

open Classical in
/-- Ranges on integers and floats fail on no data. A number in it has the tags of the ranges that it lies in by its
exact value, each once and as they are declared; for what is no number nothing is entered at all. -/
theorem tags_eq_ranges_around {tags : Value} {r : RangeTagger} {es : List (Value × Value)} {name : Value}
    (hr : ofValue tags = .ok r) (he : tags.entries? = some es) (hd : Entries.Apart es)
    (hb : ∀ e ∈ es, ∀ key payload, e.2.bound? key ≠ some (.float (.nan payload)))
    (hn : name.requireHashable = .ok ()) (data : Value) (s : Selection) :
    ((r.tagger name).tagObject data s).1 = .ok ((Tagger.selected data s).map ((r.tagger name).field "")) ∧
    ∀ l ∈ Tagger.selected data s, ∀ x, l.value.number? = some x →
      ((r.tagger name).field "" l).tags =
        (es.filter fun e => x.LiesBetween (e.2.bound? "min") (e.2.bound? "max")).map (·.1) ∧
      (((r.tagger name).field "" l).tags.Pairwise fun v w => ¬ v == w) ∧
      (x.extended? = none → ((r.tagger name).field "" l).results = []) := by
  have hshape : ∀ l ∈ Tagger.selected data s, l.value.shape = .scalar l.kind :=
    fun l hl => data.shape_of_mem_leaves l (List.mem_of_mem_filter hl)
  refine ⟨((r.tagger name).fst_tagObject_eq_ok data s).2 ⟨fun l hl => ?_, rfl⟩,
    fun l hl x hx => ⟨?_, pairwise_distinct _, fun hu => ?_⟩⟩
  · rw [Tagger.error?, extractors_tagger (hshape l hl)]
    split
    next h =>
      obtain ⟨x, hx⟩ := Option.isSome_iff_exists.1 h
      rw [List.findSome?_cons, error?_extractor hn hx (tagsOf_eq_of_ofValue hr he hx)]
      rfl
    next => rfl
  · rw [Field.tags, results_field_tagger (hshape l hl) hx (tagsOf_eq_of_ofValue hr he hx)]
    cases hu : x.extended? with
    | none =>
      have hout : ∀ e ∈ es, ¬ decide (x.LiesBetween (e.2.bound? "min") (e.2.bound? "max")) := by
        simp [Number.LiesBetween, hu]
      rw [List.filter_eq_nil_iff.2 hout]
      rfl
    | some u =>
      rw [filter_admits hb hu]
      simp only [Option.map_some, Option.toList_some, Field.tagsOf, List.flatMap_cons, List.flatMap_nil, List.append_nil]
      refine distinct_of_pairwise (List.Pairwise.sublist ?_ hd)
      exact List.filter_sublist.map _
  · rw [results_field_tagger (hshape l hl) hx (tagsOf_eq_of_ofValue hr he hx), hu]
    rfl

/-- What is up to a float, two to the power 53; zero, between integers; and a range without bounds. -/
def mixedRanges : List (Value × Value) :=
  [(.text "counted", .map [(.text "min", .null), (.text "max", .float (.finite false 4503599627370496 1))]),
    (.text "zero", .map [(.text "min", .int 0), (.text "max", .int 0)]), (.text "any", .null)]

open Classical in
/-- An integer that a float cannot hold lies above the float next to it, the other zero is zero, and what is no number
lies nowhere. -/
theorem tags_eq_ranges_around_mixed :
    let around (x : Number) :=
      (mixedRanges.filter fun e => x.LiesBetween (e.2.bound? "min") (e.2.bound? "max")).map (·.1)
    Entries.Apart mixedRanges ∧
    (∀ e ∈ mixedRanges, ∀ key payload, e.2.bound? key ≠ some (.float (.nan payload))) ∧
    (∃ r, ofValue (.map mixedRanges) = .ok r) ∧
    around (.int 9007199254740993) = [.text "any"] ∧
    around (.float (.zero true)) = [.text "counted", .text "zero", .text "any"] ∧
    around (.float (.nan 0)) = [] := by
  intro around
  have hd : Entries.Apart mixedRanges := by simp [Entries.Apart, mixedRanges]
  have hb : ∀ e ∈ mixedRanges, ∀ key payload, e.2.bound? key ≠ some (.float (.nan payload)) := by
    intro e he key payload hk
    obtain ⟨v, hv, hx⟩ := Option.bind_eq_some_iff.1 hk
    obtain ⟨e', he', rfl⟩ := Option.map_eq_some_iff.1 hv
    have hm := List.mem_of_find?_eq_some he'
    simp only [mixedRanges, List.mem_cons, List.not_mem_nil, or_false] at he
    obtain rfl | rfl | rfl := he
    · obtain rfl | hm := List.mem_cons.1 hm
      · cases hx
      · obtain rfl := List.mem_singleton.1 hm
        cases hx
    · obtain rfl | hm := List.mem_cons.1 hm
      · cases hx
      · obtain rfl := List.mem_singleton.1 hm
        cases hx
    · cases hm
  have hr : ofValue (.map mixedRanges) =
      .ok ⟨[(.text "counted", ⟨none, some (.float (.finite false 4503599627370496 1))⟩),
        (.text "zero", ⟨some (.int 0), some (.int 0)⟩), (.text "any", ⟨none, none⟩)]⟩ := rfl
  have hn : (Value.text "range").requireHashable = .ok () := rfl
  have h (v : Value) (kind : ScalarKind) (hv : v.leaves = [⟨[], kind, v⟩]) (x : Number) (hx : v.number? = some x) :=
    (tags_eq_ranges_around hr rfl hd hb hn v .everything).2 ⟨[], kind, v⟩
      (by rw [Tagger.selected, hv]; exact List.mem_singleton_self _) x hx
  refine ⟨hd, hb, ⟨_, hr⟩, ?_, ?_, ?_⟩
  · exact (h (.int 9007199254740993) .int rfl _ rfl).1.symm.trans rfl
  · exact (h (.float (.zero true)) .float rfl _ rfl).1.symm.trans rfl
  · exact (h (.float (.nan 0)) .float rfl _ rfl).1.symm.trans rfl

end RangeTagger
end TagRules
