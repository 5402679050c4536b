import TagRules.Proofs.Config.Reported
import TagRules.Proofs.Entries

/-!
Which tags the patterns give to a text, and why. The patterns of a mapping are laid out in one list and brought together
again by tag whenever a text is searched. So a text has the tags with a pattern that is found in it, as they are
declared, and with each tag come those of its patterns that are found. What is wrong with a mapping shows where the
patterns are read: the first place at which something is wrong decides the error.
-/
namespace TagRules

/-- The patterns that a value lists: itself if it is a text, or its elements. -/
def Value.patterns? (given : Value) : Option (List Value) :=
  match given.untied with
  | .text source => some [.text source]
  | .list ps | .tuple ps => some ps
  | _ => none

namespace PatternLanguage

/-- The value is a text that can be compiled. -/
def IsPattern (l : PatternLanguage) (ignoreCase : Bool) (given : Value) : Prop :=
  ∃ source found, given = .text source ∧ l.compile ignoreCase source = .ok found

/-- Whether a pattern is found in a text. -/
def finds (l : PatternLanguage) (ignoreCase : Bool) (s : String) (given : Value) : Bool :=
  given.text?.any fun source => (l.compile ignoreCase source).toOption.any fun found => found s

lemma exists_text_of_finds {l : PatternLanguage} {ignoreCase : Bool} {s : String} {given : Value}
    (h : l.finds ignoreCase s given = true) : ∃ source, given = .text source := by
  cases given with
  | text source => exact ⟨source, rfl⟩
  | _ => cases h

end PatternLanguage

/-- A place in a mapping from tags to patterns: a pattern of a tag, or a tag with a value that lists none. -/
inductive PatternPlace
  | pattern (tag given : Value)
  | unlisted (tag : Value)

namespace PatternPlace

/-- The places of an entry, in their order. -/
def ofEntry (e : Value × Value) : List PatternPlace :=
  match e.2.patterns? with
  | some ps => ps.map (.pattern e.1)
  | none => [.unlisted e.1]

/-- What is wrong at a place. -/
def fault? (l : PatternLanguage) (ignoreCase : Bool) : PatternPlace → Option DefinitionError
  | .pattern tag (.text source) =>
    match l.compile ignoreCase source with
    | .ok _ => none
    | .error e => some (.badPattern source tag e)
  | .pattern tag given => some (.patternNotText given tag)
  | .unlisted tag => some (.patternsNotList tag)

variable {l : PatternLanguage} {ignoreCase : Bool}

lemma fault?_pattern_eq_none {tag given : Value} :
    (pattern tag given).fault? l ignoreCase = none ↔ l.IsPattern ignoreCase given := by
  cases given with
  | text source =>
    cases h : l.compile ignoreCase source <;> simp [fault?, PatternLanguage.IsPattern, h]
  | _ => simp [fault?, PatternLanguage.IsPattern]

lemma findSome?_ofEntry_eq_none {e : Value × Value} : (ofEntry e).findSome? (·.fault? l ignoreCase) = none ↔
    ∃ ps, e.2.patterns? = some ps ∧ ∀ p ∈ ps, l.IsPattern ignoreCase p := by
  unfold ofEntry
  split
  next ps hps => simp [List.findSome?_map, List.findSome?_eq_none_iff, fault?_pattern_eq_none, hps]
  next hps => simp [fault?, hps]

/-- Something is wrong with a value that lists no patterns, and with a pattern that is none. -/
lemma exists_fault_iff {es : List (Value × Value)} :
    (∃ e, (es.flatMap ofEntry).findSome? (·.fault? l ignoreCase) = some e) ↔ ∃ entry ∈ es,
      entry.2.patterns? = none ∨ ∃ ps, entry.2.patterns? = some ps ∧ ∃ p ∈ ps, ¬ l.IsPattern ignoreCase p := by
  rw [← Option.ne_none_iff_exists', findSome?_flatMap, Ne, List.findSome?_eq_none_iff]
  simp only [findSome?_ofEntry_eq_none, not_forall, exists_prop]
  refine exists_congr fun entry => and_congr_right fun _ => ?_
  cases entry.2.patterns? <;> simp

end PatternPlace
namespace PatternTagger

variable {l : PatternLanguage} {ignoreCase : Bool}

/-- The pattern that is made of a value. -/
def patternOf (l : PatternLanguage) (ignoreCase : Bool) (tag given : Value) : TagPattern :=
  ⟨tag, given.text?.getD "", fun s => l.finds ignoreCase s given⟩

/-- The patterns of a mapping, each with its tag. -/
def laidOut (es : List (Value × Value)) : List (Value × Value) :=
  es.flatMap fun e => (e.2.patterns?.getD []).map (Prod.mk e.1)

/-- The tags of a mapping with a pattern that is found in a text, and these patterns. -/
def foundByTag (l : PatternLanguage) (ignoreCase : Bool) (s : String) (es : List (Value × Value)) :
    List (Value × List Value) :=
  (es.map fun e => (e.1, (e.2.patterns?.getD []).filter (l.finds ignoreCase s))).filter (!·.2.isEmpty)

lemma readPattern_eq (l : PatternLanguage) (ignoreCase : Bool) (tag given : Value) :
    readPattern l ignoreCase tag given =
      okUnless ((PatternPlace.pattern tag given).fault? l ignoreCase) (patternOf l ignoreCase tag given) := by
  cases given with
  | text source =>
    cases h : l.compile ignoreCase source <;>
      simp [readPattern, PatternPlace.fault?, patternOf, PatternLanguage.finds, Value.text?, okUnless, h,
        Except.toOption]
  | _ => rfl

lemma readPatterns_eq (l : PatternLanguage) (ignoreCase : Bool) (e : Value × Value) :
    readPatterns l ignoreCase e.1 e.2 = okUnless ((PatternPlace.ofEntry e).findSome? (·.fault? l ignoreCase))
      ((e.2.patterns?.getD []).map (patternOf l ignoreCase e.1)) := by
  have hlist (ps : List Value) : ps.mapM (readPattern l ignoreCase e.1) =
      okUnless ((ps.map (.pattern e.1)).findSome? (PatternPlace.fault? l ignoreCase))
        (ps.map (patternOf l ignoreCase e.1)) := by
    rw [List.findSome?_map]
    exact mapM_eq_okUnless (readPattern_eq l ignoreCase e.1) ps
  unfold readPatterns PatternPlace.ofEntry Value.patterns?
  cases e.2.untied with
  | text source =>
    have h := hlist [.text source]
    rw [List.mapM_cons] at h
    exact h
  | list ps => exact hlist ps
  | tuple ps => exact hlist ps
  | _ => rfl

lemma ofValue_eq {tags : Value} {es : List (Value × Value)} (he : tags.entries? = some es) :
    ofValue l ignoreCase tags = okUnless ((es.flatMap PatternPlace.ofEntry).findSome? (·.fault? l ignoreCase))
      ⟨(laidOut es).map fun p => patternOf l ignoreCase p.1 p.2⟩ := by
  unfold ofValue
  rw [he]
  have hrows := mapM_eq_okUnless (readPatterns_eq l ignoreCase) es
  simp only [hrows, findSome?_flatMap]
  cases es.findSome? fun e => (PatternPlace.ofEntry e).findSome? (·.fault? l ignoreCase) with
  | some e => rfl
  | none =>
    rw [laidOut, List.map_flatMap, List.flatMap_def]
    simp only [List.map_map]
    rfl

lemma filter_laidOut (found : Value → Bool) (es : List (Value × Value)) : (laidOut es).filter (fun p => found p.2) =
    (es.map fun e => (e.1, (e.2.patterns?.getD []).filter found)).flatMap fun g => g.2.map (Prod.mk g.1) := by
  rw [laidOut, List.filter_flatMap, List.flatMap_map]
  simp only [List.filter_map]
  rfl

/-- What is found is brought together by tag, as it was declared. -/
lemma foundIn_laidOut {es : List (Value × Value)} (hd : Entries.Apart es) (s : String) :
    foundIn s ((laidOut es).map fun p => patternOf l ignoreCase p.1 p.2) = foundByTag l ignoreCase s es := by
  -- A pattern that is found is a text, and it is reported as that text.
  have htext : ((laidOut es).filter fun p => l.finds ignoreCase s p.2).map
      (fun p => (p.1, Value.text (p.2.text?.getD ""))) = (laidOut es).filter fun p => l.finds ignoreCase s p.2 := by
    refine (List.map_congr_left fun p hp => ?_).trans (List.map_id _)
    obtain ⟨source, hs⟩ := PatternLanguage.exists_text_of_finds (List.mem_filter.1 hp).2
    simp [Value.text?, Prod.ext_iff, hs]
  have hg : Entries.Apart (es.map fun e => (e.1, (e.2.patterns?.getD []).filter (l.finds ignoreCase s))) := by
    rw [Entries.Apart, List.map_map]
    exact hd
  rw [foundByTag, ← Entries.foldl_extend_flatMap hg, ← filter_laidOut, ← htext, List.foldl_map, foundIn,
    List.filter_map, List.foldl_map]
  rfl

lemma apart_foundByTag {es : List (Value × Value)} (hd : Entries.Apart es) (s : String) :
    Entries.Apart (foundByTag l ignoreCase s es) := by
  refine List.Pairwise.sublist (List.filter_sublist.map _) ?_
  rw [List.map_map]
  exact hd

/-- A mapping fails to be read exactly if some tag has a value that lists no patterns, or some pattern is none, and then
at the first of these places. Otherwise a text has the tags with a pattern that is found in it, in the order in which
they are declared and each once, and with it these patterns; anything else is not searched. -/
theorem reports_found_patterns {l : PatternLanguage} {ignoreCase : Bool} {tags : Value} {es : List (Value × Value)}
    (he : tags.entries? = some es) (hd : Entries.Apart es) :
    ((∃ e, ofValue l ignoreCase tags = .error e) ↔ ∃ entry ∈ es,
      entry.2.patterns? = none ∨ ∃ ps, entry.2.patterns? = some ps ∧ ∃ p ∈ ps, ¬ l.IsPattern ignoreCase p) ∧
    (∀ e, ofValue l ignoreCase tags = .error e ↔
      (es.flatMap PatternPlace.ofEntry).findSome? (·.fault? l ignoreCase) = some e) ∧
    (l.OnlyInvalid → FailsIn DefinitionError.IsReported (ofValue l ignoreCase tags)) ∧
    ∀ t, ofValue l ignoreCase tags = .ok t → ∀ name,
      (∀ s, let found := foundByTag l ignoreCase s es
        Entries.Apart found ∧ (t.extractor name).extract (.text s) =
          .ok (some (found.map (·.1)), .map (found.map fun row => (row.1, .list row.2)))) ∧
      ∀ v m, requireText v = .error m → (t.extractor name).extract v =
        if (laidOut es).isEmpty then .ok (some [], .map []) else .error (.mismatch m) := by
  have hfault (e : DefinitionError) : ofValue l ignoreCase tags = .error e ↔
      (es.flatMap PatternPlace.ofEntry).findSome? (·.fault? l ignoreCase) = some e := by
    rw [ofValue_eq he, okUnless_eq_error]
  refine ⟨?_, hfault, fun hl => failsIn_ofValue hl ignoreCase tags, fun t ht name => ?_⟩
  · simp only [hfault]
    exact PatternPlace.exists_fault_iff
  · rw [ofValue_eq he] at ht
    obtain ⟨-, rfl⟩ := okUnless_eq_ok.1 ht
    refine ⟨fun s => ⟨apart_foundByTag hd s, ?_⟩, fun v m hm => ?_⟩
    · rw [← foundIn_laidOut hd, extractor]
      cases laidOut es <;> rfl
    · simp only [extractor, hm]
      cases laidOut es <;> rfl

/-- A tag without patterns, one with a pattern twice, one that is a number, and one with a tuple of patterns. -/
def petPatterns : List (Value × Value) :=
  [(.text "wild", .list []), (.text "pet", .list [.text "dog", .text "c.t", .text "dog"]), (.int 7, .text "[0-9]"),
    (.text "bird", .tuple [.text "owl", .text "dog"])]

/-- A text that cannot be compiled, behind it an element that is no text, and a tag with nothing. -/
def strayPatterns : List (Value × Value) :=
  [(.text "pet", .text "dog"), (.text "open", .tuple [.text "ok", .text "(", .int 3]), (.text "none", .null)]

/-- A pattern that is declared twice is reported twice, and of three places at which something is wrong the first
counts. -/
theorem reports_found_patterns_pets :
    (∃ t, ofValue .search false (.map petPatterns) = .ok t ∧
      (t.extractor (.text "pattern")).extract (.text "cat and dog") = .ok (some [.text "pet", .text "bird"],
        .map [(.text "pet", .list [.text "dog", .text "c.t", .text "dog"]), (.text "bird", .list [.text "dog"])])) ∧
    ofValue .search false (.map strayPatterns) = .error (.badPattern "(" (.text "open")
      (.invalid "missing ), unterminated subpattern at position 0")) := by
  have hpets := @reports_found_patterns .search false (.map petPatterns) petPatterns rfl
    (by simp [Entries.Apart, petPatterns, Value.beq_iff, Value.key])
  have hstray := @reports_found_patterns .search false (.map strayPatterns) strayPatterns rfl
    (by simp [Entries.Apart, strayPatterns])
  constructor
  · have hdog : PatternLanguage.search.finds false "cat and dog" (.text "dog") = true := by decide +kernel
    have hcat : PatternLanguage.search.finds false "cat and dog" (.text "c.t") = true := by decide +kernel
    have howl : PatternLanguage.search.finds false "cat and dog" (.text "owl") = false := by decide +kernel
    have hdigit : PatternLanguage.search.finds false "cat and dog" (.text "[0-9]") = false := by decide +kernel
    obtain ⟨t, ht⟩ : ∃ t, ofValue .search false (.map petPatterns) = .ok t := exists_of_isOk (by decide +kernel)
    refine ⟨t, ht, ?_⟩
    rw [((hpets.2.2.2 t ht (.text "pattern")).1 "cat and dog").2]
    simp [foundByTag, petPatterns, Value.patterns?, Value.untied, hdog, hcat, howl, hdigit]
  · exact (hstray.2.1 _).2 rfl

end PatternTagger
end TagRules
