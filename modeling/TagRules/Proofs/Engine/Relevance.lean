import TagRules.Proofs.Engine.Scope

/-!
What evidence rules look at. Of the tags only those count that an engine shows, and of the paths under them only those
that start with one of the scopes that it shows; that a tag is there counts even where no path of it is left. So
evidence may be cut down to this before it is evaluated.
-/
namespace TagRules
namespace Evidence

/-- Evidence that is cut down to some tags, and under each of them to the paths under some scopes. A tag stays that has
no such path, be it with no paths or without a list of them. Where the paths stand, and how often, is left open. -/
structure IsPruned (tags scopes : List String) (evidence pruned : Evidence) : Prop where
  other : ∀ tag ∉ tags, pruned.lookup tag = none
  absent : ∀ tag, evidence.lookup tag = none → pruned.lookup tag = none
  kept : ∀ tag ∈ tags, ∀ paths, evidence.lookup tag = some paths → ∃ paths', pruned.lookup tag = some paths' ∧
    ∀ p, p ∈ paths'.getD [] ↔ p ∈ paths.getD [] ∧ ∃ scope ∈ scopes, startsWith scope p = true

/-- The paths under one of some scopes. -/
def underAny (scopes paths : List String) : List String := paths.filter fun p => scopes.any fun scope => startsWith scope p

/-- Some evidence without other tags, and without paths under none of the scopes. -/
def pruned (tags scopes : List String) (evidence : Evidence) : Evidence :=
  (evidence.filter fun e => tags.contains e.1).map fun e => (e.1, e.2.map (underAny scopes))

variable {tags scopes : List String} {evidence : Evidence}

lemma mem_underAny {paths : List String} {p : String} :
    p ∈ underAny scopes paths ↔ p ∈ paths ∧ ∃ scope ∈ scopes, startsWith scope p = true := by
  simp [underAny]

lemma lookup_filter_fst {α : Type} (f : String → Bool) (es : List (String × α)) (k : String) :
    (es.filter fun e => f e.1).lookup k = if f k then es.lookup k else none := by
  induction es with
  | nil => simp
  | cons e es ih =>
    obtain ⟨k', a⟩ := e
    rw [List.filter_cons]
    by_cases hk : k = k'
    · subst hk
      cases hf : f k <;> simp [hf, ih]
    · have hb : (k == k') = false := beq_eq_false_iff_ne.2 hk
      cases hf : f k' <;> simp [List.lookup_cons, hb, ih]

lemma lookup_map_snd {α β : Type} (g : α → β) (es : List (String × α)) (k : String) :
    (es.map fun e => (e.1, g e.2)).lookup k = (es.lookup k).map g := by
  induction es with
  | nil => rfl
  | cons e es ih =>
    obtain ⟨k', a⟩ := e
    rw [List.map_cons, List.lookup_cons, List.lookup_cons, ih]
    cases k == k' <;> rfl

/-- Each tag keeps its paths under the scopes. -/
lemma lookup_pruned (tags scopes : List String) (evidence : Evidence) (tag : String) :
    (evidence.pruned tags scopes).lookup tag =
      if tags.contains tag then (evidence.lookup tag).map (Option.map (underAny scopes)) else none := by
  rw [pruned, lookup_map_snd, lookup_filter_fst]
  split <;> rfl

/-- Evidence can be cut down in this way. -/
theorem isPruned_pruned (tags scopes : List String) (evidence : Evidence) :
    evidence.IsPruned tags scopes (evidence.pruned tags scopes) where
  other tag ht := by simp [lookup_pruned, ht]
  absent tag ha := by simp [lookup_pruned, ha]
  kept tag ht paths hp := by
    refine ⟨paths.map (underAny scopes), by simp [lookup_pruned, ht, hp], fun p => ?_⟩
    cases paths <;> simp [mem_underAny]

/-- A reference to one of the tags, under one of the scopes if it has one, is met as before. -/
theorem IsPruned.meets_eq {pruned : Evidence} (h : evidence.IsPruned tags scopes pruned) {r : Reference}
    (ht : r.name ∈ tags) (hs : r.scope ≠ "" → r.scope ∈ scopes) : pruned.meets r = evidence.meets r := by
  unfold meets
  cases hl : evidence.lookup r.name with
  | none => rw [h.absent _ hl]
  | some paths =>
    obtain ⟨paths', hl', hp⟩ := h.kept _ ht paths hl
    rw [hl']
    by_cases he : r.scope.isEmpty = true
    · simp only [he, Bool.true_or]
    · have hne : r.scope ≠ "" := by simpa using he
      -- A path that the scope asks for is under one of the scopes, so it was not left out.
      have hany : (paths'.getD []).any (startsWith r.scope) = (paths.getD []).any (startsWith r.scope) := by
        rw [Bool.eq_iff_iff, List.any_eq_true, List.any_eq_true]
        refine exists_congr fun p => and_congr_left fun hr => ?_
        rw [hp]
        exact and_iff_left ⟨_, hs hne, hr⟩
      simp only [hany]

end Evidence
namespace RuleStore

/-- The tag of a reference that is mentioned is one of the tags shown. -/
lemma mem_tagNames {s : RuleStore} (hc : s.IsCompiled) (hn : s.IsNamed) {r : Reference} (hr : s.Mentions r) :
    r.name ∈ s.tagNames := by
  obtain ⟨c, hm, hr⟩ := hc.mentions_iff.1 hr
  rw [tagNames, mem_sorted, hn.mem_tags]
  exact ⟨c, hm, ((hc.faithful_of_mem hm).mem_names.1 _).2 (List.mem_map_of_mem hr)⟩

/-- What the rules do not mention makes no difference to which of them are true. -/
theorem trueRules_pruned {s : RuleStore} (hc : s.IsCompiled) (hn : s.IsNamed) {evidence pruned : Evidence}
    (h : evidence.IsPruned s.tagNames s.fieldPaths pruned) : s.trueRules pruned.meets = s.trueRules evidence.meets :=
  trueRules_congr fun _ hr => h.meets_eq (mem_tagNames hc hn hr) (mem_fieldPaths hc hn hr)

end RuleStore
namespace Engine

/-- After any calls, evidence can be cut down to the tags that the engine shows, and to the paths under the scopes that
it shows: the rules that match, by either method, are the same. -/
theorem evaluate_on_relevant (tagger : Option Tagger) (caseSensitive : Bool) (calls : List RuleCall)
    (evidence : Evidence) :
    let g := (new tagger caseSensitive).after calls
    evidence.IsPruned g.store.tagNames g.store.fieldPaths (evidence.pruned g.store.tagNames g.store.fieldPaths) ∧
    ∀ pruned, evidence.IsPruned g.store.tagNames g.store.fieldPaths pruned →
      ∃ rows, (∀ m, g.store.evaluate m evidence = .ok rows ∧ g.store.evaluate m pruned = .ok rows) ∧
        g.evaluate evidence = .ok rows ∧ g.evaluate pruned = .ok rows := by
  intro g
  have hc : g.store.IsCompiled := ((reached_new tagger caseSensitive).after calls).compiled
  have hn : g.store.IsNamed :=
    store_after (fun h hp => h.perform hp) (RuleStore.isNamed_empty caseSensitive) calls
  refine ⟨evidence.isPruned_pruned _ _, fun pruned h => ?_⟩
  have ht : g.store.trueRules pruned.meets = g.store.trueRules evidence.meets := RuleStore.trueRules_pruned hc hn h
  refine ⟨g.store.trueRules evidence.meets, fun m => ⟨hc.evaluate_eq m evidence, ?_⟩, evaluate_of_meets hc rfl, ?_⟩
  · rw [hc.evaluate_eq, ht]
  · rw [evaluate_of_meets hc rfl, ht]

theorem evaluate_on_relevant_after_removal :
    let calls : List RuleCall := [.addRule "gone" (.list [.text "\"a:y\" or \"e\""]),
      .addRule "apart" (.list [.text "\"a:x\" and not (\"b:x\" or not \"c\")", .text "\"b:z\""]), .removeRule "gone"]
    let g := (new none false).after calls
    let evidence : Evidence := [("e", none), ("b", some ["y.x"]), ("a", some ["y", "x.2", "x.1", "x.2"]), ("c", none)]
    let pruned : Evidence := [("c", some []), ("a", some ["x.1", "x.2"]), ("b", none)]
    evidence.IsPruned g.store.tagNames g.store.fieldPaths pruned ∧
    g.evaluate pruned = .ok [("apart", ["\"a:x\" and not (\"b:x\" or not \"c\")"])] := by
  intro calls g evidence pruned
  have htags : g.store.tags = ["a", "b", "c"] := by decide +kernel
  have hpaths : g.store.paths = ["x", "z"] := by decide +kernel
  have ht : g.store.tagNames = ["a", "b", "c"] := by
    rw [RuleStore.tagNames, RuleStore.sorted, htags]
    exact List.mergeSort_of_pairwise (by decide)
  have hp : g.store.fieldPaths = ["x", "z"] := by
    rw [RuleStore.fieldPaths, RuleStore.sorted, hpaths]
    exact List.mergeSort_of_pairwise (by decide)
  have h : evidence.IsPruned g.store.tagNames g.store.fieldPaths pruned := by
    rw [ht, hp]
    constructor
    · intro tag hn
      simp_all [pruned, List.lookup_eq_none_iff]
    · intro tag hn
      simp_all [evidence, pruned, List.lookup_eq_none_iff]
    · intro tag hm
      obtain rfl | rfl | rfl : tag = "a" ∨ tag = "b" ∨ tag = "c" := by simpa using hm
      · rintro _ ⟨⟩
        refine ⟨some ["x.1", "x.2"], rfl, fun p => ?_⟩
        -- Of the paths under the tag only one is under no scope.
        have hu : Evidence.underAny ["x", "z"] ["y", "x.2", "x.1", "x.2"] = ["x.2", "x.1", "x.2"] := by decide
        have hm : p ∈ ["x.2", "x.1", "x.2"] ↔ p ∈ ["y", "x.2", "x.1", "x.2"] ∧ _ := hu ▸ Evidence.mem_underAny
        rw [Option.getD_some, Option.getD_some, ← hm]
        simp [or_left_comm]
      · rintro _ ⟨⟩
        exact ⟨none, rfl, by simp [startsWith]⟩
      · rintro _ ⟨⟩
        exact ⟨some [], rfl, by simp⟩
  obtain ⟨rows, -, he, hr⟩ := (evaluate_on_relevant none false calls evidence).2 pruned h
  have hc : g.store.IsCompiled := ((reached_new none false).after calls).compiled
  rw [evaluate_of_meets hc rfl] at he
  cases he
  exact ⟨h, hr.trans (congrArg Except.ok (by decide +kernel))⟩

end Engine
end TagRules
