import TagRules.Proofs.Engine.Evaluation
import TagRules.Proofs.Engine.Text
import TagRules.Proofs.Rule.Names

/-!
What rules look at. Their truth hangs on the references that they mention and on nothing else; so where all references
have a scope, the scopes can serve as the paths to tag, and no match is lost or won by what is left out.
-/
namespace TagRules

/-- The truth of an expression hangs on its references only. -/
lemma Expr.truth_congr {met met' : Reference → Bool} {e : Expr} (h : ∀ r ∈ e.references, met r = met' r) :
    e.truth met = e.truth met' := by
  induction e with
  | hole | unset => rfl
  | unit r => exact h r (by simp)
  | binary op a b iha ihb =>
    rw [references_binary, List.forall_mem_append] at h
    rw [truth_binary, truth_binary, iha h.1, ihb h.2]
  | not a ih =>
    rw [references_not] at h
    rw [truth, truth, ih h]

namespace RuleStore

variable {s : RuleStore}

/-- The rules that are true hang on the references that some rule mentions. -/
theorem trueRules_congr {met met' : Reference → Bool} (h : ∀ r, s.Mentions r → met r = met' r) :
    s.trueRules met = s.trueRules met' := by
  have hs : ∀ name ∈ s.ruleNames, ∀ source ∈ s.sourcesOf name,
      sourceHolds s.caseSensitive met source = sourceHolds s.caseSensitive met' source := by
    intro name hn source hm
    unfold sourceHolds
    cases hp : parse source s.caseSensitive with
    | error e => rfl
    | ok e => exact Expr.truth_congr fun r hr => h r ⟨name, hn, _, rule?_of_mem hn, source, hm, e, hp, hr⟩
  unfold trueRules
  congr 1
  exact List.map_congr_left fun name hn => by rw [List.filter_congr (hs name hn)]

/-- The scope of a reference that is mentioned is one of the paths shown. -/
lemma mem_fieldPaths (hc : s.IsCompiled) (hn : s.IsNamed) {r : Reference} (hr : s.Mentions r) (hs : r.scope ≠ "") :
    r.scope ∈ s.fieldPaths := by
  obtain ⟨c, hm, hr⟩ := hc.mentions_iff.1 hr
  rw [fieldPaths, mem_sorted, hn.mem_paths]
  exact ⟨c, hm, ((hc.faithful_of_mem hm).mem_names.2 _).2 (Expr.mem_scopes.2 ⟨hs, r, hr, rfl⟩)⟩

end RuleStore
namespace Selection

/-- With paths to take no more is selected than without. -/
lemma admits_anywhere {included excluded : List String} {path : String} (h : admits ⟨included, excluded⟩ path = true) :
    admits ⟨[], excluded⟩ path = true := by
  simp only [admits, Bool.and_eq_true] at h ⊢
  exact ⟨h.1, rfl⟩

/-- A path under one of those to take is selected unless it is excluded. -/
lemma admits_of_startsWith {included excluded : List String} {scope path : String} (hm : scope ∈ included)
    (hs : startsWith scope path = true) (h : admits ⟨[], excluded⟩ path = true) :
    admits ⟨included, excluded⟩ path = true := by
  simp only [admits, Bool.and_eq_true] at h ⊢
  exact ⟨h.1, Bool.or_eq_true_iff.2 (.inr (List.any_eq_true.2 ⟨scope, hm, hs⟩))⟩

end Selection
namespace Engine

variable {g : Engine} {t : Tagger}

lemma fst_tag (ht : g.tagger = some t) (data : Value) (s : Selection) :
    (g.tag data s).1 = ((t.tagObject data s).1).mapError .tagging := by
  rw [tag, requireTagger, ht]

lemma process_of_tagObject (ht : g.tagger = some t) (hc : g.store.IsCompiled) {data : Value} {s : Selection}
    {fields : List Field} (hf : (t.tagObject data s).1 = .ok fields) :
    g.process data s = .ok (g.store.trueRules fun r => fields.any (·.reports r)) := by
  rw [process, fst_tag ht, hf]
  exact evaluate_of_meets hc (funext (Field.meets_index fields))

/-- Only an engine with a tagger that succeeds has a result. -/
lemma exists_of_process_ok {data : Value} {s : Selection} {m : Matches} (hp : g.process data s = .ok m) :
    ∃ t fields, g.tagger = some t ∧ (t.tagObject data s).1 = .ok fields := by
  obtain ⟨fields, hf, -⟩ := ok_of_bind hp
  cases ht : g.tagger with
  | none => simp [tag, requireTagger, ht] at hf
  | some t =>
    rw [fst_tag ht] at hf
    exact ⟨t, fields, rfl, ok_of_mapError hf⟩

/-- A reference is reported by a field under its scope, so nothing is missed under paths that have the scope among
them. -/
lemma any_reports_selected (t : Tagger) {data : Value} {included excluded : List String} {r : Reference}
    (hr : r.scope ∈ included) :
    ((Tagger.selected data ⟨included, excluded⟩).map (t.field "")).any (·.reports r) =
      ((Tagger.selected data ⟨[], excluded⟩).map (t.field "")).any (·.reports r) := by
  simp only [Tagger.selected, List.any_map, List.any_filter]
  congr 1
  funext l
  rw [Bool.eq_iff_iff]
  simp only [Function.comp_apply, Bool.and_eq_true]
  refine and_congr_left fun h => ⟨Selection.admits_anywhere, Selection.admits_of_startsWith hr ?_⟩
  exact (Bool.and_eq_true_iff.1 h).2

/-- Where every reference that is mentioned has a scope, the paths that an engine shows are enough to tag: what data
gives without them it gives with them, after any calls. -/
theorem process_under_scopes {tagger : Option Tagger} {caseSensitive : Bool} {calls : List RuleCall} {data : Value}
    {excluded : List String} {m : Matches}
    (hs : ∀ r, ((new tagger caseSensitive).after calls).store.Mentions r → r.scope ≠ "")
    (hp : ((new tagger caseSensitive).after calls).process data ⟨[], excluded⟩ = .ok m) :
    let g := (new tagger caseSensitive).after calls
    g.process data ⟨g.store.fieldPaths, excluded⟩ = .ok m := by
  intro g
  have hc : g.store.IsCompiled := ((reached_new tagger caseSensitive).after calls).compiled
  have hn : g.store.IsNamed :=
    store_after (fun h hp => h.perform hp) (RuleStore.isNamed_empty caseSensitive) calls
  obtain ⟨t, fields, ht, hf⟩ := exists_of_process_ok hp
  have hm : g.process data ⟨[], excluded⟩ = .ok m := hp
  rw [process_of_tagObject ht hc hf] at hm
  obtain ⟨he, rfl⟩ := (t.fst_tagObject_eq_ok data _).1 hf
  have hf' := (t.fst_tagObject_eq_ok data ⟨g.store.fieldPaths, excluded⟩).2 ⟨fun l hl => ?_, rfl⟩
  · rw [process_of_tagObject ht hc hf', ← hm]
    refine congrArg Except.ok (RuleStore.trueRules_congr fun r hr => ?_)
    exact any_reports_selected t (RuleStore.mem_fieldPaths hc hn hr (hs r hr))
  · -- What is selected under the paths is selected without them too, and had no error there.
    obtain ⟨hl, ha⟩ := List.mem_filter.1 hl
    exact he l (List.mem_filter.2 ⟨hl, Selection.admits_anywhere ha⟩)

theorem process_under_scopes_digits :
    let t := Tagger.empty.add digitExtractor .int
    let data := Value.map [(.text "a", .int 7), (.text "b", .list [.int 12, .int 3]), (.text "c", .int 1)]
    let calls : List RuleCall := [.addRule "gone" (.list [.text "\"digit\""]),
      .addRule "low" (.list [.text "\"digit:b\" and not \"digit:d\"", .text "\"digit:d\""]), .removeRule "gone"]
    let g := (new (some t) false).after calls
    (∀ r, g.store.Mentions r → r.scope ≠ "") ∧
    g.process data ⟨[], ["a"]⟩ = .ok [("low", ["\"digit:b\" and not \"digit:d\""])] ∧
    g.store.fieldPaths = ["b", "d"] ∧
    g.process data ⟨g.store.fieldPaths, ["a"]⟩ = .ok [("low", ["\"digit:b\" and not \"digit:d\""])] := by
  intro t data calls g
  have hg : g.Reached (some t) false := (reached_new (some t) false).after calls
  have hs : ∀ r, g.store.Mentions r → r.scope ≠ "" := by
    have he : g.store.expressions.map (·.expr) = [.binary .and (.unit ⟨"digit", "b"⟩) (.not (.unit ⟨"digit", "d"⟩)),
      .unit ⟨"digit", "d"⟩] := by decide +kernel
    intro r hr
    obtain ⟨c, hc, hr⟩ := hg.compiled.mentions_iff.1 hr
    have hce : c.expr ∈ g.store.expressions.map (·.expr) := List.mem_map_of_mem hc
    rw [he] at hce
    have hr : r = ⟨"digit", "b"⟩ ∨ r = ⟨"digit", "d"⟩ := by
      obtain hx | hx : c.expr = _ ∨ c.expr = _ := by simpa using hce
      · simpa [hx] using hr
      · exact .inr (by simpa [hx] using hr)
    obtain rfl | rfl := hr <;> decide
  have hf : (t.tagObject data ⟨[], ["a"]⟩).1 = .ok [⟨"b.index(0)", [(.text "digits", ⟨[], .null⟩)]⟩,
      ⟨"b.index(1)", [(.text "digits", ⟨[.text "digit"], .null⟩)]⟩,
      ⟨"c", [(.text "digits", ⟨[.text "digit"], .null⟩)]⟩] := rfl
  have hp : g.process data ⟨[], ["a"]⟩ = .ok [("low", ["\"digit:b\" and not \"digit:d\""])] :=
    (process_of_tagObject hg.tagger_eq hg.compiled hf).trans (congrArg Except.ok (by decide +kernel))
  have hpaths : g.store.paths = ["b", "d"] := by decide +kernel
  have hfp : g.store.fieldPaths = ["b", "d"] := by
    rw [RuleStore.fieldPaths, RuleStore.sorted, hpaths]
    exact List.mergeSort_of_pairwise (by decide)
  exact ⟨hs, hp, hfp, process_under_scopes hs hp⟩

end Engine
end TagRules
