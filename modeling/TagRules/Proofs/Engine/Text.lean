import TagRules.Proofs.Engine.Process
import TagRules.Proofs.Tagging.Lasting

/-!
A plain text, and the same text as a document that is nothing else. The tags of the one are found in no field, those of
the other in a field with the empty path; no rule can tell them apart, and an extractor that fails does so in the same
way.
-/
namespace TagRules

/-- A field with the empty path meets the references that the text in it meets by itself. -/
lemma meets_index_singleton (results : List (Value × Findings)) :
    (TagIndex.evidence (Field.index [⟨"", results⟩])).meets = (textEvidence (textTags results)).meets := by
  funext r
  rw [Field.meets_index, meets_textEvidence, List.any_cons, List.any_nil, Bool.or_false, Field.reports,
    startsWith_empty, Bool.and_comm]
  rfl

/-- A failure is reported as it is if it is an error of the extractor's own, and else as that extractor's, at the
path. -/
lemma Failure.reported_cases (f : Failure) (name path : String) :
    f = .extractor (f.reported name path) ∨ f.reported name path = ⟨f.message, .text name, path⟩ := by
  cases f with
  | extractor e => exact .inl rfl
  | mismatch m => exact .inr rfl
  | other category reason => exact .inr rfl

namespace Tagger

/-- A text as a document has one field, that of its only leaf. -/
lemma tagObject_text (t : Tagger) (text : String) : (t.tagObject (.text text) .everything).1 =
    okUnless (t.error? "" (.ofText text)) [t.field "" (.ofText text)] := by
  rw [fst_tagObject_eq_tagEach]
  change [Leaf.ofText text].mapM (fun l => okUnless (t.error? "" l) (t.field "" l)) = _
  rw [List.mapM_cons]
  cases t.error? "" (.ofText text) <;> rfl

end Tagger
namespace Engine

variable {g : Engine} {t : Tagger}

/-- The references that a plain text meets: those without a scope to a tag that is found in it. -/
def textMeets (t : Tagger) (text : String) (r : Reference) : Bool :=
  r.scope.isEmpty && (t.field "" (.ofText text)).tags.contains (.text r.name)

lemma evaluate_of_meets (hc : g.store.IsCompiled) {evidence : Evidence} {met : Reference → Bool}
    (h : evidence.meets = met) : g.evaluate evidence = .ok (g.store.trueRules met) := by
  rw [Engine.evaluate, hc.evaluate_eq, h]
  rfl

lemma processText_eq (ht : g.tagger = some t) (hc : g.store.IsCompiled) (text : String) :
    g.processText text =
      okUnless ((t.error? "" (.ofText text)).map .tagging) (g.store.trueRules (textMeets t text)) := by
  have htag : g.tagText text = (t.tagText text).mapError .tagging := by
    rw [tagText, requireTagger, ht]
    rfl
  rw [processText, htag, t.tagText_eq]
  cases t.error? "" (.ofText text) with
  | some e => rfl
  | none => exact evaluate_of_meets hc (funext (meets_textEvidence _))

lemma process_text_eq (ht : g.tagger = some t) (hc : g.store.IsCompiled) (text : String) :
    g.process (.text text) .everything =
      okUnless ((t.error? "" (.ofText text)).map .tagging) (g.store.trueRules (textMeets t text)) := by
  have htag : (g.tag (.text text) .everything).1 =
      (okUnless (t.error? "" (.ofText text)) [t.field "" (.ofText text)]).mapError .tagging := by
    rw [tag, requireTagger, ht, ← t.tagObject_text]
  rw [process, htag]
  cases t.error? "" (.ofText text) with
  | some e => rfl
  | none => exact evaluate_of_meets hc ((meets_index_singleton _).trans (funext (meets_textEvidence _)))

/-- After any calls a plain text and the text as a document give the same: the rules that are true when a reference
without a scope is if its tag is found, or the first error that an extractor has. An extractor's own error is reported
as it is; any other failure with the extractor's name, its message and no field. -/
theorem text_processed_as_document (t : Tagger) (caseSensitive : Bool) (calls : List RuleCall) (text : String) :
    let g := (new (some t) caseSensitive).after calls
    g.processText text = g.process (.text text) .everything ∧
    g.processText text = okUnless ((t.strings.findSome? fun x => x.error? (.text text) "").map .tagging)
      (g.store.trueRules fun r => r.scope.isEmpty && (t.field "" (.ofText text)).tags.contains (.text r.name)) ∧
    ∀ (x : Extractor) (name : String), x.name = .text name →
      x.error? (.text text) "" = (x.failure? (.text text)).map (fun f => .extractor (f.reported name "")) ∧
      ∀ f : Failure, f = .extractor (f.reported name "") ∨ f.reported name "" = ⟨f.message, .text name, ""⟩ := by
  intro g
  have hg : g.Reached (some t) caseSensitive := (reached_new (some t) caseSensitive).after calls
  have hp := processText_eq hg.tagger_eq hg.compiled text
  refine ⟨?_, hp, fun x name h => ⟨x.error?_of_name h _ _, fun f => f.reported_cases name ""⟩⟩
  rw [hp, process_text_eq hg.tagger_eq hg.compiled]

/-- Reports every text as a greeting. -/
def greetingExtractor : Extractor :=
  ⟨.text "greetings", .other, fun _ => .ok true, fun _ => .ok (some [.text "greeting"], .null)⟩

theorem text_processed_as_document_greeting :
    let t := Tagger.empty.add greetingExtractor .string
    let calls : List RuleCall := [.addRule "free" (.list [.text "\"greeting\""]),
      .addRule "bound" (.list [.text "\"greeting:a\"", .text "not \"greeting:a\""])]
    let g := (new (some t) false).after calls
    let rules := [("free", ["\"greeting\""]), ("bound", ["not \"greeting:a\""])]
    g.processText "hello" = .ok rules ∧ g.process (.text "hello") .everything = .ok rules ∧
      refusingExtractor.name = .text "refusing" ∧
      refusingExtractor.error? (.text "hello") "" = some (.extractor ⟨"refused", .text "refusing", ""⟩) := by
  intro t calls g rules
  obtain ⟨he, hr, hx⟩ := text_processed_as_document t false calls "hello"
  have hp : g.processText "hello" = .ok rules := hr.trans (congrArg Except.ok (by decide +kernel))
  exact ⟨hp, he.symm.trans hp, rfl, (hx refusingExtractor "refusing" rfl).1⟩

/-- Fails on every text with an error of its own, which names another extractor and another field. -/
def misplacingExtractor : Extractor :=
  ⟨.text "broken", .other, fun _ => .ok true, fun _ => .error (.extractor ⟨"bad input", .text "custom", "x"⟩)⟩

/-- The error need not have the empty field. -/
theorem own_error_keeps_its_field :
    let g := (new (some (Tagger.empty.add misplacingExtractor .string)) false).after []
    ¬ ((∃ rules, g.processText "t" = .ok rules ∧ g.process (.text "t") .everything = .ok rules) ∨
      ∃ reason name, g.processText "t" = .error (.tagging (.extractor ⟨reason, name, ""⟩)) ∧
        g.process (.text "t") .everything = .error (.tagging (.extractor ⟨reason, name, ""⟩))) := by
  intro g h
  have hp : g.processText "t" = .error (.tagging (.extractor ⟨"bad input", .text "custom", "x"⟩)) := rfl
  rw [hp] at h
  obtain ⟨rules, hr, -⟩ | ⟨reason, name, hr, -⟩ := h
  · cases hr
  · simp at hr

end Engine
end TagRules
