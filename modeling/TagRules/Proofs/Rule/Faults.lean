import TagRules.Proofs.Rule.Log

/-!
What is wrong with a batch of rules. A batch is refused exactly if one of its entries is at fault, and the error is that
of the first of these. Within an entry the wrong shape counts before any text that cannot be compiled, wherever it
stands; among elements of the wrong shape, and among texts that cannot be compiled, the first one counts.
-/
namespace TagRules

/-- A source text can be compiled. -/
def Compiles (caseSensitive : Bool) (source : String) : Prop := ∃ c, Compiled.ofSource caseSensitive source = .ok c

/-- The expressions that a rule is given are at fault: they are a bare text or nothing that can be gone through, one of
them is no text, or one is a text that cannot be compiled. -/
def IsFaulty (caseSensitive : Bool) (expressions : Value) : Prop :=
  (∃ s, expressions = .text s) ∨ (∃ m, expressions.items = .error m) ∨
    ∃ items, expressions.items = .ok items ∧
      ((∃ item ∈ items, item.text? = none) ∨ ∃ s, .text s ∈ items ∧ ¬ Compiles caseSensitive s)

/-- What the expressions that a rule is given are refused for. -/
inductive Fault (caseSensitive : Bool) (name : String) : Value → RuleError → Prop
  | bare (s : String) : Fault caseSensitive name (.text s) (.mismatch (.bareExpression name))
  | notIterable {v : Value} {m : Mismatch} (hv : v.text? = none) (hi : v.items = .error m) :
    Fault caseSensitive name v (.mismatch m)
  | notText {v item : Value} {front back : List Value} (hv : v.text? = none) (hi : v.items = .ok (front ++ item :: back))
    (hf : ∀ x ∈ front, x.text? ≠ none) (h : item.text? = none) :
    Fault caseSensitive name v (.notExpression name item)
  | source {v : Value} {s : String} {front back : List String} {e : SyntaxError} (hv : v.text? = none)
    (hi : v.items = .ok ((front ++ s :: back).map .text)) (hf : ∀ t ∈ front, Compiles caseSensitive t)
    (h : parse s caseSensitive = .error e) : Fault caseSensitive name v (.source e)

lemma Value.eq_text_of_text? {v : Value} {s : String} (h : v.text? = some s) : v = .text s := by
  unfold text? at h
  split at h <;> cases h
  rfl

lemma Compiled.ofSource_eq_error {caseSensitive : Bool} {source : String} {e : SyntaxError} :
    ofSource caseSensitive source = .error e ↔ parse source caseSensitive = .error e := by
  unfold ofSource parse
  split
  next h => simp [h]
  next h => simp [h]

namespace RuleStore

variable {caseSensitive : Bool} {name : String} {v : Value}

/-- An element as a source text. -/
def asSource (name : String) (item : Value) : Except RuleError String :=
  match item.text? with
  | some s => .ok s
  | none => .error (.notExpression name item)

lemma sources_eq (name : String) (h : v.text? = none) :
    sources name v = v.items.mapError .mismatch >>= fun items => items.mapM (asSource name) := by
  cases v with
  | text s => cases h
  | _ => rfl

lemma asSource_eq_error {item : Value} {e : RuleError} :
    asSource name item = .error e ↔ item.text? = none ∧ e = .notExpression name item := by
  unfold asSource
  cases item.text? <;> simp [eq_comm]

lemma exists_asSource {item : Value} : (∃ s, asSource name item = .ok s) ↔ item.text? ≠ none := by
  unfold asSource
  cases item.text? <;> simp

lemma mapM_asSource {items : List Value} {texts : List String} :
    items.mapM (asSource name) = .ok texts ↔ items = texts.map .text := by
  constructor
  · intro h
    have ht : texts.map .text = items.map id := by
      refine map_eq_of_mapM_ok (fun item s hs => ?_) h
      unfold asSource at hs
      split at hs
      next hi =>
        cases hs
        exact (Value.eq_text_of_text? hi).symm
      next => cases hs
    rw [ht, List.map_id]
  · rintro rfl
    rw [List.mapM_map]
    exact (mapM_eq_ok (g := id) fun _ _ => rfl).trans (congrArg _ (List.map_id texts))

/-- The sources of a rule are what it is given, if this is a list of texts. -/
lemma sources_eq_ok {texts : List String} :
    sources name v = .ok texts ↔ v.text? = none ∧ v.items = .ok (texts.map .text) := by
  cases hv : v.text? with
  | some s =>
    obtain rfl := Value.eq_text_of_text? hv
    simp [sources]
  | none =>
    rw [sources_eq name hv]
    cases hi : v.items with
    | error m =>
      change Except.error (RuleError.mismatch m) = _ ↔ _
      simp
    | ok items =>
      change items.mapM (asSource name) = _ ↔ _
      simp [mapM_asSource]

/-- A rule that is refused is at fault, be it in its shape or in one of its texts. -/
lemma fault_of_compileRule {e : RuleError} (h : compileRule caseSensitive name v = .error e) :
    Fault caseSensitive name v e := by
  obtain h | ⟨texts, ht, h⟩ := bind_eq_error.1 h
  · cases hv : v.text? with
    | some s =>
      obtain rfl := Value.eq_text_of_text? hv
      cases h
      exact .bare s
    | none =>
      rw [sources_eq name hv] at h
      obtain hi | ⟨items, hi, h⟩ := bind_eq_error.1 h
      · obtain ⟨m, hm, rfl⟩ := mapError_eq_error.1 hi
        exact .notIterable hv hm
      · obtain ⟨front, item, back, rfl, hf, he⟩ := mapM_eq_error.1 h
        obtain ⟨hn, rfl⟩ := asSource_eq_error.1 he
        exact .notText hv (ok_of_mapError hi) (fun x hx => exists_asSource.1 (hf x hx)) hn
  · obtain ⟨hv, hi⟩ := sources_eq_ok.1 ht
    obtain h | ⟨cs, -, h⟩ := bind_eq_error.1 h
    · obtain ⟨e, hm, rfl⟩ := mapError_eq_error.1 h
      obtain ⟨front, s, back, rfl, hf, hs⟩ := mapM_eq_error.1 hm
      exact .source hv hi hf (Compiled.ofSource_eq_error.1 hs)
    · cases h

lemma compileRule_of_sources {e : RuleError} (h : sources name v = .error e) :
    compileRule caseSensitive name v = .error e :=
  bind_eq_error.2 (.inl h)

lemma compileRule_of_fault {e : RuleError} (h : Fault caseSensitive name v e) :
    compileRule caseSensitive name v = .error e := by
  cases h with
  | bare s => rfl
  | notIterable hv hi => exact compileRule_of_sources (by rw [sources_eq name hv, hi]; rfl)
  | notText hv hi hf hn =>
    refine compileRule_of_sources ?_
    rw [sources_eq name hv, hi]
    exact mapM_eq_error.2 ⟨_, _, _, rfl, fun x hx => exists_asSource.2 (hf x hx), asSource_eq_error.2 ⟨hn, rfl⟩⟩
  | @source _ s front back e hv hi hf hs =>
    have hm : (front ++ s :: back).mapM (Compiled.ofSource caseSensitive) = .error e :=
      mapM_eq_error.2 ⟨front, s, back, rfl, hf, Compiled.ofSource_eq_error.2 hs⟩
    have ht : sources name v = .ok (front ++ s :: back) := sources_eq_ok.2 ⟨hv, hi⟩
    rw [compileRule, ht]
    exact bind_eq_error.2 (.inr ⟨_, rfl, bind_eq_error.2 (.inl (mapError_eq_error.2 ⟨e, hm, rfl⟩))⟩)

/-- A rule is refused for what it is at fault, its shape being looked at before its texts. -/
theorem compileRule_eq_error {e : RuleError} :
    compileRule caseSensitive name v = .error e ↔ Fault caseSensitive name v e :=
  ⟨fault_of_compileRule, compileRule_of_fault⟩

lemma not_isFaulty_of_compileRule {rule : String × List Compiled} (h : compileRule caseSensitive name v = .ok rule) :
    ¬ IsFaulty caseSensitive v := by
  obtain ⟨texts, ht, h⟩ := ok_of_bind h
  obtain ⟨cs, hc, -⟩ := ok_of_bind h
  obtain ⟨hv, hi⟩ := sources_eq_ok.1 ht
  rintro (⟨s, rfl⟩ | ⟨m, hm⟩ | ⟨items, hi', hf⟩)
  · cases hv
  · rw [hi] at hm
    cases hm
  · rw [hi] at hi'
    cases hi'
    obtain ⟨item, hm, hn⟩ | ⟨s, hm, hn⟩ := hf
    · obtain ⟨s, -, rfl⟩ := List.mem_map.1 hm
      cases hn
    · obtain ⟨s', hs, he⟩ := List.mem_map.1 hm
      cases he
      obtain ⟨c, -, hok⟩ := ok_of_mem_mapM (ok_of_mapError hc) hs
      exact hn ⟨c, hok⟩

theorem exists_fault_iff : (∃ e, Fault caseSensitive name v e) ↔ IsFaulty caseSensitive v := by
  constructor
  · rintro ⟨e, h⟩
    cases h with
    | bare s => exact .inl ⟨s, rfl⟩
    | notIterable hv hi => exact .inr (.inl ⟨_, hi⟩)
    | notText hv hi hf hn => exact .inr (.inr ⟨_, hi, .inl ⟨_, by simp, hn⟩⟩)
    | source hv hi hf hs =>
      refine .inr (.inr ⟨_, hi, .inr ⟨_, List.mem_map_of_mem (List.mem_append_right _ List.mem_cons_self), ?_⟩⟩)
      rintro ⟨c, hc⟩
      rw [Compiled.ofSource_eq_error.2 hs] at hc
      cases hc
  · intro hf
    cases h : compileRule caseSensitive name v with
    | error e => exact ⟨e, compileRule_eq_error.1 h⟩
    | ok rule => exact absurd hf (not_isFaulty_of_compileRule h)

lemma exists_compileRule_iff : (∃ rule, compileRule caseSensitive name v = .ok rule) ↔ ¬ IsFaulty caseSensitive v := by
  rw [← @exists_fault_iff _ name, ← not_iff_not, not_not, ← exists_error_iff]
  simp only [compileRule_eq_error]

end RuleStore
namespace Engine

lemma addRules_eq_error {g : Engine} {batch : List (String × Value)} {e : RuleError} :
    g.addRules batch = .error e ↔
      batch.mapM (fun entry => RuleStore.compileRule g.store.caseSensitive entry.1 entry.2) = .error e := by
  unfold addRules RuleStore.addRules
  constructor
  · intro h
    obtain h | ⟨_, -, h⟩ := bind_eq_error.1 h
    · obtain h | ⟨_, -, h⟩ := bind_eq_error.1 h
      · exact h
      · cases h
    · cases h
  · intro h
    exact bind_eq_error.2 (.inl (bind_eq_error.2 (.inl h)))

/-- A batch is refused exactly if one of its entries is at fault, and for what the first of these is at fault. -/
theorem addRules_refused_for_first (g : Engine) (batch : List (String × Value)) :
    let caseSensitive := g.store.caseSensitive
    ((∃ e, g.addRules batch = .error e) ↔ ∃ entry ∈ batch, IsFaulty caseSensitive entry.2) ∧
    ∀ e, g.addRules batch = .error e ↔ ∃ front entry back, batch = front ++ entry :: back ∧
      (∀ x ∈ front, ¬ IsFaulty caseSensitive x.2) ∧ Fault caseSensitive entry.1 entry.2 e := by
  intro caseSensitive
  constructor
  · simp only [addRules_eq_error, exists_mapM_eq_error, RuleStore.compileRule_eq_error, RuleStore.exists_fault_iff,
      caseSensitive]
  · intro e
    simp only [addRules_eq_error, mapM_eq_error, RuleStore.compileRule_eq_error, RuleStore.exists_compileRule_iff,
      caseSensitive]

/-- An element that is no text counts before the text in front of it, but not before a rule in front of its own. -/
example :
    (((new none false).addRules [("a", .list [.text "\"x\""]), ("b", .list [.text "(", .int 1]), ("c", .text "y")]).map
      fun _ => ()).mapError RuleError.message = .error "Rule 'b' expressions must be strings, got 1" := by
  decide +kernel

end Engine
end TagRules
