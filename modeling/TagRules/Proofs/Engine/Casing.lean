import TagRules.Proofs.Grammar.Casing
import TagRules.Proofs.Rule.Log

/-!
The two modes of reading words. What can be read in the strict mode is read in the other one as it is, and what can be
read in the other one is read in the strict mode once its words are in lower case. So rules that a strict engine takes
are taken by the other one, and come to the same on any evidence.
-/
namespace TagRules

/-- What is compiled in the strict mode is compiled in the other one as well. -/
theorem Compiled.ofSource_of_strict {source : String} {c : Compiled} (h : ofSource true source = .ok c) :
    ofSource false source = .ok c := by
  have hp : parse source true = .ok c.expr := (ofSource_ok h).2.1
  obtain ⟨us, position, hi, he, -⟩ := sentence_iff.1 (parse_eq_ok_iff.1 hp)
  have hfeed : Parser.ofSource source false = Parser.ofSource source true :=
    congrArg Parser.ofFeed (Feed.ofSource_of_strict hi he)
  unfold ofSource at h ⊢
  rwa [hfeed]

namespace RuleStore

/-- The same store in the mode that is not strict. -/
def relaxed (s : RuleStore) : RuleStore := { s with caseSensitive := false }

lemma compileRule_relaxed {caseSensitive : Bool} {name : String} {expressions : Value} {rule : String × List Compiled}
    (h : compileRule caseSensitive name expressions = .ok rule) : compileRule false name expressions = .ok rule := by
  cases caseSensitive with
  | false => exact h
  | true =>
    obtain ⟨texts, ht, h⟩ := ok_of_bind h
    obtain ⟨compiled, hc, h⟩ := ok_of_bind h
    have hc' : texts.mapM (Compiled.ofSource false) = .ok compiled :=
      mapM_ok_of_imp (fun _ _ => Compiled.ofSource_of_strict) (ok_of_mapError hc)
    rw [compileRule, ht]
    change ((texts.mapM (Compiled.ofSource false)).mapError RuleError.source >>=
      fun compiled => pure (name, compiled)) = _
    rw [hc']
    exact h

lemma relaxed_refer (s : RuleStore) (cs : List Compiled) : s.relaxed.refer cs = (s.refer cs).relaxed :=
  List.foldl_hom relaxed fun _ _ => rfl

lemma relaxed_refer_all (s : RuleStore) (rules : List (String × List Compiled)) :
    rules.foldl (fun s r => s.refer r.2) s.relaxed = (rules.foldl (fun s r => s.refer r.2) s).relaxed :=
  List.foldl_hom relaxed fun s r => relaxed_refer s r.2

lemma relaxed_insert (s : RuleStore) (rule : String × List Compiled) :
    s.relaxed.insert rule = (s.insert rule).relaxed :=
  relaxed_refer { s with rules := Entries.extend s.rules rule.1 rule.2 } rule.2

variable {s s' : RuleStore}

lemma perform_addRules_relaxed {batch : List (String × Value)} (h : s.perform (.addRules batch) = .ok s') :
    s.relaxed.perform (.addRules batch) = .ok s'.relaxed := by
  obtain ⟨rules, hr, rfl⟩ := inserted_of_perform h
  have hr' : batch.mapM (fun entry => compileRule false entry.1 entry.2) = .ok rules :=
    mapM_ok_of_imp (fun _ _ => compileRule_relaxed) hr
  have hi : rules.foldl insert s.relaxed = (rules.foldl insert s).relaxed := List.foldl_hom relaxed relaxed_insert
  simp only [perform, RuleStore.addRules]
  rw [← hi, show s.relaxed.caseSensitive = false from rfl, hr']
  rfl

/-- A call that a store takes is taken by the same store in the other mode, with the same effect. -/
theorem perform_relaxed {c : RuleCall} (h : s.perform c = .ok s') : s.relaxed.perform c = .ok s'.relaxed := by
  cases c with
  | addRule name expressions => exact perform_addRules_relaxed h
  | addRules batch => exact perform_addRules_relaxed h
  | removeRule name =>
    simp only [perform, removeRule] at h ⊢
    rw [show s.relaxed.rules = s.rules from rfl]
    split at h
    next hc =>
      cases h
      rw [if_pos hc]
      exact congrArg Except.ok (relaxed_refer_all ⟨s.caseSensitive, Entries.erase s.rules name, [], []⟩ _)
    next => cases h

/-- So are any number of calls. -/
theorem foldlM_perform_relaxed {calls : List RuleCall} (h : calls.foldlM perform s = .ok s') :
    calls.foldlM perform s.relaxed = .ok s'.relaxed := by
  induction calls generalizing s with
  | nil =>
    cases h
    rfl
  | cons c calls ih =>
    rw [List.foldlM_cons] at h ⊢
    obtain ⟨t, ht, h⟩ := ok_of_bind h
    rw [perform_relaxed ht]
    exact ih h

end RuleStore

/-- The mode that is not strict is the strict one up to the case of words. A source that the strict mode can read is
read as the same tokens. A source that the other mode can read is read by the strict one once its words are in lower
case, as tokens of the same kinds at the same positions that differ in nothing but the case of words; and the parser
gives the same tree for both, or fails for both at a token of the same kind and position. Whatever rules a strict store
takes the other one takes as well, and they come to the same on any evidence, by either method. -/
theorem modes_agree_up_to_case (source : String) :
    (∀ ts, tokenize source true = .ok ts → tokenize source false = .ok ts) ∧
    (∀ ts, tokenize source false = .ok ts →
      let lowered : String := .ofList (recasedText Char.toLower ts source.toList)
      tokenize lowered true = .ok (ts.map (Token.recased Char.toLower)) ∧
      SameOutcome (parse source false) (parse lowered true)) ∧
    ∀ (calls : List RuleCall) (s : RuleStore), calls.foldlM RuleStore.perform (.empty true) = .ok s →
      calls.foldlM RuleStore.perform (.empty false) = .ok s.relaxed ∧
      ∀ m evidence, s.relaxed.evaluate m evidence = s.evaluate m evidence := by
  refine ⟨fun ts h => ?_, fun ts h => ?_, fun calls s h => ?_⟩
  · obtain ⟨us, position, hi, he, rfl⟩ := tokenize_eq_ok.1 h
    have hfeed : Feed.ofSource source false = Feed.ofSource source true := Feed.ofSource_of_strict hi he
    exact tokenize_eq_ok.2 ⟨us, position, by rw [hfeed, hi], by rw [hfeed, he], rfl⟩
  · intro lowered
    obtain ⟨us, position, hi, he, rfl⟩ := tokenize_eq_ok.1 h
    have hfeed : Feed.ofSource lowered true = ⟨(us.map (Token.recased Char.toLower)).map .ok, .eof position⟩ :=
      Feed.ofSource_lowered hi he
    have hsource : Feed.ofSource source false = ⟨us.map .ok, .eof position⟩ := by rw [← hi, ← he]
    refine ⟨tokenize_eq_ok.2 ⟨_, position, by rw [hfeed], by rw [hfeed], ?_⟩, sameOutcome_of_feed hsource hfeed⟩
    rw [List.map_append]
    rfl
  · exact ⟨RuleStore.foldlM_perform_relaxed h, fun _ _ => rfl⟩

theorem modes_agree_up_to_case_quoted :
    let source := "\"a AND\" AND Not(\"or:OR\"oR \"\\\"NOT\")"
    let lowered := "\"a AND\" and not(\"or:OR\"or \"\\\"NOT\")"
    let ts : List Token := [⟨.tag, "a AND", 0⟩, ⟨.whitespace, " ", 7⟩, ⟨.and, "AND", 8⟩, ⟨.whitespace, " ", 11⟩,
      ⟨.not, "Not", 12⟩, ⟨.lparen, "(", 15⟩, ⟨.tag, "or", 16⟩, ⟨.fieldPath, "OR", 20⟩, ⟨.or, "oR", 23⟩,
      ⟨.whitespace, " ", 25⟩, ⟨.tag, "\"NOT", 26⟩, ⟨.rparen, ")", 33⟩, ⟨.eof, "", 34⟩]
    tokenize source false = .ok ts ∧ tokenize lowered true = .ok (ts.map (Token.recased Char.toLower)) ∧
    SameOutcome (parse source false) (parse lowered true) := by
  intro source lowered ts
  have h : tokenize source false = .ok ts := by decide +kernel
  have hl : String.ofList (recasedText Char.toLower ts source.toList) = lowered := by decide +kernel
  have hm := (modes_agree_up_to_case source).2.1 ts h
  simp only [hl] at hm
  exact ⟨h, hm⟩

end TagRules
