import TagRules.Expr.Source
import TagRules.Proofs.Engine.Process

/-!
Evaluation of registered rules against evaluation of their source texts. What the store keeps of an expression, its tree
and its order, gives what the source text gives when it is parsed anew; and the rules that match can as well be entered
one expression at a time, a rule when its first expression holds.
-/
namespace TagRules

/-- Whether a source text is true on some evidence. -/
def isTrueOn (evidence : Evidence) (caseSensitive : Bool) (source : String) : Bool :=
  match evaluateSource source evidence caseSensitive with
  | .ok b => b
  | .error _ => false

lemma evaluateSource_of_parse {source : String} {caseSensitive : Bool} {e : Expr}
    (h : parse source caseSensitive = .ok e) (evidence : Evidence) :
    evaluateSource source evidence caseSensitive = .ok (e.truth evidence.meets) := by
  obtain ⟨ts, -, hd⟩ := parse_eq_ok_iff.1 h
  have he : e.isComplete = true := hd.isComplete
  unfold evaluateSource
  rw [h]
  change Except.mapError _ _ = _
  rw [Expr.evaluate_of_isComplete evidence he]
  rfl

/-- A source text that cannot be parsed is not true, nor is it in the plain sense. -/
lemma isTrueOn_eq (evidence : Evidence) (caseSensitive : Bool) :
    isTrueOn evidence caseSensitive = sourceHolds caseSensitive evidence.meets := by
  funext source
  cases h : parse source caseSensitive with
  | ok e => rw [isTrueOn, evaluateSource_of_parse h, sourceHolds, h]
  | error x =>
    rw [isTrueOn, evaluateSource, sourceHolds, h]
    rfl

namespace RuleStore

/-- Enters the source of an expression under its rule if it holds. -/
def enter (m : Method) (evidence : Evidence) (name : String) (found : List (String × List String)) (c : Compiled) :
    Except EvaluationError (List (String × List String)) := do
  if ← holds m evidence c then return Entries.extend found name [c.source] else return found

/-- The rules that match, entered one expression at a time. -/
def gather (s : RuleStore) (m : Method) (evidence : Evidence) : Except EvaluationError (List (String × List String)) :=
  s.rules.foldlM (fun found rule => rule.2.foldlM (enter m evidence rule.1) found) []

/-- Enters sources under a rule, which is not entered for none. -/
def enterAll (found : List (String × List String)) (name : String) : List String → List (String × List String)
  | [] => found
  | source :: sources => Entries.extend found name (source :: sources)

lemma enterAll_eq {found : List (String × List String)} {name : String} (h : Entries.contains found name = false)
    (sources : List String) :
    enterAll found name sources = found ++ [(name, sources)].filter fun row => !row.2.isEmpty := by
  cases sources with
  | nil => exact (List.append_nil found).symm
  | cons source sources => exact Entries.update_of_not_contains h _

/-- The expressions of one rule add their sources in order, and the rule only if there is one. -/
lemma foldlM_enter {caseSensitive : Bool} {cs : List Compiled} (h : ∀ c ∈ cs, c.IsFaithful caseSensitive) (m : Method)
    (evidence : Evidence) (name : String) (found : List (String × List String)) :
    cs.foldlM (enter m evidence name) found =
      .ok (enterAll found name ((cs.map (·.source)).filter (sourceHolds caseSensitive evidence.meets))) := by
  induction cs generalizing found with
  | nil => rfl
  | cons c cs ih =>
    have hc := holds_eq (h c List.mem_cons_self) m evidence
    have ih := ih fun c' hm => h c' (List.mem_cons_of_mem _ hm)
    rw [List.foldlM_cons, enter, hc, List.map_cons, List.filter_cons]
    cases sourceHolds caseSensitive evidence.meets c.source with
    | false => exact ih found
    | true =>
      refine (ih _).trans ?_
      cases (cs.map (·.source)).filter (sourceHolds caseSensitive evidence.meets) with
      | nil => rfl
      | cons source sources => exact congrArg Except.ok (Entries.extend_extend found name [c.source] _)

/-- A rule with its sources that hold. -/
def trueRow (caseSensitive : Bool) (met : Reference → Bool) (rule : String × List Compiled) : String × List String :=
  (rule.1, (rule.2.map (·.source)).filter (sourceHolds caseSensitive met))

lemma IsCompiled.trueRules_eq {s : RuleStore} (h : s.IsCompiled) (met : Reference → Bool) :
    s.trueRules met = (s.rules.map (trueRow s.caseSensitive met)).filter fun row => !row.2.isEmpty := by
  have hrow : ∀ rule ∈ s.rules, (rule.1, (s.sourcesOf rule.1).filter (sourceHolds s.caseSensitive met)) =
      trueRow s.caseSensitive met rule := fun rule hm => by rw [h.sourcesOf_eq hm, trueRow]
  rw [trueRules, ruleNames, List.map_map]
  exact congrArg _ (List.map_congr_left hrow)

/-- Rules with names of their own add their rows at the end, those that are empty left out. -/
lemma foldlM_rules {caseSensitive : Bool} {rules : List (String × List Compiled)}
    (h : ∀ rule ∈ rules, ∀ c ∈ rule.2, c.IsFaithful caseSensitive) (hd : (rules.map (·.1)).Nodup) (m : Method)
    (evidence : Evidence) {found : List (String × List String)}
    (hn : ∀ rule ∈ rules, Entries.contains found rule.1 = false) :
    rules.foldlM (fun found rule => rule.2.foldlM (enter m evidence rule.1) found) found =
      .ok (found ++ (rules.map (trueRow caseSensitive evidence.meets)).filter fun row => !row.2.isEmpty) := by
  induction rules generalizing found with
  | nil => exact congrArg Except.ok (List.append_nil found).symm
  | cons rule rules ih =>
    rw [List.map_cons, List.nodup_cons] at hd
    rw [List.foldlM_cons, foldlM_enter (h rule List.mem_cons_self), enterAll_eq (hn rule List.mem_cons_self)]
    refine (ih (fun r hr => h r (List.mem_cons_of_mem _ hr)) hd.2 fun r hr => ?_).trans ?_
    · -- The rule just entered has another name than those to come.
      have hne : rule.1 ≠ r.1 := fun he => hd.1 (he ▸ List.mem_map_of_mem hr)
      have hr' : Entries.contains found r.1 = false := hn r (List.mem_cons_of_mem _ hr)
      unfold Entries.contains at hr' ⊢
      simp [List.any_append, hr', List.any_filter, hne]
    · rw [List.append_assoc, ← List.filter_append]
      rfl

theorem IsCompiled.gather_eq {s : RuleStore} (h : s.IsCompiled) (m : Method) (evidence : Evidence) :
    s.gather m evidence = .ok (s.trueRules evidence.meets) := by
  rw [h.trueRules_eq]
  exact foldlM_rules (fun _ hr => h.faithful hr) h.distinct m evidence fun _ _ => rfl

lemma rule?_of_mem {s : RuleStore} {name : String} (h : name ∈ s.ruleNames) :
    s.rule? name = .ok (s.sourcesOf name) := by
  obtain ⟨cs, hcs⟩ := Entries.exists_get?_of_mem_keys h
  rw [sourcesOf, rule?, hcs]

end RuleStore
namespace Engine

/-- After any calls, both ways of evaluation give the same on all evidence: each registered rule in its order, with
those of its sources, in theirs, that are true when they are parsed and evaluated anew, and without the rules that have
none. Every source of a rule has a truth value. -/
theorem evaluate_after (tagger : Option Tagger) (caseSensitive : Bool) (calls : List RuleCall) (evidence : Evidence) :
    let s := ((new tagger caseSensitive).after calls).store
    let rows := s.ruleNames.map fun name => (name, (s.sourcesOf name).filter (isTrueOn evidence caseSensitive))
    (∀ m, s.evaluate m evidence = .ok (rows.filter fun row => !row.2.isEmpty)) ∧
    (∀ m, s.gather m evidence = s.evaluate m evidence) ∧
    s.ruleNames.Nodup ∧ (∀ name ∈ s.ruleNames, s.rule? name = .ok (s.sourcesOf name)) ∧
    ∀ name, ∀ source ∈ s.sourcesOf name, ∃ b, evaluateSource source evidence caseSensitive = .ok b := by
  intro s rows
  have hg : ((new tagger caseSensitive).after calls).Reached tagger caseSensitive :=
    (reached_new tagger caseSensitive).after calls
  have hc : s.caseSensitive = caseSensitive := hg.case_eq
  have hs : s.IsCompiled := hg.compiled
  have hrows : s.trueRules evidence.meets = rows.filter fun row => !row.2.isEmpty := by
    rw [RuleStore.trueRules, hc, ← isTrueOn_eq]
  refine ⟨fun m => ?_, fun m => ?_, hs.distinct, fun name => RuleStore.rule?_of_mem, fun name source hm => ?_⟩
  · rw [hs.evaluate_eq, hrows]
  · rw [hs.evaluate_eq, hs.gather_eq]
  · obtain ⟨e, he⟩ := hs.exists_parse hm
    rw [hc] at he
    exact ⟨_, evaluateSource_of_parse he evidence⟩

end Engine
end TagRules
