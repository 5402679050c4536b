import TagRules.Proofs.Rule.InPlace
import Mathlib.Data.List.DropRight

/-!
The rules as a replay of what was done to them. A log lists what was added under which name and which names were
removed. From it alone come the names in order and the sources of each rule; the store shows the same, after any calls,
when the log is kept of the calls that did not fail.
-/
namespace TagRules

/-- Something done to the rules. -/
inductive RuleEvent
  | added (name : String) (sources : List String)
  | removed (name : String)
  deriving DecidableEq, Repr

/-- The sources that an event adds under a name. -/
def RuleEvent.addition? (name : String) : RuleEvent → Option (List String)
  | .added n sources => if n = name then some sources else none
  | .removed _ => none

/-- What was done to the rules, from the first to the last. -/
abbrev RuleLog := List RuleEvent

namespace RuleLog

/-- The names after one more event: one that is added stays where it is, or goes to the end. -/
def place (names : List String) : RuleEvent → List String
  | .added name _ => if name ∈ names then names else names ++ [name]
  | .removed name => names.filter (· ≠ name)

/-- The names that are registered, in order. -/
def names (log : RuleLog) : List String := log.foldl place []

/-- The lists of sources that were added under a name since it was last removed. -/
def additions (log : RuleLog) (name : String) : List (List String) :=
  (log.rtakeWhile (· ≠ .removed name)).filterMap (RuleEvent.addition? name)

/-- All sources that were added under a name since it was last removed, in the order of adding. -/
def sources (log : RuleLog) (name : String) : List String := (log.additions name).flatten

/-- The sources of a rule. A name under which nothing was added since it was last removed has none. -/
def rule? (log : RuleLog) (name : String) : Except UnknownRule (List String) :=
  if log.additions name = [] then .error ⟨name⟩ else .ok (log.sources name)

lemma names_concat (log : RuleLog) (e : RuleEvent) : names (log ++ [e]) = place log.names e := by
  rw [names, List.foldl_append]
  rfl

lemma additions_added (log : RuleLog) (n : String) (more : List String) (name : String) :
    additions (log ++ [.added n more]) name =
      if n = name then log.additions name ++ [more] else log.additions name := by
  rw [additions, List.rtakeWhile_concat_pos _ _ _ (by simp), List.filterMap_append]
  by_cases h : n = name <;> simp [RuleEvent.addition?, h, additions]

lemma additions_removed (log : RuleLog) (n name : String) :
    additions (log ++ [.removed n]) name = if n = name then [] else log.additions name := by
  by_cases h : n = name
  · rw [additions, List.rtakeWhile_concat_neg _ _ _ (by simp [h]), if_pos h]
    rfl
  · rw [additions, List.rtakeWhile_concat_pos _ _ _ (by simp [h]), if_neg h, List.filterMap_append]
    simp [RuleEvent.addition?, additions]

lemma rule?_added (log : RuleLog) (n : String) (more : List String) (name : String) :
    rule? (log ++ [.added n more]) name = if n = name then .ok (log.sources name ++ more) else log.rule? name := by
  unfold rule? sources
  rw [additions_added]
  by_cases h : n = name <;> simp [h]

lemma rule?_removed (log : RuleLog) (n name : String) :
    rule? (log ++ [.removed n]) name = if n = name then .error ⟨name⟩ else log.rule? name := by
  unfold rule? sources
  rw [additions_removed]
  by_cases h : n = name <;> simp [h]

end RuleLog

/-- The texts among the elements of a value. -/
def Value.texts (v : Value) : List String :=
  match v.items with
  | .ok items => items.filterMap text?
  | .error _ => []

/-- What a call does to the rules if it does not fail. -/
def RuleCall.events : RuleCall → List RuleEvent
  | .addRule name expressions => [.added name expressions.texts]
  | .addRules batch => batch.map fun entry => .added entry.1 entry.2.texts
  | .removeRule name => [.removed name]

namespace RuleStore

/-- The log of some calls, one after the other. What fails is not entered. -/
def log (s : RuleStore) : List RuleCall → RuleLog
  | [] => []
  | c :: calls =>
    match s.perform c with
    | .ok s' => c.events ++ s'.log calls
    | .error _ => s.log calls

/-- The store after the writes of some calls, those of the calls that fail included. -/
def written (s : RuleStore) (calls : List RuleCall) : RuleStore := calls.foldl (fun s c => (c.writing.on s).2) s

/-- The store shows what a log says. -/
structure Follows (s : RuleStore) (log : RuleLog) : Prop where
  names_eq : s.ruleNames = log.names
  rule_eq : ∀ name, s.rule? name = log.rule? name

variable {s s' : RuleStore} {log : RuleLog}

lemma follows_empty (caseSensitive : Bool) : (empty caseSensitive).Follows [] := ⟨rfl, fun _ => rfl⟩

/-- The sources under a name in the store, none if it is not registered. -/
lemma Follows.sources_eq (h : s.Follows log) (name : String) :
    ((Entries.get? s.rules name).getD []).map (·.source) = log.sources name := by
  have hr := h.rule_eq name
  unfold rule? RuleLog.rule? at hr
  cases hg : Entries.get? s.rules name with
  | none =>
    by_cases ha : log.additions name = []
    · simp [RuleLog.sources, ha]
    · simp [hg, ha] at hr
  | some cs =>
    by_cases ha : log.additions name = []
    · simp [hg, ha] at hr
    · simpa [hg, ha] using hr

lemma ruleNames_insert (s : RuleStore) (rule : String × List Compiled) : (s.insert rule).ruleNames =
    if rule.1 ∈ s.ruleNames then s.ruleNames else s.ruleNames ++ [rule.1] := by
  unfold ruleNames insert
  rw [rules_refer, Entries.extend, Entries.keys_update, Entries.contains_eq_keys]
  simp only [List.any_eq_true, beq_iff_eq, exists_eq_right]

theorem Follows.insert (h : s.Follows log) (rule : String × List Compiled) :
    (s.insert rule).Follows (log ++ [.added rule.1 (rule.2.map (·.source))]) where
  names_eq := by
    rw [RuleLog.names_concat, ← h.names_eq, ruleNames_insert]
    rfl
  rule_eq name := by
    rw [RuleLog.rule?_added, ← h.rule_eq, ← h.sources_eq]
    unfold rule? RuleStore.insert
    rw [rules_refer, Entries.get?_extend]
    by_cases hn : rule.1 = name <;> simp [hn]

theorem Follows.foldl_insert (h : s.Follows log) (rules : List (String × List Compiled)) :
    (rules.foldl RuleStore.insert s).Follows
      (log ++ rules.map fun rule => .added rule.1 (rule.2.map (·.source))) := by
  induction rules generalizing s log with
  | nil => simpa using h
  | cons rule rules ih => simpa using ih (h.insert rule)

theorem Follows.removeRule (h : s.Follows log) {name : String} (hr : s.removeRule name = .ok s') :
    s'.Follows (log ++ [.removed name]) := by
  unfold RuleStore.removeRule at hr
  split at hr
  next =>
    cases hr
    constructor
    · rw [RuleLog.names_concat, ← h.names_eq, ruleNames, (refer_all _ _).1, Entries.keys_erase]
      simp [RuleLog.place, ruleNames, beq_eq_decide]
    · intro n
      rw [RuleLog.rule?_removed, ← h.rule_eq]
      unfold rule?
      rw [(refer_all _ _).1, Entries.get?_erase]
      by_cases hn : name = n <;> simp [hn]
  next => cases hr

lemma sources_texts (name : String) (texts : List String) : sources name (.list (texts.map .text)) = .ok texts := by
  change (texts.map Value.text).mapM _ = _
  rw [List.mapM_map]
  exact (mapM_eq_ok (g := id) fun _ _ => rfl).trans (congrArg _ (List.map_id texts))

lemma sources_ok {name : String} {expressions : Value} {texts : List String}
    (h : sources name expressions = .ok texts) : texts = expressions.texts := by
  unfold sources at h
  split at h
  next => cases h
  next =>
    obtain ⟨items, hi, hm⟩ := ok_of_bind h
    have ht : texts.map some = items.map Value.text? := by
      refine map_eq_of_mapM_ok (fun item text hit => ?_) hm
      split at hit
      next s hs =>
        cases hit
        exact hs.symm
      next => cases hit
    calc texts = (texts.map some).filterMap id := by simp
      _ = (items.map Value.text?).filterMap id := by rw [ht]
      _ = expressions.texts := by simp [Value.texts, ok_of_mapError hi, List.filterMap_map]

lemma compileRule_sources {caseSensitive : Bool} {name : String} {expressions : Value}
    {rule : String × List Compiled} (h : compileRule caseSensitive name expressions = .ok rule) :
    RuleEvent.added rule.1 (rule.2.map (·.source)) = .added name expressions.texts := by
  obtain ⟨texts, ht, h⟩ := ok_of_bind h
  obtain ⟨compiled, hc, h⟩ := ok_of_bind h
  cases h
  have hs : compiled.map (·.source) = texts.map id :=
    map_eq_of_mapM_ok (fun _ _ ho => (Compiled.ofSource_ok ho).1) (ok_of_mapError hc)
  simp only [hs, List.map_id, sources_ok ht]

/-- A batch that is added was compiled as a whole, and was then inserted rule by rule. -/
lemma inserted_of_perform {batch : List (String × Value)} (hp : s.perform (.addRules batch) = .ok s') :
    ∃ rules, batch.mapM (fun entry => compileRule s.caseSensitive entry.1 entry.2) = .ok rules ∧
      s' = rules.foldl insert s := by
  obtain ⟨⟨_, notes⟩, ha, rfl⟩ := ok_of_map (ok_of_mapError hp)
  obtain ⟨rules, hr, ha⟩ := ok_of_bind ha
  cases ha
  exact ⟨rules, hr, rfl⟩

theorem Follows.addRules (h : s.Follows log) {batch : List (String × Value)}
    (hp : s.perform (.addRules batch) = .ok s') : s'.Follows (log ++ RuleCall.events (.addRules batch)) := by
  obtain ⟨rules, hr, rfl⟩ := inserted_of_perform hp
  have he : rules.map (fun rule => RuleEvent.added rule.1 (rule.2.map (·.source))) =
      RuleCall.events (.addRules batch) :=
    map_eq_of_mapM_ok (fun _ _ hc => compileRule_sources hc) hr
  rw [← he]
  exact h.foldl_insert rules

/-- A call that does not fail does to the rules what is entered in the log. -/
theorem Follows.perform (h : s.Follows log) {c : RuleCall} (hp : s.perform c = .ok s') :
    s'.Follows (log ++ c.events) := by
  cases c with
  | addRule name expressions =>
    have hb : s.perform (.addRules [(name, expressions)]) = .ok s' := hp
    exact h.addRules hb
  | addRules batch => exact h.addRules hp
  | removeRule name => exact h.removeRule (ok_of_mapError hp)

lemma perform_addRule (s : RuleStore) (name : String) (expressions : Value) :
    s.perform (.addRule name expressions) =
      ((compileRule s.caseSensitive name expressions).map s.insert).mapError .rule := by
  simp only [perform, addRule, RuleStore.addRules, List.mapM_cons, List.mapM_nil]
  cases compileRule s.caseSensitive name expressions <;> rfl

/-- A batch comes to the same as its rules one by one, whether it fails or not. -/
theorem perform_addRules (s : RuleStore) (batch : List (String × Value)) :
    s.perform (.addRules batch) = (batch.map fun entry => RuleCall.addRule entry.1 entry.2).foldlM perform s := by
  induction batch generalizing s with
  | nil => rfl
  | cons entry batch ih =>
    rw [List.map_cons, List.foldlM_cons, perform_addRule]
    simp only [perform, RuleStore.addRules, List.mapM_cons] at ih ⊢
    cases hc : compileRule s.caseSensitive entry.1 entry.2 with
    | error e => rfl
    | ok rule =>
      -- Entering a rule changes nothing that the others are compiled by.
      have hi := ih (s.insert rule)
      rw [caseSensitive_insert] at hi
      refine Eq.trans ?_ hi
      cases batch.mapM (fun entry => compileRule s.caseSensitive entry.1 entry.2) <;> rfl

end RuleStore
namespace Engine

lemma store_call_addRules (g : Engine) (batch : List (String × Value)) : (g.call (.addRules batch)).store =
    match g.store.perform (.addRules batch) with
    | .ok s => s
    | .error _ => g.store := by
  simp only [Engine.call, RuleStore.perform, addRules]
  cases g.store.addRules batch <;> rfl

lemma store_call (g : Engine) (c : RuleCall) : (g.call c).store =
    match g.store.perform c with
    | .ok s => s
    | .error _ => g.store := by
  cases c with
  | addRule name expressions => exact store_call_addRules g [(name, expressions)]
  | addRules batch => exact store_call_addRules g batch
  | removeRule name =>
    simp only [Engine.call, RuleStore.perform, removeRule]
    cases g.store.removeRule name <;> rfl

/-- What every call keeps that does not fail, holds after any calls. -/
theorem store_after {P : RuleStore → Prop} (hp : ∀ {s s' : RuleStore} {c : RuleCall}, P s → s.perform c = .ok s' → P s')
    {g : Engine} (h : P g.store) (calls : List RuleCall) : P (g.after calls).store := by
  induction calls generalizing g with
  | nil => exact h
  | cons c calls ih =>
    apply ih
    rw [store_call]
    cases hc : g.store.perform c with
    | ok s => exact hp h hc
    | error e => exact h

/-- After any calls the store shows what the log of the calls says. -/
theorem follows_after {g : Engine} {log : RuleLog} (h : g.store.Follows log) (calls : List RuleCall) :
    (g.after calls).store.Follows (log ++ g.store.log calls) := by
  induction calls generalizing g log with
  | nil => simpa [after, RuleStore.log] using h
  | cons c calls ih =>
    have hs := store_call g c
    rw [RuleStore.log]
    cases hp : g.store.perform c with
    | ok s' =>
      simp only [hp] at hs ⊢
      have hc := ih (hs ▸ h.perform hp)
      rwa [hs, List.append_assoc] at hc
    | error e =>
      simp only [hp] at hs ⊢
      have hc := ih (hs ▸ h)
      rwa [hs] at hc

/-- The writes of some calls leave the store that the calls give. -/
theorem written_eq (g : Engine) (calls : List RuleCall) : g.store.written calls = (g.after calls).store := by
  induction calls generalizing g with
  | nil => rfl
  | cons c calls ih =>
    have hs : (c.writing.on g.store).2 = (g.call c).store := by
      rw [Writing.on_call, store_call]
      cases g.store.perform c <;> rfl
    rw [RuleStore.written, List.foldl_cons, hs]
    exact ih (g.call c)

/-- After any calls on a new engine, whether they are taken as writes or as giving a new store, the rules are what
replaying the calls that did not fail gives: the names in the order of the log, and for each the sources added since it
was last removed. A batch comes to the same as its rules one by one. A call that fails has written nothing that stays,
neither rules nor tags nor paths. -/
theorem store_replays_calls (tagger : Option Tagger) (caseSensitive : Bool) (calls : List RuleCall) :
    let s := ((new tagger caseSensitive).after calls).store
    let log := (RuleStore.empty caseSensitive).log calls
    (RuleStore.empty caseSensitive).written calls = s ∧
    s.ruleNames = log.names ∧ (∀ name, s.rule? name = log.rule? name) ∧
    (∀ batch, s.perform (.addRules batch) =
      (batch.map fun entry => RuleCall.addRule entry.1 entry.2).foldlM RuleStore.perform s) ∧
    ∀ c : RuleCall, c.writing.on s = match s.perform c with
      | .ok s' => (.ok (), s')
      | .error e => (.error e, s) := by
  intro s log
  have h : s.Follows log :=
    @follows_after (new tagger caseSensitive) [] (RuleStore.follows_empty caseSensitive) calls
  exact ⟨written_eq (new tagger caseSensitive) calls, h.names_eq, h.rule_eq, s.perform_addRules,
    fun c => Writing.on_call c s⟩

end Engine
end TagRules
