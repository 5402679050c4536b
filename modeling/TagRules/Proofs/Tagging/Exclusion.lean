import TagRules.Engine
import TagRules.Proofs.Field.Path

/-!
What is excluded is not looked at. The paths of all parts of a value start with the path of the value, so an excluded
path excludes them too; a walk below it tags nothing and cannot fail. Two documents that differ only there have the
same fields, or fail in the same way.
-/
namespace TagRules

/-- Values at a path that are the same but for what is at a place in them. -/
inductive Value.Replaced : String → Value → Value → String → Prop
  | here (path : String) (v w : Value) : Replaced path v w path
  | field {path place name : String} {v w : Value} (identity : Nat) (type : String)
      (front back : List (String × Value)) : Replaced (dotted [path, name]) v w place →
      Replaced path (.record identity type (front ++ (name, v) :: back))
        (.record identity type (front ++ (name, w) :: back)) place
  | entry {path place name : String} {v w : Value} (front back : List (Value × Value)) :
      Replaced (dotted [path, name]) v w place →
      Replaced path (.map (front ++ (.text name, v) :: back)) (.map (front ++ (.text name, w) :: back)) place
  | element {path place : String} {v w : Value} (front back : List Value) :
      Replaced (dotted [path, indexName front.length]) v w place →
      Replaced path (.list (front ++ v :: back)) (.list (front ++ w :: back)) place
  | component {path place : String} {v w : Value} (front back : List Value) :
      Replaced (dotted [path, indexName front.length]) v w place →
      Replaced path (.tuple (front ++ v :: back)) (.tuple (front ++ w :: back)) place

lemma startsWith_childPath {scope path : String} (h : startsWith scope path = true) (name : String) :
    startsWith scope (childPath path name) = true := by
  unfold startsWith at h ⊢
  rw [List.isPrefixOf_iff_prefix] at h ⊢
  unfold childPath
  split
  next he =>
    obtain rfl : path = "" := by simpa using he
    have hs : scope.toList = [] := List.prefix_nil.1 h
    rw [hs]
    exact List.nil_prefix
  next =>
    rw [String.append_assoc, String.toList_append]
    exact h.trans (List.prefix_append _ _)

namespace Selection

/-- A path under an excluded one. -/
def excludes (s : Selection) (path : String) : Bool := s.excluded.any (startsWith · path)

lemma excludes_childPath {s : Selection} {path : String} (h : s.excludes path = true) (name : String) :
    s.excludes (childPath path name) = true := by
  obtain ⟨scope, hm, hs⟩ := List.any_eq_true.1 h
  exact List.any_eq_true.2 ⟨scope, hm, startsWith_childPath hs name⟩

lemma admits_of_excludes {s : Selection} {path : String} (h : s.excludes path = true) : s.admits path = false := by
  unfold admits
  rw [show s.excluded.any (startsWith · path) = true from h]
  rfl

end Selection
namespace Progress

/-- The walk has come to the same fields and the same failure, whatever was noted. -/
structure Alike (p q : Progress) : Prop where
  fields : p.fields = q.fields
  failure : p.failure = q.failure

lemma Alike.refl (p : Progress) : p.Alike p := ⟨rfl, rfl⟩

lemma Alike.symm {p q : Progress} (h : p.Alike q) : q.Alike p := ⟨h.fields.symm, h.failure.symm⟩

lemma Alike.trans {p q r : Progress} (h : p.Alike q) (h' : q.Alike r) : p.Alike r :=
  ⟨h.fields.trans h'.fields, h.failure.trans h'.failure⟩

lemma Alike.andThen {p p' : Progress} {next next' : Unit → Progress} (h : p.Alike p')
    (hn : (next ()).Alike (next' ())) : (p.andThen next).Alike (p'.andThen next') := by
  unfold Progress.andThen
  rw [h.failure]
  split
  · exact h
  · exact ⟨by simp only [h.fields, hn.fields], hn.failure⟩

lemma Alike.andThen_start {p : Progress} {next : Unit → Progress} (h : p.Alike .start)
    (hn : (next ()).Alike .start) : (p.andThen next).Alike .start :=
  @Alike.andThen p .start next (fun _ => .start) h hn

lemma noted_alike (n : Note) : (noted n).Alike start := ⟨rfl, rfl⟩

end Progress
namespace Tagger

variable (t : Tagger) {s : Selection}

lemma visitScalar_excluded {path : String} (h : s.excludes path = true) (kind : ScalarKind) (v : Value) :
    t.visitScalar s path kind v = .start := by
  rw [visitScalar, Selection.admits_of_excludes h]
  rfl

mutual

/-- Nothing comes of a value at an excluded path. -/
theorem visit_excluded {path : String} (h : s.excludes path = true) (v : Value) :
    (t.visit s path v).Alike .start := by
  cases v with
  | text x | int x | float x =>
    rw [visit, visitScalar_excluded t h]
    exact .refl _
  | record identity name fields => exact visitFields_excluded h fields
  | map entries => exact visitEntries_excluded h entries
  | list xs | tuple xs => exact visitElements_excluded h 0 xs
  | _ => exact Progress.noted_alike _

theorem visitFields_excluded {path : String} (h : s.excludes path = true) (fields : List (String × Value)) :
    (t.visitFields s path fields).Alike .start := by
  cases fields with
  | nil => exact .refl _
  | cons f rest =>
    rw [visitFields]
    split
    · exact visitFields_excluded h rest
    · exact (visit_excluded (Selection.excludes_childPath h f.1) f.2).andThen_start (visitFields_excluded h rest)

theorem visitEntries_excluded {path : String} (h : s.excludes path = true) (entries : List (Value × Value)) :
    (t.visitEntries s path entries).Alike .start := by
  cases entries with
  | nil => exact .refl _
  | cons e rest =>
    rw [visitEntries]
    split
    · exact (Progress.noted_alike _).andThen_start (visitEntries_excluded h rest)
    next name _ =>
      exact (visit_excluded (Selection.excludes_childPath h name) e.2).andThen_start (visitEntries_excluded h rest)

theorem visitElements_excluded {path : String} (h : s.excludes path = true) (i : Nat) (xs : List Value) :
    (t.visitElements s path i xs).Alike .start := by
  cases xs with
  | nil => exact .refl _
  | cons x rest =>
    rw [visitElements]
    exact (visit_excluded (Selection.excludes_childPath h (elementName i)) x).andThen_start
      (visitElements_excluded h (i + 1) rest)

end

lemma visitFields_replaced {path name : String} {v w : Value}
    (h : (t.visit s (childPath path name) v).Alike (t.visit s (childPath path name) w))
    (front back : List (String × Value)) :
    (t.visitFields s path (front ++ (name, v) :: back)).Alike (t.visitFields s path (front ++ (name, w) :: back)) := by
  induction front with
  | nil =>
    simp only [List.nil_append, visitFields]
    split
    · exact .refl _
    · exact h.andThen (.refl _)
  | cons f front ih =>
    simp only [List.cons_append, visitFields]
    split
    · exact ih
    · exact (Progress.Alike.refl _).andThen ih

lemma visitEntries_replaced {path name : String} {v w : Value}
    (h : (t.visit s (childPath path name) v).Alike (t.visit s (childPath path name) w))
    (front back : List (Value × Value)) :
    (t.visitEntries s path (front ++ (.text name, v) :: back)).Alike
      (t.visitEntries s path (front ++ (.text name, w) :: back)) := by
  induction front with
  | nil =>
    simp only [List.nil_append, visitEntries, Value.text?]
    exact h.andThen (.refl _)
  | cons e front ih =>
    simp only [List.cons_append, visitEntries]
    split
    · exact (Progress.Alike.refl _).andThen ih
    · exact (Progress.Alike.refl _).andThen ih

lemma visitElements_replaced {path : String} {v w : Value} (front back : List Value) (i : Nat)
    (h : (t.visit s (childPath path (elementName (i + front.length))) v).Alike
      (t.visit s (childPath path (elementName (i + front.length))) w)) :
    (t.visitElements s path i (front ++ v :: back)).Alike (t.visitElements s path i (front ++ w :: back)) := by
  induction front generalizing i with
  | nil => exact h.andThen (.refl _)
  | cons x front ih =>
    simp only [List.cons_append, visitElements]
    refine (Progress.Alike.refl _).andThen (ih (i + 1) ?_)
    have hi : i + 1 + front.length = i + (x :: front).length := by
      simp only [List.length_cons]
      omega
    rw [hi]
    exact h

/-- A walk over values that differ in an excluded place only comes to the same. -/
theorem visit_replaced {path place : String} {v w : Value} (h : Value.Replaced path v w place)
    (hx : s.excludes place = true) : (t.visit s path v).Alike (t.visit s path w) := by
  induction h with
  | here path v w => exact (visit_excluded t hx v).trans (visit_excluded t hx w).symm
  | field identity type front back _ ih =>
    rw [← childPath_eq] at ih
    exact visitFields_replaced t (ih hx) front back
  | entry front back _ ih =>
    rw [← childPath_eq] at ih
    exact visitEntries_replaced t (ih hx) front back
  | element front back _ ih | component front back _ ih =>
    rw [← childPath_eq, ← elementName_eq] at ih
    exact visitElements_replaced t front back 0 (by simpa using ih hx)

/-- The outcome of tagging without the notes. -/
lemma fst_tagObject (v : Value) (s : Selection) : (t.tagObject v s).1 =
    match (t.visit s "" v).failure with
    | some e => .error e
    | none => .ok (t.visit s "" v).fields := by
  simp only [tagObject]
  cases (t.visit s "" v).failure <;> rfl

lemma tagObject_eq_of_alike {v w : Value} (h : (t.visit s "" v).Alike (t.visit s "" w)) :
    (t.tagObject v s).1 = (t.tagObject w s).1 := by
  rw [fst_tagObject, fst_tagObject, h.fields, h.failure]

end Tagger

lemma Engine.process_congr (g : Engine) {v w : Value} {s : Selection}
    (h : ∀ t : Tagger, (t.tagObject v s).1 = (t.tagObject w s).1) : g.process v s = g.process w s := by
  have ht : (g.tag v s).1 = (g.tag w s).1 := by
    unfold Engine.tag
    cases g.requireTagger with
    | error e => rfl
    | ok t => exact congrArg (Except.mapError ProcessError.tagging) (h t)
  rw [Engine.process, ht, Engine.process]

/-- What is at an excluded place has no influence: not on the fields that any tagger finds or the error that it ends
with, and so not on the rules that any engine finds to match. -/
theorem excluded_irrelevant {data data' : Value} {place : String} {s : Selection}
    (h : Value.Replaced "" data data' place) (hx : ∃ scope ∈ s.excluded, startsWith scope place = true) :
    (∀ t : Tagger, (t.tagObject data s).1 = (t.tagObject data' s).1) ∧
      ∀ g : Engine, g.process data s = g.process data' s := by
  have ht (t : Tagger) : (t.tagObject data s).1 = (t.tagObject data' s).1 :=
    t.tagObject_eq_of_alike (t.visit_replaced h (List.any_eq_true.2 hx))
  exact ⟨ht, fun g => g.process_congr ht⟩

/-- Fails on every text. -/
def refusingExtractor : Extractor :=
  ⟨.text "refusing", .other, fun _ => .ok true, fun _ => .error (.other "ValueError" "refused")⟩

/-- A text that would end the walk may stand at an excluded place. -/
theorem excluded_irrelevant_user :
    let t := Tagger.empty.add refusingExtractor .string
    let data := Value.map [(.text "user", .map [(.text "age", .int 7)]), (.text "total", .int 1)]
    let data' := Value.map [(.text "user", .map [(.text "age", .text "seven")]), (.text "total", .int 1)]
    Value.Replaced "" data data' "user.age" ∧ (∃ scope ∈ ["user"], startsWith scope "user.age" = true) ∧
    (t.tagObject data' .everything).1 = .error (.extractor ⟨"refused", .text "refusing", "user.age"⟩) ∧
    (t.tagObject data ⟨[], ["user"]⟩).1 = (t.tagObject data' ⟨[], ["user"]⟩).1 := by
  intro t data data'
  have h : Value.Replaced "" data data' "user.age" := .entry [] _ (.entry [] [] (.here "user.age" _ _))
  have hx : ∃ scope ∈ ["user"], startsWith scope "user.age" = true := ⟨"user", List.mem_singleton_self _, by decide⟩
  exact ⟨h, hx, rfl, (@excluded_irrelevant _ _ _ ⟨[], ["user"]⟩ h hx).1 t⟩

end TagRules
