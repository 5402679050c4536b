import TagRules.Proofs.Field.Path
import TagRules.Proofs.Outcome
import TagRules.Tagger
import Mathlib.Tactic.Lemma

/-!
Tagging as three steps one after the other: the scalars of some data are listed, those at selected paths are kept, and
each that is kept is tagged by itself. The walk does all three at once and stops at the first error; it comes to the
same, and its error is that of the first kept scalar and there of the first extractor that has one.
-/
namespace TagRules

/-- A scalar in nested data, with the names on the way to it. -/
structure Leaf where
  segments : List String
  kind : ScalarKind
  value : Value

namespace Leaf

/-- The path of a leaf, seen from a path. -/
def pathFrom (l : Leaf) (path : String) : String := dotted (path :: l.segments)

/-- The path of a leaf. -/
def path (l : Leaf) : String := l.pathFrom ""

/-- A leaf of a part is one of the whole. -/
def under (name : String) (l : Leaf) : Leaf := { l with segments := name :: l.segments }

lemma pathFrom_nil (kind : ScalarKind) (v : Value) (path : String) : pathFrom ⟨[], kind, v⟩ path = path :=
  dotted_singleton path

/-- Seen from a path, a leaf of a part has the path that it has seen from the part. -/
lemma pathFrom_under (name : String) (l : Leaf) (path : String) :
    (l.under name).pathFrom path = l.pathFrom (childPath path name) :=
  dotted_cons_cons path name l.segments

end Leaf
namespace Value

mutual

/-- The texts, integers and floats in some data, from left to right. -/
def leaves : Value → List Leaf
  | .text x => [⟨[], .string, .text x⟩]
  | .int n => [⟨[], .int, .int n⟩]
  | .float x => [⟨[], .float, .float x⟩]
  | .record _ _ fields => fieldLeaves fields
  | .map entries => entryLeaves entries
  | .list xs | .tuple xs => elementLeaves 0 xs
  | _ => []

/-- A field with a low line in front is private. -/
def fieldLeaves : List (String × Value) → List Leaf
  | [] => []
  | (name, v) :: rest => (if startsWith "_" name then [] else v.leaves.map (.under name)) ++ fieldLeaves rest

/-- What has a key that is no text is out of reach. -/
def entryLeaves : List (Value × Value) → List Leaf
  | [] => []
  | (.text name, v) :: rest => v.leaves.map (.under name) ++ entryLeaves rest
  | _ :: rest => entryLeaves rest

def elementLeaves (i : Nat) : List Value → List Leaf
  | [] => []
  | v :: rest => v.leaves.map (.under (indexName i)) ++ elementLeaves (i + 1) rest

end

mutual

/-- A leaf is a scalar of its kind. -/
theorem shape_of_mem_leaves (v : Value) : ∀ l ∈ v.leaves, l.value.shape = .scalar l.kind := by
  cases v with
  | record identity name fields => exact shape_of_mem_fieldLeaves fields
  | map entries => exact shape_of_mem_entryLeaves entries
  | list xs | tuple xs => exact shape_of_mem_elementLeaves 0 xs
  | _ => simp [leaves, shape]

theorem shape_of_mem_fieldLeaves (fields : List (String × Value)) :
    ∀ l ∈ fieldLeaves fields, l.value.shape = .scalar l.kind := by
  cases fields with
  | nil => simp [fieldLeaves]
  | cons f rest =>
    rw [fieldLeaves]
    refine List.forall_mem_append.2 ⟨?_, shape_of_mem_fieldLeaves rest⟩
    split
    · simp
    · exact List.forall_mem_map.2 (shape_of_mem_leaves f.2)

theorem shape_of_mem_entryLeaves (entries : List (Value × Value)) :
    ∀ l ∈ entryLeaves entries, l.value.shape = .scalar l.kind := by
  cases entries with
  | nil => simp [entryLeaves]
  | cons e rest =>
    obtain ⟨key, v⟩ := e
    cases key with
    | text name =>
      exact List.forall_mem_append.2
        ⟨List.forall_mem_map.2 (shape_of_mem_leaves v), shape_of_mem_entryLeaves rest⟩
    | _ => exact shape_of_mem_entryLeaves rest

theorem shape_of_mem_elementLeaves (i : Nat) (xs : List Value) :
    ∀ l ∈ elementLeaves i xs, l.value.shape = .scalar l.kind := by
  cases xs with
  | nil => simp [elementLeaves]
  | cons v rest =>
    exact List.forall_mem_append.2
      ⟨List.forall_mem_map.2 (shape_of_mem_leaves v), shape_of_mem_elementLeaves (i + 1) rest⟩

end

end Value
namespace Extractor

variable (x : Extractor) (v : Value)

/-- How an extractor fails on a value: when it is asked whether it accepts it, or else when it looks for tags. -/
def failure? : Option Failure :=
  match x.accepts v with
  | .error f => some f
  | .ok false => none
  | .ok true =>
    match x.extract v with
    | .error f => some f
    | .ok _ => none

/-- What an extractor finds in a value that it accepts. -/
def finding? : Option Findings :=
  match x.accepts v, x.extract v with
  | .ok true, .ok (tags, data) => some ⟨tags.getD [], data⟩
  | _, _ => none

lemma extract_of_finding? {x : Extractor} {v : Value} {found : Findings} (h : x.finding? v = some found) :
    ∃ tags data, x.extract v = .ok (tags, data) ∧ found.tags = tags.getD [] := by
  unfold finding? at h
  split at h
  next tags data _ he =>
    cases h
    exact ⟨tags, data, he, rfl⟩
  next => cases h

/-- The error that an extractor ends the walk with: its failure, or that its name cannot stand before what it found. -/
def error? (path : String) : Option TaggingError :=
  match x.failure? v, x.finding? v with
  | some f, _ => some (f.on x.name path)
  | none, none => none
  | none, some _ =>
    match x.name.requireHashable with
    | .error m => some (.mismatch m)
    | .ok () => none

/-- What is entered for an extractor. -/
def entry? : Option (Value × Findings) := (x.finding? v).map fun found => (x.name, found)

lemma run_eq : x.run v = okUnless (x.failure? v) (x.finding? v) := by
  unfold run failure? finding?
  cases x.accepts v with
  | error f => rfl
  | ok b =>
    cases b with
    | false => rfl
    | true => cases x.extract v <;> rfl

/-- The first extractor that has an error decides; without one, all that was found is kept by name. -/
lemma runAll_eq (path : String) (xs : List Extractor) (found : List (Value × Findings)) :
    runAll v path xs found = okUnless (xs.findSome? fun x => x.error? v path)
      ((xs.filterMap fun x => x.entry? v).foldl (fun es e => Entries.put es e.1 e.2) found) := by
  induction xs generalizing found with
  | nil => rfl
  | cons x xs ih =>
    rw [runAll, run_eq, List.findSome?_cons, List.filterMap_cons, error?, entry?]
    cases x.failure? v with
    | some f => rfl
    | none =>
      cases x.finding? v with
      | none => exact ih found
      | some findings =>
        simp only [okUnless, Option.map_some]
        cases x.name.requireHashable with
        | error m => rfl
        | ok => exact ih _

end Extractor

/-- What an extractor with a text for a name is reported with: an error of its own as it is, any other with the name and
the path. -/
def Failure.reported (name path : String) : Failure → ExtractorError
  | .extractor e => e
  | f => ⟨f.message, .text name, path⟩

lemma Extractor.error?_of_name {x : Extractor} {name : String} (h : x.name = .text name) (v : Value) (path : String) :
    x.error? v path = (x.failure? v).map fun f => .extractor (f.reported name path) := by
  unfold error?
  rw [h]
  cases x.failure? v with
  | none => cases x.finding? v <;> rfl
  | some f => cases f <;> rfl

namespace Progress

/-- How far a walk came, or the error that ended it. -/
def result (p : Progress) : Except TaggingError (List Field) := okUnless p.failure p.fields

lemma result_andThen (p : Progress) (next : Unit → Progress) :
    (p.andThen next).result = (do return (← p.result) ++ (← (next ()).result)) := by
  obtain ⟨fields, notes, failure⟩ := p
  unfold andThen result
  cases failure with
  | some e => rfl
  | none =>
    obtain ⟨fields', notes', failure'⟩ := next ()
    cases failure' <;> rfl

lemma result_noted_andThen (n : Note) (next : Unit → Progress) :
    ((noted n).andThen next).result = (next ()).result := by
  rw [result_andThen]
  cases (next ()).result <;> rfl

end Progress
namespace Tagger

variable (t : Tagger) (s : Selection)

/-- The field of a leaf seen from a path: what the extractors of its kind find, by their names. -/
def field (path : String) (l : Leaf) : Field :=
  ⟨l.pathFrom path, Entries.ofList ((t.extractors l.kind).filterMap fun x => x.entry? l.value)⟩

/-- The first error that an extractor has at a leaf. -/
def error? (path : String) (l : Leaf) : Option TaggingError :=
  (t.extractors l.kind).findSome? fun x => x.error? l.value (l.pathFrom path)

/-- The leaves at selected paths, each tagged by itself. -/
def tagEach (path : String) (ls : List Leaf) : Except TaggingError (List Field) :=
  (ls.filter fun l => s.admits (l.pathFrom path)).mapM fun l => okUnless (t.error? path l) (t.field path l)

lemma tagEach_append (path : String) (ls ms : List Leaf) :
    t.tagEach s path (ls ++ ms) = (do return (← t.tagEach s path ls) ++ (← t.tagEach s path ms)) := by
  unfold tagEach
  rw [List.filter_append, List.mapM_append]

lemma tagEach_under (path name : String) (ls : List Leaf) :
    t.tagEach s path (ls.map (.under name)) = t.tagEach s (childPath path name) ls := by
  unfold tagEach
  rw [List.filter_map, List.mapM_map]
  simp only [Function.comp_def, error?, field, Leaf.pathFrom_under]
  rfl

lemma result_visitScalar (path : String) (kind : ScalarKind) (v : Value) :
    (t.visitScalar s path kind v).result = t.tagEach s path [⟨[], kind, v⟩] := by
  unfold visitScalar tagEach
  rw [Extractor.runAll_eq, List.filter_cons]
  rw [Leaf.pathFrom_nil]
  cases s.admits path with
  | false => rfl
  | true =>
    simp only [if_true, List.filter_nil, List.mapM_cons, error?, field, Leaf.pathFrom_nil]
    cases (t.extractors kind).findSome? fun x => x.error? v path <;> rfl

mutual

/-- A walk comes to what tagging the leaves one by one comes to. -/
theorem result_visit (path : String) (v : Value) : (t.visit s path v).result = t.tagEach s path v.leaves := by
  cases v with
  | text x | int x | float x => exact result_visitScalar t s path _ _
  | record identity name fields => exact result_visitFields path fields
  | map entries => exact result_visitEntries path entries
  | list xs | tuple xs => exact result_visitElements path 0 xs
  | _ => rfl

theorem result_visitFields (path : String) (fields : List (String × Value)) :
    (t.visitFields s path fields).result = t.tagEach s path (Value.fieldLeaves fields) := by
  cases fields with
  | nil => rfl
  | cons f rest =>
    rw [visitFields, Value.fieldLeaves]
    split
    · exact result_visitFields path rest
    · rw [Progress.result_andThen, tagEach_append, tagEach_under, result_visit, result_visitFields]

theorem result_visitEntries (path : String) (entries : List (Value × Value)) :
    (t.visitEntries s path entries).result = t.tagEach s path (Value.entryLeaves entries) := by
  cases entries with
  | nil => rfl
  | cons e rest =>
    obtain ⟨key, v⟩ := e
    rw [visitEntries]
    cases key with
    | text name =>
      simp only [Value.text?, Value.entryLeaves]
      rw [Progress.result_andThen, tagEach_append, tagEach_under, result_visit, result_visitEntries]
    | _ =>
      simp only [Value.text?, Value.entryLeaves]
      rw [Progress.result_noted_andThen, result_visitEntries]

theorem result_visitElements (path : String) (i : Nat) (xs : List Value) :
    (t.visitElements s path i xs).result = t.tagEach s path (Value.elementLeaves i xs) := by
  cases xs with
  | nil => rfl
  | cons x rest =>
    rw [visitElements, elementName_eq, Value.elementLeaves, Progress.result_andThen, tagEach_append, tagEach_under,
      result_visit, result_visitElements]

end

/-- Tagging comes to listing the scalars, keeping those at selected paths and tagging each: there is one field for each
that is kept, in their order, unless an extractor of its kind fails at one. Then the error is that of the first such
scalar and there of the first such extractor; it is the extractor's own, or made of its failure, its name and the
path. -/
theorem tagObject_eq_leaves (data : Value) :
    let kept := data.leaves.filter fun l => s.admits l.path
    (t.tagObject data s).1 = okUnless (kept.findSome? (t.error? "")) (kept.map (t.field "")) ∧
    ∀ (x : Extractor) (name : String), x.name = .text name → ∀ v path,
      x.error? v path = (x.failure? v).map fun f => .extractor (f.reported name path) := by
  intro kept
  refine ⟨?_, fun x name h v path => x.error?_of_name h v path⟩
  have hr : (t.tagObject data s).1 = (t.visit s "" data).result := by
    simp only [tagObject, Progress.result]
    cases (t.visit s "" data).failure <;> rfl
  rw [hr, result_visit]
  exact mapM_eq_okUnless (fun _ => rfl) kept

end Tagger
end TagRules
