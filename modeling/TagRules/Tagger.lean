import TagRules.Field.Index
import TagRules.Field.Path
import TagRules.Log

/-!
Tagging nested data. The tagger walks through mappings, lists and records, and runs the extractors for
the kind of each scalar that the selection admits. The first failure ends the walk.
-/
namespace TagRules

inductive Shape
  | scalar (kind : ScalarKind)
  | record
  | map
  | list
  | unsupported
  deriving DecidableEq, Repr

namespace Shape

def name : Shape → String
  | .scalar kind => kind.name
  | .record => "record"
  | .map => "map"
  | .list => "list"
  | .unsupported => "unsupported"

end Shape

/-- The shape of a value; truth values are no numbers here. -/
def Value.shape : Value → Shape
  | .text _ => .scalar .string
  | .int _ => .scalar .int
  | .float _ => .scalar .float
  | .record _ _ _ => .record
  | .map _ => .map
  | .list _ | .tuple _ => .list
  | _ => .unsupported

structure Tagger where
  strings : List Extractor
  ints : List Extractor
  floats : List Extractor

/-- How far a walk came: the fields tagged, what was noted, and the failure that ended it. -/
structure Progress where
  fields : List Field
  notes : List Note
  failure : Option TaggingError

namespace Progress

def start : Progress := ⟨[], [], none⟩

def noted (n : Note) : Progress := ⟨[], [n], none⟩

/-- Goes on unless the walk has failed. -/
def andThen (p : Progress) (next : Unit → Progress) : Progress :=
  if p.failure.isSome then p else
  let q := next ()
  ⟨p.fields ++ q.fields, p.notes ++ q.notes, q.failure⟩

end Progress
namespace Tagger

def empty : Tagger := ⟨[], [], []⟩

def extractors (t : Tagger) : ScalarKind → List Extractor
  | .string => t.strings
  | .int => t.ints
  | .float => t.floats

def add (t : Tagger) (x : Extractor) : ScalarKind → Tagger
  | .string => { t with strings := t.strings ++ [x] }
  | .int => { t with ints := t.ints ++ [x] }
  | .float => { t with floats := t.floats ++ [x] }

def visitScalar (t : Tagger) (s : Selection) (path : String) (kind : ScalarKind) (v : Value) : Progress :=
  if s.admits path then
    match Extractor.runAll v path (t.extractors kind) [] with
    | .ok results => ⟨[⟨path, results⟩], [], none⟩
    | .error e => ⟨[], [], some e⟩
  else .start

mutual

def visit (t : Tagger) (s : Selection) (path : String) : Value → Progress
  | .text x => t.visitScalar s path .string (.text x)
  | .int n => t.visitScalar s path .int (.int n)
  | .float x => t.visitScalar s path .float (.float x)
  | .record _ _ fields => visitFields t s path fields
  | .map entries => visitEntries t s path entries
  | .list xs => visitElements t s path 0 xs
  | .tuple xs => visitElements t s path 0 xs
  | v => .noted (.skippedValue v path)

/-- Record fields; a name with a low line in front is private. -/
def visitFields (t : Tagger) (s : Selection) (path : String) : List (String × Value) → Progress
  | [] => .start
  | (name, v) :: rest =>
    if startsWith "_" name then visitFields t s path rest
    else (visit t s (childPath path name) v).andThen fun _ => visitFields t s path rest

/-- Entries of a mapping; only texts name a path. -/
def visitEntries (t : Tagger) (s : Selection) (path : String) : List (Value × Value) → Progress
  | [] => .start
  | (key, v) :: rest =>
    match key.text? with
    | none => (Progress.noted (.skippedKey key path)).andThen fun _ => visitEntries t s path rest
    | some name => (visit t s (childPath path name) v).andThen fun _ => visitEntries t s path rest

def visitElements (t : Tagger) (s : Selection) (path : String) (i : Nat) : List Value → Progress
  | [] => .start
  | v :: rest =>
    (visit t s (childPath path (elementName i)) v).andThen fun _ => visitElements t s path (i + 1) rest

end

/-- The tagged fields of some data in the order of the walk, with the notes taken. -/
def tagObject (t : Tagger) (data : Value) (s : Selection) : Except TaggingError (List Field) × List Note :=
  let p := t.visit s "" data
  match p.failure with
  | some e => (.error e, p.notes)
  | none => (.ok p.fields, p.notes ++ [.tagged p.fields.length])

/-- What the string extractors find in a plain text. -/
def tagText (t : Tagger) (text : String) : Except TaggingError (List (Value × Findings)) :=
  Extractor.runAll (.text text) "" t.strings []

end Tagger
end TagRules
