import TagRules.Entries
import TagRules.Value.Mismatch

/-!
Extractors. An extractor takes scalars of some kinds, says which values it accepts and which tags it
finds in them. `runAll` runs a list of them on one value; the findings are kept by extractor name.
-/
namespace TagRules

inductive ScalarKind
  | string
  | int
  | float
  deriving DecidableEq, Repr, Inhabited

namespace ScalarKind

def name : ScalarKind → String
  | .string => "string"
  | .int => "int"
  | .float => "float"

def all : List ScalarKind := [.string, .int, .float]

/-- The kind with a given name. -/
def ofValue? (v : Value) : Option ScalarKind := v.text?.bind fun s => all.find? (·.name == s)

end ScalarKind

/-- What an extractor could not do, and on which field. -/
structure ExtractorError where
  reason : String
  extractor : Value
  field : String

def ExtractorError.message (e : ExtractorError) : String :=
  "Extractor '" ++ e.extractor.shown ++ "' failed on field '" ++ e.field ++ "': " ++ e.reason

/-- How an extractor fails: with an error of its own kind, on an unfit value, or in some other way. -/
inductive Failure
  | extractor (e : ExtractorError)
  | mismatch (m : Mismatch)
  | other (category reason : String)

namespace Failure

def message : Failure → String
  | .extractor e => e.message
  | .mismatch m => m.message
  | .other _ reason => reason

end Failure

inductive Family
  | pattern
  | range
  | other
  deriving DecidableEq, Repr

/-- A named source of tags. What it finds may be no list at all. -/
structure Extractor where
  name : Value
  family : Family
  accepts : Value → Except Failure Bool
  extract : Value → Except Failure (Option (List Value) × Value)

/-- The tags found by one extractor in one value, and what it tells about them. -/
structure Findings where
  tags : List Value
  runData : Value

inductive TaggingError
  | extractor (e : ExtractorError)
  | nameWithoutText
  | mismatch (m : Mismatch)

def TaggingError.message : TaggingError → String
  | .extractor e => e.message
  | .nameWithoutText => Value.withoutText
  | .mismatch m => m.message

/-- The error of the field where a failure arose; an extractor's own error stays as it is. -/
def Failure.on (f : Failure) (extractor : Value) (field : String) : TaggingError :=
  match f with
  | .extractor e => .extractor e
  | f => if extractor.hasText then .extractor ⟨f.message, extractor, field⟩ else .nameWithoutText

namespace Extractor

/-- What one extractor finds in a value, nothing if it does not accept it. -/
def run (x : Extractor) (v : Value) : Except Failure (Option Findings) := do
  if ← x.accepts v then
    let (tags, data) ← x.extract v
    return some ⟨tags.getD [], data⟩
  else return none

/-- Runs extractors in order and keeps their findings by name; later ones overwrite. -/
def runAll (v : Value) (path : String) :
    List Extractor → List (Value × Findings) → Except TaggingError (List (Value × Findings))
  | [], found => .ok found
  | x :: rest, found =>
    match x.run v with
    | .error f => .error (f.on x.name path)
    | .ok none => runAll v path rest found
    | .ok (some findings) =>
      match x.name.requireHashable with
      | .error m => .error (.mismatch m)
      | .ok () => runAll v path rest (Entries.put found x.name findings)

end Extractor
end TagRules
