import TagRules.Extractor.Definition
import TagRules.Extractor.Pattern
import TagRules.Extractor.Range

/-!
The types of extractors that a configuration can name. The first registration of a name counts, until the
registry is cleared.
-/
namespace TagRules

/-- A type of extractors: how to build one, and the kinds it is attached to if a definition names none. -/
structure ExtractorType where
  build : ExtractorDefinition → Except DefinitionError Extractor
  kinds : List ScalarKind

namespace ExtractorType

def pattern (l : PatternLanguage) : ExtractorType where
  build d := do
    let tags := ((d.param? "tags").getD .null).orElse (.map [])
    let ignoreCase := ((d.param? "ignoreCase").getD .null).isTruthy
    return (← PatternTagger.ofValue l ignoreCase tags).extractor d.name
  kinds := [.string]

def range : ExtractorType where
  build d := do
    let tags := ((d.param? "tags").getD .null).orElse (.map [])
    return (← RangeTagger.ofValue tags).extractor d.name
  kinds := [.int, .float]

end ExtractorType

/-- Types of extractors by name, in order of registration. -/
abbrev Registry := List (String × ExtractorType)

namespace Registry

/-- Registers a type unless its name is taken. -/
def register (r : Registry) (name : String) (t : ExtractorType) : Registry :=
  if Entries.contains r name then r else r ++ [(name, t)]

/-- Registers the types that come with the library. -/
def withBuiltin (r : Registry) (l : PatternLanguage) : Registry :=
  (r.register "pattern" (.pattern l)).register "range" .range

def names (r : Registry) : List String := (r.map (·.1)).mergeSort fun a b => decide (a ≤ b)

def type? (r : Registry) (type : Value) : Option ExtractorType := type.text?.bind (Entries.get? r)

def create (r : Registry) (d : ExtractorDefinition) : Except DefinitionError Extractor := do
  d.type.requireHashable.mapError .mismatch
  match r.type? d.type with
  | some t => t.build d
  | none => throw (.unregistered d.type r.names)

/-- The kinds that extractors of a type are attached to by default. -/
def kindsOf (r : Registry) (type : Value) : Except DefinitionError (List ScalarKind) := do
  type.requireHashable.mapError .mismatch
  match r.type? type with
  | some t => return t.kinds
  | none => throw (.noKinds type)

theorem register_of_contains {r : Registry} {name : String} (t : ExtractorType)
    (h : Entries.contains r name) : r.register name t = r := by
  simp [register, h]

end Registry
end TagRules
