import TagRules.Entries
import TagRules.Extractor.Problem

/-!
Extractors as a configuration declares them: a type, a name, the kinds of scalars to attach to, and
parameters for the type.
-/
namespace TagRules

/-- A declared extractor. Without kinds of its own it is attached to those of its type. -/
structure ExtractorDefinition where
  type : Value
  name : Value
  kinds : List ScalarKind
  params : List (Value × Value)

namespace ExtractorDefinition

def param? (d : ExtractorDefinition) (key : String) : Option Value := Entries.get? d.params (.text key)

/-- The kinds that a value lists; a text is the name of one. -/
def readKinds (v : Value) : Except DefinitionError (List ScalarKind) := do
  let names ← match v with
    | .text _ => pure [v]
    | v => v.items.mapError .mismatch
  names.mapM fun name =>
    match ScalarKind.ofValue? name with
    | some kind => .ok kind
    | none => .error (.unknownKind name)

/-- A definition from its entries; the name is that of the type unless one is given. -/
def ofEntries (entries : List (Value × Value)) (type : Value) : Except DefinitionError ExtractorDefinition := do
  let entry (key : String) (missing : Value) := (Entries.get? entries (.text key)).getD missing
  match ((entry "params" .null).orElse (.map [])).entries? with
  | some params =>
    let kinds ← readKinds (entry "kinds" (.list []))
    return ⟨type, (entry "name" .null).orElse type, kinds, params⟩
  | none => throw (.paramsNotMap type)

def ofValue (v : Value) : Except DefinitionError ExtractorDefinition :=
  match v.entries?.bind fun es => (Entries.get? es (.text "type")).map fun type => (es, type) with
  | some (es, type) => ofEntries es type
  | none => .error (.noType v)

end ExtractorDefinition
end TagRules
