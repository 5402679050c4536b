import TagRules.Extractor.Registry
import TagRules.Rule.Store
import TagRules.Tagger

/-!
Configurations: named rules, declared extractors, and the paths to tag.
-/
namespace TagRules

inductive ConfigError
  | notMap
  | settingsNotMap
  | rulesNotMap
  | ruleNotTexts (name : Value)
  | pathsNotList (key : String)
  | withoutText
  | definition (e : DefinitionError)
  | mismatch (m : Mismatch)

def ConfigError.message : ConfigError → String
  | .notMap => "Configuration must be a mapping"
  | .settingsNotMap => "'settings' must be a mapping"
  | .rulesNotMap => "'rules' must be a mapping of rule name to expressions"
  | .ruleNotTexts name => "Rule '" ++ name.shown ++ "' must be a list of expression strings"
  | .pathsNotList key => "'settings." ++ key ++ "' must be a list of field paths"
  | .withoutText => Value.withoutText
  | .definition e => e.message
  | .mismatch m => m.message

structure Config where
  rules : List (String × List String)
  definitions : List ExtractorDefinition
  caseSensitive : Bool
  included : List String
  excluded : List String

namespace Config

/-- The expressions of one rule: a text, or a list of texts. -/
def readRule (name given : Value) : Except ConfigError (List String) :=
  match given.untied with
  | .text s => .ok [s]
  | .list xs => match xs.mapM Value.text? with
    | some sources => .ok sources
    | none => .error (.ruleNotTexts name)
  | _ => .error (.ruleNotTexts name)

def textOf (v : Value) : Except ConfigError String := if v.hasText then .ok v.shown else .error .withoutText

/-- The rules of a mapping, under their names as texts; a later rule of the same name takes over. -/
def readRules (v : Value) : Except ConfigError (List (String × List String)) :=
  match v.entries? with
  | some es => do
    return Entries.ofList (← es.mapM fun (name, given) => do return (← textOf name, ← readRule name given))
  | none => .error .rulesNotMap

/-- The paths of a setting: a text, or a list of values that are taken as texts. -/
def readPaths (settings : List (Value × Value)) (key : String) : Except ConfigError (List String) :=
  match (((Entries.get? settings (.text key)).getD .null).orElse (.list [])).untied with
  | .text s => .ok [s]
  | .list xs => xs.mapM textOf
  | _ => .error (.pathsNotList key)

def ofValue (v : Value) : Except ConfigError Config := do
  let some entries := v.entries? | throw .notMap
  let entry (key : String) (missing : Value) := ((Entries.get? entries (.text key)).getD .null).orElse missing
  let some settings := (entry "settings" (.map [])).entries? | throw .settingsNotMap
  let rules ← readRules (entry "rules" (.map []))
  let declared ← (entry "extractors" (.list [])).items.mapError .mismatch
  let definitions ← (declared.mapM ExtractorDefinition.ofValue).mapError .definition
  let caseSensitive := ((Entries.get? settings (.text "caseSensitive")).getD .null).isTruthy
  let included ← readPaths settings "includePaths"
  let excluded ← readPaths settings "excludePaths"
  return ⟨rules, definitions, caseSensitive, included, excluded⟩

/-- The tagger of a configuration, under a registry that already has the types that come with the library. -/
def tagger (c : Config) (r : Registry) : Except DefinitionError Tagger :=
  c.definitions.foldlM (fun t d => do
    let x ← r.create d
    let kinds ← if d.kinds.isEmpty then r.kindsOf d.type else pure d.kinds
    return kinds.foldl (·.add x) t) .empty

end Config
end TagRules
