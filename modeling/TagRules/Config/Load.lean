import TagRules.Config.Basic
import TagRules.Document.Yaml.NodeValue

/-!
Configurations from files.
-/
namespace TagRules

inductive LoadError
  | document (e : Yaml.Error)
  | config (e : ConfigError)

namespace Config

/-- The configuration in the characters of a file; a file with nothing in it is one without settings. -/
def ofFile (cs : List Char) : Except LoadError Config := do
  let v ← (Yaml.read (uniformLines cs)).mapError .document
  (ofValue (v.orElse (.map []))).mapError .config

end Config
end TagRules
