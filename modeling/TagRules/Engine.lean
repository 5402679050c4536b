import TagRules.Config.Basic
import TagRules.Document.Json.Decode

/-!
The engine: rules together with a tagger. It goes from data to the rules that match.
-/
namespace TagRules

/-- Rules, and the tagger for data if there is one. -/
structure Engine where
  store : RuleStore
  tagger : Option Tagger

inductive ProcessError
  | noTagger
  | document (e : DocumentError)
  | tagging (e : TaggingError)
  | evaluation (e : EvaluationError)

def ProcessError.message : ProcessError → String
  | .noTagger => "RuleEngine has no tagger; pass one to process data"
  | .document e => e.message
  | .tagging e => e.message
  | .evaluation e => e.message

inductive BuildError
  | definition (e : DefinitionError)
  | rule (e : RuleError)

def BuildError.message : BuildError → String
  | .definition e => e.message
  | .rule e => e.message

/-- Rules that match, each with the sources of its expressions that hold. -/
abbrev Matches := List (String × List String)

namespace Engine

def new (tagger : Option Tagger) (caseSensitive : Bool) : Engine := ⟨.empty caseSensitive, tagger⟩

/-- Adds rules; on any error nothing is added. -/
def addRules (g : Engine) (batch : List (String × Value)) : Except RuleError (Engine × List Note) := do
  let (store, notes) ← g.store.addRules batch
  return ({ g with store := store }, notes)

def removeRule (g : Engine) (name : String) : Except UnknownRule Engine := do
  return { g with store := ← g.store.removeRule name }

def addExtractor (g : Engine) (x : Extractor) (kind : ScalarKind) : Engine :=
  { g with tagger := g.tagger.map (·.add x kind) }

/-- The engine of a configuration. The case of operators can be settled from outside. -/
def ofConfig (c : Config) (r : Registry) (l : PatternLanguage) (caseSensitive : Option Bool) :
    Except BuildError (Engine × List Note) := do
  let tagger ← (c.tagger (r.withBuiltin l)).mapError .definition
  let rules := c.rules.map fun (name, sources) => (name, Value.list (sources.map .text))
  ((new (some tagger) (caseSensitive.getD c.caseSensitive)).addRules rules).mapError .rule

def requireTagger (g : Engine) : Except ProcessError Tagger :=
  match g.tagger with
  | some t => .ok t
  | none => .error .noTagger

def evaluate (g : Engine) (evidence : Evidence) : Except ProcessError Matches :=
  (g.store.evaluate .order evidence).mapError .evaluation

/-- Notes go with the outcome, whether or not it is an error. -/
abbrev Noted (α : Type) := Except ProcessError α × List Note

def tag (g : Engine) (data : Value) (s : Selection) : Noted (List Field) :=
  match g.requireTagger with
  | .error e => (.error e, [])
  | .ok t => let (r, notes) := t.tagObject data s
    (r.mapError .tagging, notes)

def tagDocument (g : Engine) (read : Except DocumentError Value) (s : Selection) : Noted (List Field) :=
  match g.requireTagger, read with
  | .error e, _ => (.error e, [])
  | .ok _, .error e => (.error (.document e), [])
  | .ok _, .ok data => g.tag data s

def tagText (g : Engine) (text : String) : Except ProcessError (List (Value × Findings)) := do
  ((← g.requireTagger).tagText text).mapError .tagging

def matchFields (g : Engine) (fields : List Field) : Except ProcessError Matches :=
  g.evaluate (Field.index fields).evidence

def process (g : Engine) (data : Value) (s : Selection) : Except ProcessError Matches := do
  g.matchFields (← (g.tag data s).1)

def processDocument (g : Engine) (read : Except DocumentError Value) (s : Selection) :
    Except ProcessError Matches := do
  g.matchFields (← (g.tagDocument read s).1)

def processText (g : Engine) (text : String) : Except ProcessError Matches := do
  g.evaluate (textEvidence (textTags (← g.tagText text)))

end Engine
end TagRules
