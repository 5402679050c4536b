import TagRules.Entries
import TagRules.Extractor.Problem
import TagRules.Pattern.Search

/-!
Tags for texts by pattern. A tag has any number of patterns, and a text has the tag if one of them is
found in it. What counts as a pattern, and as found, is up to a pattern language.
-/
namespace TagRules

/-- A language of patterns: what a text in it looks for, with or without regard to case. -/
structure PatternLanguage where
  compile : Bool → String → Except PatternError (String → Bool)

namespace PatternLanguage

def search : PatternLanguage := ⟨Pattern.compile⟩

end PatternLanguage

/-- A pattern of a tag, and the test it stands for. -/
structure TagPattern where
  tag : Value
  source : String
  found : String → Bool

structure PatternTagger where
  patterns : List TagPattern

namespace PatternTagger

def readPattern (l : PatternLanguage) (ignoreCase : Bool) (tag given : Value) :
    Except DefinitionError TagPattern :=
  match given with
  | .text source => match l.compile ignoreCase source with
    | .ok found => .ok ⟨tag, source, found⟩
    | .error e => .error (.badPattern source tag e)
  | _ => .error (.patternNotText given tag)

/-- The patterns of one tag: a text, or a list of texts. -/
def readPatterns (l : PatternLanguage) (ignoreCase : Bool) (tag given : Value) :
    Except DefinitionError (List TagPattern) :=
  match given.untied with
  | .text source => do return [← readPattern l ignoreCase tag (.text source)]
  | .list xs | .tuple xs => xs.mapM (readPattern l ignoreCase tag)
  | _ => .error (.patternsNotList tag)

/-- The patterns of a mapping from tags to patterns. -/
def ofValue (l : PatternLanguage) (ignoreCase : Bool) (tags : Value) : Except DefinitionError PatternTagger :=
  match tags.entries? with
  | some es => do
    let rows ← es.mapM fun (tag, given) => readPatterns l ignoreCase tag given
    return ⟨rows.flatten⟩
  | none => .error .patternsNotMap

/-- Patterns found in a text, by tag. -/
def foundIn (s : String) (ps : List TagPattern) : List (Value × List Value) :=
  (ps.filter (·.found s)).foldl (fun found p => Entries.extend found p.tag [.text p.source]) []

/-- Fails on a value that no pattern can be looked for in. -/
def requireText : Value → Except Mismatch String
  | .text s => .ok s
  | .bytes _ => .error .bytesSearched
  | v => .error (.notSearchable v)

/-- An extractor that reports the tags whose patterns are found, and for each the patterns. -/
def extractor (t : PatternTagger) (name : Value) : Extractor where
  name := name
  family := .pattern
  accepts v := .ok (v != .text "")
  extract v :=
    if t.patterns.isEmpty then .ok (some [], .map [])
    else do
      let s ← (requireText v).mapError .mismatch
      let found := foundIn s t.patterns
      return (some (found.map (·.1)), .map (found.map fun (tag, ps) => (tag, .list ps)))

end PatternTagger
end TagRules
