import TagRules.Extractor.Basic
import TagRules.Pattern.Problem
import TagRules.Value.Display

/-!
What can be wrong with the definition of an extractor.
-/
namespace TagRules

inductive DefinitionError
  | noType (definition : Value)
  | paramsNotMap (type : Value)
  | unknownKind (kind : Value)
  | unregistered (type : Value) (known : List String)
  | noKinds (type : Value)
  | missingParam (key : String)
  | patternsNotMap
  | patternsNotList (tag : Value)
  | patternNotText (pattern tag : Value)
  | badPattern (pattern : String) (tag : Value) (e : PatternError)
  | rangesNotMap
  | rangeNotMap (tag : Value)
  | strayBounds (tag : Value) (keys : String)
  | boundNotNumber (tag : Value) (key : String) (bound : Value)
  | mismatch (m : Mismatch)

namespace DefinitionError

/-- The values that a message about an error shows. -/
def shownValues : DefinitionError → List Value
  | .noType v | .unknownKind v => [v]
  | .paramsNotMap type | .unregistered type _ | .noKinds type => [type]
  | .patternsNotList tag | .badPattern _ tag (.invalid _) | .rangeNotMap tag | .strayBounds tag _ => [tag]
  | .patternNotText v tag | .boundNotNumber tag _ v => [v, tag]
  | _ => []

/-- What a message says if all values in it have texts. -/
def wording : DefinitionError → String
  | .noType v => "Extractor definition has no 'type': " ++ v.display
  | .paramsNotMap type => "Extractor '" ++ type.shown ++ "' params must be a mapping"
  | .unknownKind v => v.display ++ " is not a valid ExtractorKind"
  | .unregistered type known =>
    "Extractor type '" ++ type.shown ++ "' is not registered. Available types: " ++ joined ", " known
  | .noKinds type => "Extractor type '" ++ type.shown ++ "' is not registered"
  | .missingParam key => key
  | .patternsNotMap => "'tags' must be a mapping of tag name to patterns"
  | .patternsNotList tag => "Patterns for tag '" ++ tag.shown ++ "' must be a list of strings"
  | .patternNotText p tag => "Pattern " ++ p.display ++ " for tag '" ++ tag.shown ++ "' must be a string"
  | .badPattern p tag (.invalid reason) =>
    "Invalid pattern " ++ Quoted.text p ++ " for tag '" ++ tag.shown ++ "': " ++ reason
  | .badPattern _ _ e => e.message
  | .rangesNotMap => "'tags' must be a mapping of tag name to \x7bmin, max\x7d"
  | .rangeNotMap tag => "Range for tag '" ++ tag.shown ++ "' must be a mapping with min/max"
  | .strayBounds tag keys => "Range for tag '" ++ tag.shown ++ "' has unknown keys: " ++ keys
  | .boundNotNumber tag key v =>
    "Range for tag '" ++ tag.shown ++ "' has a non-numeric " ++ key ++ ": " ++ v.display
  | .mismatch m => m.message

def message (e : DefinitionError) : String :=
  if e.shownValues.all Value.hasText then e.wording else Value.withoutText

end DefinitionError
end TagRules
