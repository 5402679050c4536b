import TagRules.Number.Integer
import TagRules.Text.Lines

/-!
What can be wrong with the text of a pattern.
-/
namespace TagRules

inductive PatternError
  | invalid (reason : String)
  | tooManyRepetitions
  | tooManyDigits (count : Nat)
  | clashingFlags
  | tooWideBehind

namespace PatternError

/-- An error at a place of the pattern; in a pattern of several lines, with line and column. -/
def located (source : List Char) (reason : String) (position : Nat) : PatternError :=
  let (line, column) := placeOf source position
  .invalid <| s!"{reason} at position {position}" ++
    if source.contains '\n' then s!" (line {line}, column {column})" else ""

def message : PatternError → String
  | .invalid reason => reason
  | .tooManyRepetitions => "the repetition number is too large"
  | .tooManyDigits count => IntegerError.digitsMessage count
  | .tooWideBehind => "invalid SRE code"
  | .clashingFlags => "ASCII and UNICODE flags are incompatible"

end PatternError
end TagRules
