import TagRules.Expr.Evaluate
import TagRules.Expr.Parser

/-!
The truth of a source text on some evidence: the text is parsed, and its tree is evaluated.
-/
namespace TagRules

inductive SourceError
  | text (e : SyntaxError)
  | tree (e : EvaluationError)

def SourceError.message : SourceError → String
  | .text e => e.message
  | .tree e => e.message

def evaluateSource (source : String) (evidence : Evidence) (caseSensitive : Bool) : Except SourceError Bool := do
  let e ← (parse source caseSensitive).mapError .text
  (e.evaluate evidence).mapError .tree

end TagRules
