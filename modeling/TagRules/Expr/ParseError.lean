import TagRules.Expr.Basic
import TagRules.Token.Basic

/-!
What is wrong with a source text: it cannot be read as tokens, or a token does not fit where it stands.
-/
namespace TagRules

inductive ParseError.Cause
  | missingOperator (value : String)
  | noLeftOperand (op : Connective)
  | missingOperand (op before : Connective)
  | missingRightOperand (op : Connective)
  | unexpectedAfterNot (text : String)
  | namelessKind
  | unexpectedToken (value : String)
  | unclosedGroup
  | extraClosing (count : Int)
  | conflictingTag (value name : String)
  | conflictingPath (value path : String)
  | pathWithoutTag (path : String)
  | emptyExpression
  deriving DecidableEq, Repr, Inhabited

structure ParseError where
  cause : ParseError.Cause
  token : Token
  deriving DecidableEq, Repr, Inhabited

namespace ParseError

def Cause.text : Cause → String
  | .missingOperator value => "Missing operator before '" ++ value ++ "'"
  | .noLeftOperand op => "No left operand for " ++ op.name
  | .missingOperand op before => "Unexpected " ++ op.name ++ " after " ++ before.name ++ ": missing operand"
  | .missingRightOperand op => "Incomplete expression: " ++ op.name ++ " is missing its right operand"
  | .unexpectedAfterNot text => "Unexpected token '" ++ text ++ "' after NOT"
  | .namelessKind => Token.namelessKind
  | .unexpectedToken value => "Unexpected token '" ++ value ++ "'"
  | .unclosedGroup => "Unexpected '(': missing closing parenthesis at end of input"
  | .extraClosing count => "Extra closing parentheses: " ++ toString count
  | .conflictingTag value name => "Unexpected tag '" ++ value ++ "' conflicting with '" ++ name ++ "'"
  | .conflictingPath value path =>
    "Unexpected field path '" ++ value ++ "' conflicting with '" ++ path ++ "'"
  | .pathWithoutTag path => "Field path '" ++ path ++ "' without a tag"
  | .emptyExpression => "Empty expression"

/-- The message of an error: its cause and, unless the token is of no kind, its place. -/
def message (e : ParseError) : String :=
  match e.cause with
  | .namelessKind => e.cause.text
  | cause => cause.text ++ " at position " ++ toString e.token.position

end ParseError

/-- Why a source is no expression: it cannot be read, or its tokens do not fit. -/
inductive SyntaxError
  | lex (e : LexError)
  | parse (e : ParseError)
  deriving DecidableEq, Repr, Inhabited

def SyntaxError.message : SyntaxError → String
  | .lex e => e.message
  | .parse e => e.message

end TagRules
