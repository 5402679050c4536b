import TagRules.Text.Quoted

/-!
The tokens of rule expressions. A quoted literal gives a tag token and, if it has a field path, a token
for the path.
-/
namespace TagRules

/-- What a token is; `unknown` stands for a token of no kind of the language. -/
inductive Token.Kind
  | tag
  | fieldPath
  | and
  | or
  | not
  | lparen
  | rparen
  | whitespace
  | eof
  | unknown
  deriving DecidableEq, Repr, Inhabited

/-- A token, its text and the position where it starts. -/
structure Token where
  kind : Token.Kind
  value : String
  position : Int
  deriving DecidableEq, Repr, Inhabited

namespace Token

def Kind.name? : Kind → Option String
  | .tag => some "TAG"
  | .fieldPath => some "FIELD_PATH"
  | .and => some "AND"
  | .or => some "OR"
  | .not => some "NOT"
  | .lparen => some "LPAREN"
  | .rparen => some "RPAREN"
  | .whitespace => some "WHITESPACE"
  | .eof => some "EOF"
  | .unknown => none

/-- What is said of a kind that has no name. -/
def namelessKind : String := "'NoneType' object has no attribute 'name'"

def eof (position : Int) : Token := ⟨.eof, "", position⟩

/-- A token as messages quote it, if its kind has a name. -/
def display? (t : Token) : Option String :=
  t.kind.name?.map fun name =>
    "Token(" ++ name ++ ", " ++ Quoted.text t.value ++ ", pos=" ++ toString t.position ++ ")"

end Token

/-- Why a text has no token at a position. -/
inductive LexError.Cause
  | unexpectedWord
  | unexpectedCharacter
  | unterminatedLiteral
  | emptyName
  | invalidPath
  deriving DecidableEq, Repr, Inhabited

/-- A place where no token can be read, with the text that stands there. -/
structure LexError where
  cause : LexError.Cause
  fragment : String
  position : Nat
  deriving DecidableEq, Repr, Inhabited

namespace LexError

def Cause.text : Cause → String
  | .unexpectedWord => "Unexpected word (tags must be quoted)"
  | .unexpectedCharacter => "Unexpected character"
  | .unterminatedLiteral => "Unterminated tag literal"
  | .emptyName => "Empty tag name"
  | .invalidPath => "Invalid field path"

def message (e : LexError) : String :=
  e.cause.text ++ ": " ++ Quoted.text e.fragment ++ " at position " ++ toString e.position

end LexError
end TagRules
