import TagRules.Document.Encoding
import TagRules.Number.Integer

/-!
What is wrong with a document: its bytes are no text, its text does not follow the notation, or a number
in it is too long.
-/
namespace TagRules

inductive JsonError.Cause
  | expectingValue
  | expectingComma
  | expectingColon
  | expectingName
  | extraData
  | unterminatedString
  | controlCharacter
  | invalidEscape
  | invalidCodeEscape
  | byteOrderMark
  deriving DecidableEq, Repr

/-- A place where a text stops being a document. -/
structure JsonError where
  cause : JsonError.Cause
  line : Nat
  column : Nat
  position : Nat
  deriving DecidableEq, Repr

namespace JsonError

def Cause.text : Cause → String
  | .expectingValue => "Expecting value"
  | .expectingComma => "Expecting ',' delimiter"
  | .expectingColon => "Expecting ':' delimiter"
  | .expectingName => "Expecting property name enclosed in double quotes"
  | .extraData => "Extra data"
  | .unterminatedString => "Unterminated string starting at"
  | .controlCharacter => "Invalid control character at"
  | .invalidEscape => "Invalid \\escape"
  | .invalidCodeEscape => "Invalid \\uXXXX escape"
  | .byteOrderMark => "Unexpected UTF-8 BOM (decode using utf-8-sig)"

def message (e : JsonError) : String :=
  e.cause.text ++ s!": line {e.line} column {e.column} (char {e.position})"

end JsonError

inductive DocumentError
  | malformed (e : JsonError)
  | encoding (e : DecodeError)
  | tooManyDigits (count : Nat)
  deriving DecidableEq, Repr

namespace DocumentError

def message : DocumentError → String
  | .malformed e => e.message
  | .encoding e => e.message
  | .tooManyDigits count => IntegerError.digitsMessage count

end DocumentError
end TagRules
