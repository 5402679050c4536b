import TagRules.Number.Decimal
import TagRules.Text.Blank
import TagRules.Text.Word

/-!
Integers of any base as they are written by hand: with blanks around, a sign, a mark for the base, low
lines between digits, and digits of any script. The number of decimal digits has a limit.
-/
namespace TagRules

inductive IntegerError
  | malformed
  | tooManyDigits (count : Nat)
  deriving DecidableEq, Repr

namespace IntegerError

/-- The greatest number of decimal digits that are read or written. -/
def digitLimit : Nat := 4300

/-- What is said of an integer with more decimal digits than are read or written. -/
def limitMessage (detail : String) : String :=
  s!"Exceeds the limit ({digitLimit} digits) for integer string conversion" ++ detail
    ++ "; use sys.set_int_max_str_digits() to increase the limit"

def digitsMessage (count : Nat) : String := limitMessage s!": value has {count} digits"

end IntegerError
namespace Numeral

/-- A blank that may stand around a number. -/
def isPadding (c : Char) : Bool := isBlank c && !('\x1c' ≤ c && c ≤ '\x1f')

/-- A text without the blanks around it. -/
def trimmed (cs : List Char) : List Char := ((cs.dropWhile isPadding).reverse.dropWhile isPadding).reverse

/-- The digit of the basic block that does the same as a digit of any script. -/
def basicDigit (c : Char) : Char :=
  match decimalValue? c with
  | some d => .ofNat (48 + d)
  | none => c

/-- A number without the blanks around it, its digits in the basic block. -/
def basic (cs : List Char) : List Char := (trimmed cs).map basicDigit

/-- What follows the mark of a base. -/
def behindMark (base : Nat) (cs : List Char) : List Char :=
  let mark := if base = 16 then ['x', 'X'] else if base = 8 then ['o', 'O'] else if base = 2 then ['b', 'B'] else []
  match cs with
  | '0' :: c :: rest =>
    if mark.contains c then
      match rest with
      | '_' :: digits => digits
      | digits => digits
    else cs
  | _ => cs

def isDigitOf (base : Nat) (c : Char) : Bool := (digitValue? c).any (· < base)

/-- Whether low lines stand only between digits. -/
def isSpaced (cs : List Char) : Bool :=
  cs.head? != some '_' && cs.getLast? != some '_' && (cs.zip cs.tail).all (· ≠ ('_', '_'))

end Numeral

open Numeral in
/-- The integer that a text spells in a base. -/
def readInteger (base : Nat) (cs : List Char) : Except IntegerError Int :=
  let (negative, rest) := takeSign (basic cs)
  let rest := behindMark base rest
  let spaced := rest.takeWhile fun c => isDigitOf base c || c == '_'
  let digits := spaced.filter (· ≠ '_')
  if !isSpaced spaced then .error .malformed
  else if base = 10 ∧ digits.length > IntegerError.digitLimit then .error (.tooManyDigits digits.length)
  else match ofDigits? base digits with
    | some n => if spaced.length = rest.length then .ok (if negative then -(n : Int) else n) else .error .malformed
    | none => .error .malformed

end TagRules
