import TagRules.Number.Decimal

/-!
The types of scalars. A plain scalar has the type that its text looks like.
-/
namespace TagRules.Yaml

/-- What all types of the standard begin with. -/
def standard (name : String) : String := "tag:yaml.org,2002:" ++ name

/-- A test for the head of a text: the rest behind it, if it passes. -/
abbrev Shape := List Char → Option (List Char)

namespace Shape

def one (sort : Char → Bool) : Shape
  | c :: rest => if sort c then some rest else none
  | [] => none

def many (sort : Char → Bool) : Shape := fun cs => some (cs.dropWhile sort)

def sign : Shape := fun cs => some (takeSign cs).2

def digits : Shape := many fun c => c.isDigit || c == '_'

def isSpace (c : Char) : Bool := c == ' ' || c == '\t'

def all (steps : List Shape) : Shape := fun cs => steps.foldlM (fun cs step => step cs) cs

def optional (step : Shape) : Shape := fun cs => (step cs).or (some cs)

def either (a b : Shape) : Shape := fun cs => (a cs).or (b cs)

/-- Whether a test takes a whole text. -/
def fits (s : Shape) (cs : List Char) : Bool := s cs == some []

/-- Digits of a base behind their first characters. -/
def based (lead : List Char) (sort : Char → Bool) : Shape :=
  let digit (c : Char) := sort c || c == '_'
  all (sign :: lead.map (fun c => one (· == c)) ++ [one digit, many digit])

/-- A colon with one or two digits below sixty. -/
def sixtieth : Shape := fun cs =>
  match cs with
  | ':' :: a :: b :: rest =>
    if '0' ≤ a && a ≤ '5' && b.isDigit then some rest
    else if a.isDigit then some (b :: rest) else none
  | [':', a] => if a.isDigit then some [] else none
  | _ => none

/-- As many sixtieths as there are. -/
def sixtieths : Nat → Shape
  | 0, cs => some cs
  | n + 1, cs => match sixtieth cs with
    | some rest => sixtieths n rest
    | none => some cs

/-- A number in base sixty: what comes before the colons, and at least one sixtieth. -/
def sexagesimal (first : Shape) : Shape := fun cs =>
  all [sign, first, digits, sixtieth, sixtieths cs.length] cs

def exponent : Shape :=
  all [one fun c => c == 'e' || c == 'E', one fun c => c == '-' || c == '+', one Char.isDigit, many Char.isDigit]

def oneOrTwoDigits : Shape := all [one Char.isDigit, optional (one Char.isDigit)]

def twoDigits : Shape := all [one Char.isDigit, one Char.isDigit]

def fourDigits : Shape := all [twoDigits, twoDigits]

def char (c : Char) : Shape := one (· == c)

def zone : Shape := all [many isSpace,
  either (char 'Z') (all [one fun c => c == '-' || c == '+', oneOrTwoDigits, optional (all [char ':', twoDigits])])]

def time : Shape := all [
  either (one fun c => c == 'T' || c == 't') (all [one isSpace, many isSpace]),
  oneOrTwoDigits, char ':', twoDigits, char ':', twoDigits,
  optional (all [char '.', many Char.isDigit]), optional zone]

end Shape

open Shape

def isTruthWord (s : String) : Bool :=
  ["yes", "Yes", "YES", "no", "No", "NO", "true", "True", "TRUE", "false", "False", "FALSE",
   "on", "On", "ON", "off", "Off", "OFF"].contains s

def isNullWord (s : String) : Bool := ["", "~", "null", "Null", "NULL"].contains s

def isInteger (cs : List Char) : Bool :=
  (based ['0', 'b'] fun c => c == '0' || c == '1').fits cs
    || (based ['0'] fun c => '0' ≤ c && c ≤ '7').fits cs
    || (all [sign, char '0']).fits cs
    || (all [sign, one fun c => c.isDigit && c != '0', digits]).fits cs
    || (based ['0', 'x'] fun c => (digitValue? c).isSome).fits cs
    || (sexagesimal (one fun c => c.isDigit && c != '0')).fits cs

def isFloat (cs : List Char) : Bool :=
  (all [sign, one Char.isDigit, digits, char '.', digits, optional exponent]).fits cs
    || (all [char '.', one Char.isDigit, digits, optional exponent]).fits cs
    || (all [sexagesimal (one Char.isDigit), char '.', digits]).fits cs
    || ([".inf", ".Inf", ".INF"].map String.toList).contains (takeSign cs).2
    || ([".nan", ".NaN", ".NAN"].map String.toList).contains cs

def isTimestamp (cs : List Char) : Bool :=
  (all [fourDigits, char '-', twoDigits, char '-', twoDigits]).fits cs
    || (all [fourDigits, char '-', oneOrTwoDigits, char '-', oneOrTwoDigits, time]).fits cs

/-- A text without the line feed at its end, which does not count in what a text looks like. -/
def withoutLastBreak (cs : List Char) : List Char := if cs.getLast? = some '\n' then cs.dropLast else cs

/-- The type that a plain text looks like. Some marks alone look like a type of which nothing is known. -/
def typeOf (text : String) : String :=
  let cs := if text = "\n" then ['\n'] else withoutLastBreak text.toList
  let s := String.ofList cs
  standard <|
    if isTruthWord s then "bool"
    else if isFloat cs then "float"
    else if isInteger cs then "int"
    else if s = "<<" then "merge"
    else if isNullWord s then "null"
    else if isTimestamp cs then "timestamp"
    else if s = "=" then "value"
    else if s ∈ ["!", "&", "*"] then "yaml"
    else "str"

end TagRules.Yaml
