import TagRules.Document.Json.Basic
import TagRules.Number.Decimal
import TagRules.Value.Basic

/-!
Numbers and named constants of the notation. A number without fraction and exponent is an integer.
-/
namespace TagRules.Json

/-- The digits at the head of a text, at least one. -/
def digits? (cs : List Char) : Option (List Char) :=
  let ds := cs.takeWhile Char.isDigit
  if ds.isEmpty then none else some ds

def whole? : List Char → Option (List Char)
  | '0' :: _ => some ['0']
  | cs => digits? cs

/-- The fraction of a number, with its point, or nothing. -/
def fraction : List Char → List Char
  | '.' :: cs => match digits? cs with
    | some ds => '.' :: ds
    | none => []
  | _ => []

/-- The exponent of a number, with its letter, or nothing. -/
def power : List Char → List Char
  | c :: cs =>
    if c = 'e' ∨ c = 'E' then
      let sign := cs.take 1 |>.filter fun s => s == '-' || s == '+'
      match digits? (cs.drop sign.length) with
      | some ds => c :: sign ++ ds
      | none => []
    else []
  | [] => []

/-- The characters of a number without its sign: integer part, fraction and exponent. -/
def numberParts? (cs : List Char) : Option (List Char × List Char × List Char) := do
  let w ← whole? cs
  let f := fraction (cs.drop w.length)
  return (w, f, power (cs.drop (w.length + f.length)))

def numberValue (negative : Bool) (whole fraction power : List Char) : Except Fault Value :=
  if fraction.isEmpty && power.isEmpty then
    if IntegerError.digitLimit < whole.length then .error (.tooManyDigits whole.length) else
    let n := (ofDigits? 10 whole).getD 0
    .ok (.int (if negative then -(n : Int) else n))
  else .ok (.float ((Binary64.readUnsigned? negative (whole ++ fraction ++ power)).getD (.nan 0)))

/-- A word at the head of a text, with its value. -/
def constants : List (List Char × Value) :=
  [("null".toList, .null), ("true".toList, .bool true), ("false".toList, .bool false),
   ("NaN".toList, .float (.nan 0)), ("Infinity".toList, .float (.infinite false)),
   ("-Infinity".toList, .float (.infinite true))]

def scalar (cs : List Char) : Except Fault (Read Value cs) :=
  let fault : Fault := .here .expectingValue cs
  match constants.find? (·.1.isPrefixOf cs) with
  | some (name, v) =>
    if h : (cs.drop name.length).length < cs.length then .ok ⟨v, cs.drop name.length, h⟩ else .error fault
  | none =>
    let negative := cs.head? = some '-'
    let unsigned := if negative then cs.drop 1 else cs
    match numberParts? unsigned with
    | none => .error fault
    | some (w, f, p) => do
      let v ← numberValue negative w f p
      let rest := unsigned.drop (w.length + f.length + p.length)
      if h : rest.length < cs.length then .ok ⟨v, rest, h⟩ else .error fault

end TagRules.Json
