import TagRules.Document.Base64
import TagRules.Document.Problem
import TagRules.Document.Yaml.Timestamp
import TagRules.Number.Arithmetic
import TagRules.Number.Integer
import TagRules.Text.Lower
import TagRules.Text.Quoted

/-!
The values of scalars by type: truth values, numbers in several bases, moments, bytes.
-/
namespace TagRules.Yaml

/-- An integer in a base; of a text that is none, only so much is quoted. -/
def integerIn (base : Nat) (cs : List Char) : Except Error Int :=
  (readInteger base cs).mapError fun e =>
    match e with
    | .tooManyDigits count => .value (IntegerError.digitsMessage count)
    | .malformed =>
      let quoted := (Quoted.text (.ofList cs)).toList.take 200
      .value (s!"invalid literal for int() with base {base}: " ++ .ofList quoted)

def splitColons (cs : List Char) : List (List Char) := cs.splitOn ':'

/-- An integer with a sign, in the base that its first digits show. -/
def integerOf (text : String) : Except Error Int := do
  let cs := text.toList.filter (· ≠ '_')
  if cs.isEmpty then throw .emptyNumber
  let (negative, digits) := takeSign cs
  let n ← match digits with
    | [] => throw .emptyNumber
    | ['0'] => pure 0
    | '0' :: 'b' :: rest => integerIn 2 rest
    | '0' :: 'x' :: rest => integerIn 16 rest
    | '0' :: _ => integerIn 8 digits
    | _ =>
      if digits.contains ':' then do
        let parts ← (splitColons digits).mapM (integerIn 10)
        pure (parts.foldl (fun n part => n * 60 + part) 0)
      else integerIn 10 digits
  return if negative then -n else n

def readFloat (cs : List Char) : Except Error Binary64 :=
  match Binary64.read? (.ofList (Numeral.basic cs)) with
  | some x => .ok x
  | none => .error (.value ("could not convert string to float: " ++ Quoted.text (.ofList cs)))

/-- A float with a sign, in decimal or in base sixty. The word for what is no number always means the same
one; spelled in another way it has a payload of its own. -/
def floatOf (text : String) (payload : Nat) : Except Error Binary64 := do
  let cs := (lowerText (.ofList (text.toList.filter (· ≠ '_')))).toList
  if cs.isEmpty then throw .emptyNumber
  let (negative, digits) := takeSign cs
  if digits = ".nan".toList then return .nan 0
  let x ←
    if digits = ".inf".toList then pure (.infinite false)
    else if digits.contains ':' then do
      let parts ← (splitColons digits).mapM readFloat
      let weights := (List.range parts.length).map fun i => Binary64.ofInt (Nat.pow 60 i)
      if weights.contains (.infinite false) then throw .powerTooLarge
      pure ((parts.reverse.zipWith .mul weights).foldl .add (.zero false))
    else readFloat digits
  return (if negative then x.negate else x).withPayload payload

/-- The truth value of a word in any case. -/
def truthOf (text : String) : Except Error Bool :=
  let word := lowerText text
  if word ∈ ["yes", "true", "on"] then .ok true
  else if word ∈ ["no", "false", "off"] then .ok false
  else .error (.unknownWord word)

/-- The value of a scalar of a type. A payload tells it from others if it is no number. -/
def scalarValue (type text : String) (payload : Nat) : Except Error Value :=
  if type = standard "null" then .ok .null
  else if type = standard "bool" then (truthOf text).map .bool
  else if type = standard "int" then (integerOf text).map .int
  else if type = standard "float" then (floatOf text payload).map .float
  else if type = standard "timestamp" then timestampOf text
  else if type = standard "binary" then
    match Base64.decode? text.toList with
    | some bytes => .ok (.bytes bytes)
    | none => .error .malformed
  else if type = standard "str" then .ok (.text text)
  else .error .malformed

end TagRules.Yaml
