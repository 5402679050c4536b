import TagRules.Number.Compare
import TagRules.Value.Calendar

/-!
The data that rules and extractors see: scalars, sequences, mappings, records. A `Value` is what a
document decodes to or what a caller hands over. Records, types and objects are told apart by identity, not
by what is in them. A collection may hold itself: such a knot has a name, which stands for the whole inside
it.
-/
namespace TagRules

inductive Value
  | null
  | bool (b : Bool)
  | int (n : Int)
  | float (x : Binary64)
  | text (s : String)
  | bytes (bs : List UInt8)
  | day (d : Day)
  | moment (d : Day) (t : TimeOfDay)
  | list (xs : List Value)
  | tuple (xs : List Value)
  | set (xs : List Value)
  | map (entries : List (Value × Value))
  | record (identity : Nat) (name : String) (fields : List (String × Value))
  | recordType (identity : Nat) (name : String)
  | opaqueObject (identity : Nat)
  | knot (name : Nat) (body : Value)
  | back (name : Nat)
  deriving Repr, Inhabited

namespace Value

mutual

/-- A value with another one in place of a name. -/
def replace (name : Nat) (whole : Value) : Value → Value
  | .back n => if n = name then whole else .back n
  | .knot n body => .knot n (if n = name then body else replace name whole body)
  | .list xs => .list (replaceAll name whole xs)
  | .tuple xs => .tuple (replaceAll name whole xs)
  | .map es => .map (replaceEntries name whole es)
  | v => v

def replaceAll (name : Nat) (whole : Value) : List Value → List Value
  | [] => []
  | x :: xs => replace name whole x :: replaceAll name whole xs

def replaceEntries (name : Nat) (whole : Value) : List (Value × Value) → List (Value × Value)
  | [] => []
  | (k, v) :: es => (k, replace name whole v) :: replaceEntries name whole es

end

/-- A value whose outermost collection is no knot. -/
def untied : Value → Value
  | .knot name body => replace name (.knot name body) body
  | v => v

def typeName : Value → String
  | .null => "NoneType"
  | .bool _ => "bool"
  | .int _ => "int"
  | .float _ => "float"
  | .text _ => "str"
  | .bytes _ => "bytes"
  | .day _ => "datetime.date"
  | .moment _ _ => "datetime.datetime"
  | .list _ => "list"
  | .tuple _ => "tuple"
  | .set _ => "set"
  | .map _ => "dict"
  | .record _ name _ => name
  | .recordType _ _ => "type"
  | .opaqueObject _ | .back _ => "object"
  | .knot _ body => body.typeName

/-- The name of a value's type without what stands before a dot. -/
def shortTypeName : Value → String
  | .day _ => "date"
  | .moment _ _ => "datetime"
  | v => v.typeName

/-- Whether a value counts as given: not null, false, zero or empty. -/
def isTruthy : Value → Bool
  | .null => false
  | .bool b => b
  | .int n => n != 0
  | .float x => !x.isZero
  | .text s => !s.isEmpty
  | .bytes bs => !bs.isEmpty
  | .list xs | .tuple xs | .set xs => !xs.isEmpty
  | .map es => !es.isEmpty
  | .knot _ body => body.isTruthy
  | _ => true

/-- The value, or another one in place of what does not count as given. -/
def orElse (v other : Value) : Value := if v.isTruthy then v else other

def text? : Value → Option String
  | .text s => some s
  | _ => none

def entries? (v : Value) : Option (List (Value × Value)) :=
  match v.untied with
  | .map es => some es
  | _ => none

/-- The number a value stands for in comparisons; a truth value is zero or one. -/
def number? : Value → Option Number
  | .bool b => some (.int (if b then 1 else 0))
  | .int n => some (.int n)
  | .float x => some (.float x)
  | _ => none

end Value
end TagRules
