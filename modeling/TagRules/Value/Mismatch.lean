import TagRules.Value.Basic
import TagRules.Value.Display
import TagRules.Value.Key

/-!
Values of the wrong shape: what an operation does with a value that it is not made for.
-/
namespace TagRules

/-- A value met where another shape is needed. -/
inductive Mismatch
  | notIterable (v : Value)
  | notContainer (v : Value)
  | unhashable (v : Value)
  | notOrdered (operator : String) (left right : Value)
  | zonedWithUnzoned
  | momentWithDay
  | notSearchable (v : Value)
  | bytesSearched
  | notJoinable (position : Nat) (v : Value)
  | bareExpression (rule : String)
  | notExpression (rule : String) (v : Value)

namespace Mismatch

def message : Mismatch → String
  | .notIterable v => "'" ++ v.typeName ++ "' object is not iterable"
  | .notContainer v => "argument of type '" ++ v.typeName ++ "' is not iterable"
  | .unhashable v => "unhashable type: '" ++ v.typeName ++ "'"
  | .notOrdered operator l r =>
    "'" ++ operator ++ "' not supported between instances of '" ++ l.typeName ++ "' and '" ++ r.typeName ++ "'"
  | .zonedWithUnzoned => "can't compare offset-naive and offset-aware datetimes"
  | .momentWithDay => "can't compare datetime.datetime to datetime.date"
  | .notSearchable v => "expected string or bytes-like object, got '" ++ v.typeName ++ "'"
  | .bytesSearched => "cannot use a string pattern on a bytes-like object"
  | .notJoinable position v => s!"sequence item {position}: expected str instance, {v.typeName} found"
  | .bareExpression rule => "Rule '" ++ rule ++ "' expressions must be a list of strings, not a string"
  | .notExpression rule v => "Rule '" ++ rule ++ "' expressions must be strings, got " ++ v.display

end Mismatch
namespace Value

/-- The elements that a loop over a value visits. -/
def items (v : Value) : Except Mismatch (List Value) :=
  match v.untied with
  | .text s => .ok (s.toList.map fun c => .text (.singleton c))
  | .bytes bs => .ok (bs.map fun b => .int b.toNat)
  | .list xs | .tuple xs | .set xs => .ok xs
  | .map es => .ok (es.map (·.1))
  | v => .error (.notIterable v)

def requireHashable (v : Value) : Except Mismatch Unit :=
  match v.unhashablePart? with
  | some part => .error (.unhashable part)
  | none => .ok ()

/-- Whether one moment is before another; a zone makes it an instant. -/
def earlier (a b : Day × TimeOfDay) : Except Mismatch Bool :=
  match a.2.instant? a.1, b.2.instant? b.1 with
  | some m, some n => .ok (m < n)
  | none, none => .ok (a.2.clock a.1 < b.2.clock b.1)
  | _, _ => .error .zonedWithUnzoned

/-- Whether a list has all that another has, and more. -/
def isPartOf (xs ys : List Value) : Bool := xs.length < ys.length && xs.all ys.contains

mutual

/-- Whether one value is below another. Texts and bytes are ordered by their units, lists and tuples by the
first place where they differ, and a set is below those that have all it has and more. -/
def less (operator : String) (flip : Bool) (a b : Value) : Except Mismatch Bool :=
  let order {α : Type} (lt : α → α → Bool) (x y : α) := if flip then lt y x else lt x y
  match a.number?, b.number? with
  | some x, some y => .ok (order Number.lt x y)
  | _, _ => match a, b with
    | .text s, .text t => .ok (order (fun s t => decide (s < t)) s t)
    | .bytes s, .bytes t => .ok (order (fun s t => decide (s.map UInt8.toNat < t.map UInt8.toNat)) s t)
    | .day d, .day e => .ok (order (fun d e => decide (d.number < e.number)) d e)
    | .moment d t, .moment e u => if flip then earlier (e, u) (d, t) else earlier (d, t) (e, u)
    | .day _, .moment _ _ | .moment _ _, .day _ => .error .momentWithDay
    | .list xs, .list ys | .tuple xs, .tuple ys => lessAt operator flip xs ys
    | .set xs, .set ys => .ok (order isPartOf xs ys)
    | _, _ => .error (.notOrdered operator a b)

def lessAt (operator : String) (flip : Bool) : List Value → List Value → Except Mismatch Bool
  | x :: xs, y :: ys => if x == y then lessAt operator flip xs ys else less operator flip x y
  | [], [] => .ok false
  | [], _ :: _ => .ok !flip
  | _ :: _, [] => .ok flip

end

def isBelow (a b : Value) : Except Mismatch Bool := less "<" false a b

def isAbove (a b : Value) : Except Mismatch Bool := less ">" true a b

/-- Numbers are ordered as numbers. -/
theorem isBelow_of_number? {a b : Value} {x y : Number} (ha : a.number? = some x) (hb : b.number? = some y) :
    a.isBelow b = .ok (x.lt y) := by
  unfold isBelow less
  simp [ha, hb]

theorem isAbove_of_number? {a b : Value} {x y : Number} (ha : a.number? = some x) (hb : b.number? = some y) :
    a.isAbove b = .ok (y.lt x) := by
  unfold isAbove less
  simp [ha, hb]

end Value
end TagRules
