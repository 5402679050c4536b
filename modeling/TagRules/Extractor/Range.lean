import TagRules.Entries
import TagRules.Extractor.Problem

/-!
Tags for numbers by range. A range has a lower and an upper bound, both inclusive and each optional; a
value has the tags of all ranges that contain it. What is no number lies in no range. The bounds of a tag are
numbers; a range as such can be between any values that have an order.
-/
namespace TagRules

/-- Inclusive bounds; a missing bound is open. -/
structure ValueRange where
  min : Option Value
  max : Option Value

namespace ValueRange

/-- Whether a value lies within the bounds: not below the lower one, and then not above the upper one. -/
def contains (r : ValueRange) (v : Value) : Except Mismatch Bool := do
  if let some low := r.min then
    if ← v.isBelow low then return false
  if let some high := r.max then
    if ← v.isAbove high then return false
  return true

@[simp] theorem contains_open (v : Value) : contains ⟨none, none⟩ v = .ok true := rfl

/-- Whether a number lies within bounds that are numbers. -/
def admits (low high : Option Number) (x : Number) : Bool :=
  !(low.any fun low => x.lt low) && !(high.any fun high => high.lt x)

@[simp] theorem admits_open (x : Number) : admits none none x = true := rfl

/-- A range between numbers contains the numbers that its bounds admit. -/
theorem contains_of_number? {low high v : Value} {x y z : Number} (hv : v.number? = some x)
    (hl : low.number? = some y) (hh : high.number? = some z) :
    contains ⟨some low, some high⟩ v = .ok (admits (some y) (some z) x) := by
  simp only [contains, Value.isBelow_of_number? hv hl, Value.isAbove_of_number? hv hh, admits, Option.any_some]
  cases x.lt y <;> cases z.lt x <;> rfl

end ValueRange

structure RangeTagger where
  ranges : List (Value × ValueRange)

namespace RangeTagger

/-- The value inserted in front of the first one above it. -/
def insertSorted (v : Value) : List Value → Except Mismatch (List Value)
  | [] => .ok [v]
  | w :: ws => do if ← v.isBelow w then return v :: w :: ws else return w :: (← insertSorted v ws)

/-- Values in order, if they have one. -/
def sortValues (vs : List Value) : Except Mismatch (List Value) :=
  vs.foldlM (fun sorted v => insertSorted v sorted) []

def joinKeys (keys : List Value) : Except Mismatch String := do
  let texts ← keys.zipIdx.mapM fun (key, i) =>
    match key with
    | .text s => .ok s
    | v => .error (.notJoinable i v)
  return joined ", " texts

/-- A bound of a range; null and no entry leave it open. -/
def readBound (tag : Value) (bounds : List (Value × Value)) (key : String) :
    Except DefinitionError (Option Value) :=
  match Entries.get? bounds (.text key) with
  | none | some .null => .ok none
  | some (.int n) => .ok (some (.int n))
  | some (.float x) => .ok (some (.float x))
  | some v => .error (.boundNotNumber tag key v)

/-- Keys that are no bounds, as a message about a tag lists them. A tag without a text is found out first. -/
def strayText (tag : Value) (stray : List Value) : Except DefinitionError String :=
  if tag.hasText then (sortValues stray >>= joinKeys).mapError .mismatch else .ok ""

/-- A range as it is written: a mapping with nothing but bounds, or null. -/
def readRange (tag given : Value) : Except DefinitionError ValueRange := do
  let bounds ← match given.untied with
    | .null => pure []
    | .map es => pure es
    | _ => throw (.rangeNotMap tag)
  let stray := (bounds.map (·.1)).filter fun key => !(key == .text "min" || key == .text "max")
  if !stray.isEmpty then
    throw (.strayBounds tag (← strayText tag stray))
  let low ← readBound tag bounds "min"
  let high ← readBound tag bounds "max"
  return ⟨low, high⟩

def ofValue (tags : Value) : Except DefinitionError RangeTagger :=
  match tags.entries? with
  | some es => do return ⟨← es.mapM fun (tag, given) => do return (tag, ← readRange tag given)⟩
  | none => .error .rangesNotMap

/-- The tags of the ranges that contain a value. -/
def tagsOf (v : Value) : List (Value × ValueRange) → Except Mismatch (List Value)
  | [] => .ok []
  | (tag, range) :: rest => do
    let inside ← range.contains v
    let more ← tagsOf v rest
    return if inside then tag :: more else more

/-- Every value that is equal to itself is looked at. -/
def accepts : Value → Bool
  | .float x => !x.isNaN
  | _ => true

/-- An extractor that reports the ranges a number lies in. -/
def extractor (r : RangeTagger) (name : Value) : Extractor where
  name := name
  family := .range
  accepts v := .ok (accepts v)
  extract v := do return (some (← (tagsOf v r.ranges).mapError .mismatch), .null)

end RangeTagger
end TagRules
