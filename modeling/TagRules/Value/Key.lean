import TagRules.Value.Basic

/-!
When two values are the same key. Numbers are compared by value, so one, one point zero and true are one
key; times with a zone are compared as instants, records and objects by identity, and everything else part by
part, mappings and sets without regard to order. `Value.key` spells a value as a list of atoms, and two
values are the same key when their spellings are equal.
-/
namespace TagRules

/-- A piece of the spelling of a key: a text, or a mark of some kind with numbers. -/
inductive KeyAtom
  | text (s : String)
  | mark (kind : String) (numbers : List Int)
  deriving DecidableEq, Repr, Ord

namespace KeyAtom

/-- Spellings whose order does not count, in a fixed one. -/
def unordered (spellings : List (List KeyAtom)) : List KeyAtom :=
  (spellings.mergeSort fun a b => (compare a b).isLE).flatten

end KeyAtom

/-- The spelling of a float; one that equals an integer is spelled like it. -/
def Binary64.key (x : Binary64) : KeyAtom :=
  match x.integer?, x with
  | some n, _ => .mark "int" [n]
  | none, .nan payload => .mark "nan" [payload]
  | none, .infinite negative => .mark "infinite" [if negative then -1 else 1]
  | none, .finite negative m e => .mark "float" [if negative then -(m : Int) else m, e]

def Day.key (d : Day) : KeyAtom := .mark "day" [d.year, d.month, d.day]

def TimeOfDay.key (d : Day) (t : TimeOfDay) : KeyAtom :=
  match t.instant? d with
  | some n => .mark "instant" [n]
  | none => .mark "clock" [t.clock d]

namespace Value

mutual

/-- The spelling of a value as a key. -/
def key : Value → List KeyAtom
  | .null => [.mark "null" []]
  | .bool b => [.mark "int" [if b then 1 else 0]]
  | .int n => [.mark "int" [n]]
  | .float x => [x.key]
  | .text s => [.text s]
  | .bytes bs => [.mark "bytes" (bs.map fun b => b.toNat)]
  | .day d => [d.key]
  | .moment d t => [t.key d]
  | .list xs => .mark "list" [xs.length] :: (keys xs).flatten
  | .tuple xs => .mark "tuple" [xs.length] :: (keys xs).flatten
  | .set xs => .mark "set" [xs.length] :: KeyAtom.unordered (keys xs)
  | .map es => .mark "map" [es.length] :: KeyAtom.unordered (entryKeys es)
  | .record identity _ _ | .recordType identity _ | .opaqueObject identity => [.mark "identity" [identity]]
  | .knot name body => .mark "knot" [name] :: body.key
  | .back name => [.mark "back" [name]]

def keys : List Value → List (List KeyAtom)
  | [] => []
  | x :: xs => x.key :: keys xs

def entryKeys : List (Value × Value) → List (List KeyAtom)
  | [] => []
  | (k, v) :: es => (k.key ++ v.key) :: entryKeys es

end

/-- Values are equal as keys. -/
instance : BEq Value := ⟨fun a b => decide (a.key = b.key)⟩

theorem beq_iff {a b : Value} : (a == b) = true ↔ a.key = b.key := decide_eq_true_iff

instance : EquivBEq Value where
  symm h := beq_iff.2 (beq_iff.1 h).symm
  trans h₁ h₂ := beq_iff.2 ((beq_iff.1 h₁).trans (beq_iff.1 h₂))
  rfl := beq_iff.2 rfl

/-- Texts are the same key only when they are equal. -/
@[simp] theorem text_beq_text (s t : String) : (Value.text s == Value.text t) = (s == t) := by
  rw [Bool.eq_iff_iff, beq_iff]
  simp [key]

mutual

/-- The first part of a value that keeps it from being a key: a part whose content may change. -/
def unhashablePart? : Value → Option Value
  | .tuple xs => firstUnhashable? xs
  | .list xs => some (.list xs)
  | .set xs => some (.set xs)
  | .map es => some (.map es)
  | .record identity name fs => some (.record identity name fs)
  | .knot _ body => body.unhashablePart?
  | _ => none

def firstUnhashable? : List Value → Option Value
  | [] => none
  | x :: xs => match x.unhashablePart? with
    | some v => some v
    | none => firstUnhashable? xs

end

end Value
end TagRules
