import TagRules.Document.Yaml.Layout
import TagRules.Document.Yaml.Object

/-!
Values from documents. An object that holds itself becomes a knot, named by its number.
-/
namespace TagRules.Yaml

/-- The values of objects that do not depend on the objects around them. -/
abbrev Closed := Array (Option Value)

def Object.parts : Object → List Nat
  | .plain _ | .set _ => []
  | .list items => items
  | .tuple first second => [first, second]
  | .map entries => entries.map (·.2)

namespace Objects

def partsAt (objects : Objects) (number : Nat) : List Nat := ((objects[number]?.join).map Object.parts).getD []

/-- All that is held by some objects, directly or inside others, besides what is known of it. Each object is
opened once. -/
def reached (objects : Objects) : Nat → List Nat → List Nat → List Nat
  | 0, _, known | _, [], known => known
  | fuel + 1, number :: rest, known =>
    if known.contains number then reached objects fuel rest known
    else reached objects fuel (objects.partsAt number ++ rest) (number :: known)

def holdsAny (objects : Objects) (number : Nat) (others : List Nat) : Bool :=
  let size := (List.range objects.size).foldl (fun n i => n + 1 + (objects.partsAt i).length) 1
  let held := objects.reached size [number] []
  others.any held.contains

/-- A collection with the names that are left open in it: a knot if there are any. -/
def tied (number : Nat) (v : Value) (names : List Nat) : StateM Closed (Value × List Nat) := do
  let v := if names.isEmpty then v else .knot number v
  let outer := (names.filter (· ≠ number)).eraseDups
  if outer.isEmpty then modify (·.set! number (some v))
  return (v, outer)

/-- The value of an object inside others, and the names of those among them that it holds. A knot is made
anew inside what it holds. -/
def valueIn (objects : Objects) : Nat → List Nat → Nat → StateM Closed (Value × List Nat)
  | 0, _, _ => return (.null, [])
  | fuel + 1, around, number => do
    if around.contains number then return (.back number, [number])
    match (← get)[number]?.join with
    | some (.knot name body) => if !objects.holdsAny number around then return (.knot name body, [])
    | some v => return (v, [])
    | none => pure ()
    let inside (number' : Nat) := valueIn objects fuel (number :: around) number'
    match objects[number]?.join with
    | none => return (.null, [])
    | some (.plain v) => return (v, [])
    | some (.set keys) => return (.set keys, [])
    | some (.list items) =>
      let parts ← items.mapM inside
      tied number (.list (parts.map (·.1))) (parts.flatMap (·.2))
    | some (.tuple first second) =>
      let (a, names) ← inside first
      let (b, more) ← inside second
      tied number (.tuple [a, b]) (names ++ more)
    | some (.map entries) =>
      let parts ← entries.mapM fun (key, item) => do
        let (v, names) ← inside item
        return ((key, v), names)
      tied number (.map (parts.map (·.1))) (parts.flatMap (·.2))

/-- The value of an object. No object is inside itself more than once, so their number bounds the depth. -/
def value (objects : Objects) (number : Nat) : Value :=
  let ((v, _), _) := (objects.valueIn (objects.size + 1) [] number).run (Array.replicate objects.size none)
  v

end Objects

/-- The value of the single document in a text; null if there is none. -/
def read (cs : List Char) : Except Error Value := do
  let (ts, fault) := tokens cs
  let (root, nodes) ← Nodes.ofTokens ts fault
  match root with
  | some root => return (← Objects.ofNodes nodes root).value root
  | none => return .null

end TagRules.Yaml
