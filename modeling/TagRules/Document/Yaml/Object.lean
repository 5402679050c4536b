import TagRules.Document.Yaml.Merge
import TagRules.Document.Yaml.ScalarValue
import TagRules.Entries
import TagRules.Value.Key

/-!
Objects from nodes. An object has the number of its node, and objects inside are given by number. A
collection is empty at first; collections are filled in the order in which they are met, outer ones before
those inside, so of several errors the outermost counts, and the first of those.
-/
namespace TagRules.Yaml

/-- What is made of a node, and pairs that have no node. -/
inductive Object
  | plain (v : Value)
  | list (items : List Nat)
  | tuple (first second : Nat)
  | set (keys : List Value)
  | map (entries : List (Value × Nat))

abbrev Objects := Array (Option Object)

/-- The nodes, the objects made so far, and all collections in the order in which they were met. -/
structure Making where
  nodes : Nodes
  objects : Objects
  collections : Array Nat

abbrev Make := StateT Making (Except Error)

/-- The collection of a type before it is filled. -/
def emptyOf? (type : String) : Option Object :=
  if type ∈ ["seq", "omap", "pairs"].map standard then some (.list [])
  else if type = standard "set" then some (.set [])
  else if type = standard "map" then some (.map [])
  else none

/-- The text of a scalar; a mapping with an entry for a value of its own stands for that value. -/
def Nodes.textAt? (ns : Nodes) : Nat → Nat → Option String
  | 0, _ => none
  | fuel + 1, number => match ns.contentAt number with
    | .scalar text => some text
    | .sequence _ => none
    | .mapping entries =>
      (entries.find? fun (key, _) => ns.typeAt key = standard "value").bind fun (_, v) => ns.textAt? fuel v

/-- The value of a node that is no collection. A mapping that stands for a value is no timestamp. -/
def Nodes.scalarAt (ns : Nodes) (number : Nat) : Except Error Value :=
  match ns.textAt? (ns.size + 1) number, ns.contentAt number with
  | none, _ => .error .malformed
  | some text, .scalar _ => scalarValue (ns.typeAt number) text (number + 1)
  | some text, _ =>
    if ns.typeAt number = standard "timestamp" then .error .timestampOfEntries
    else scalarValue (ns.typeAt number) text (number + 1)

namespace Make

def put (number : Nat) (o : Object) : Make Unit := modify fun s => { s with objects := s.objects.set! number (some o) }

def object (number : Nat) : Make Unit := do
  let s ← get
  if (s.objects[number]?.join).isSome then return
  match emptyOf? (s.nodes.typeAt number) with
  | some o =>
    put number o
    modify fun s => { s with collections := s.collections.push number }
  | none => put number (.plain (← s.nodes.scalarAt number))

/-- The pair that a mapping with a single entry stands for. -/
def pair (number : Nat) : Make Nat := do
  match (← get).nodes.contentAt number with
  | .mapping [(key, value)] =>
    object key
    object value
    let s ← get
    set { s with objects := s.objects.push (some (.tuple key value)) }
    return s.objects.size
  | _ => throw .malformed

/-- The key that a node stands for; a collection is none. -/
def key (number : Nat) : Make Value := do
  object number
  match (← get).objects[number]?.join with
  | some (.plain v) => return v
  | _ => throw .malformed

/-- The entries of a mapping, with what it merges. -/
def entries (number : Nat) : Make (List (Value × Nat)) := do
  match (← get).nodes.contentAt number with
  | .mapping _ =>
    let ((), nodes) ← (mergeInto number).run (← get).nodes
    modify fun s => { s with nodes }
    (nodes.entriesAt number).foldlM (fun found (k, v) => do
      let k ← key k
      object v
      return Entries.put found k v) []
  | _ => throw .malformed

def items (number : Nat) : Make (List Nat) := do
  match (← get).nodes.contentAt number with
  | .sequence items => return items
  | _ => throw .malformed

def fill (number : Nat) : Make Unit := do
  let type := (← get).nodes.typeAt number
  if type = standard "map" then put number (.map (← entries number))
  else if type = standard "set" then put number (.set ((← entries number).map (·.1)))
  else
    let items ← items number
    if type = standard "seq" then
      items.forM object
      put number (.list items)
    else put number (.list (← items.mapM pair))

/-- Fills the collections from a place in their order on. -/
def fillFrom : Nat → Nat → Make Unit
  | 0, _ => return
  | fuel + 1, place => do
    match (← get).collections[place]? with
    | none => return
    | some number =>
      fill number
      fillFrom fuel (place + 1)

end Make

/-- The objects of nodes, as far as the outermost one needs them. -/
def Objects.ofNodes (nodes : Nodes) (root : Nat) : Except Error Objects := do
  let all : Make Unit := do
    Make.object root
    Make.fillFrom (nodes.size + 1) 0
  let ((), s) ← all.run ⟨nodes, Array.replicate nodes.size none, #[]⟩
  return s.objects

end TagRules.Yaml
