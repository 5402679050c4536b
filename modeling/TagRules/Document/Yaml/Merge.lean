import TagRules.Document.Yaml.ImpliedType
import TagRules.Document.Yaml.Node

/-!
Merging of mappings. An entry with the key for merging stands for the entries of other mappings, which come
first. It is taken out before these are looked up, so a mapping may merge with itself, and each entry of
this kind counts once.
-/
namespace TagRules.Yaml

namespace Nodes

def typeAt (ns : Nodes) (number : Nat) : String := (ns[number]?.map Node.type).getD ""

def contentAt (ns : Nodes) (number : Nat) : Content := (ns[number]?.map Node.content).getD (.scalar "")

def entriesAt (ns : Nodes) (number : Nat) : List (Nat × Nat) :=
  match ns.contentAt number with
  | .mapping entries => entries
  | _ => []

def setEntries (ns : Nodes) (number : Nat) (entries : List (Nat × Nat)) : Nodes :=
  ns.modify number fun n => { n with content := .mapping entries }

/-- Whether an entry stands for those of other mappings. -/
def isMerge (ns : Nodes) (entry : Nat × Nat) : Bool := ns.typeAt entry.1 = standard "merge"

def mergeCount (ns : Nodes) : Nat :=
  (List.range ns.size).foldl (fun count number => count + (ns.entriesAt number).countP ns.isMerge) 0

/-- The mark for a value is just a text where it is a key. -/
def plainKeys (ns : Nodes) (entries : List (Nat × Nat)) : Nodes :=
  entries.foldl (fun ns (key, _) =>
    if ns.typeAt key = standard "value" then ns.modify key fun n => { n with type := standard "str" } else ns) ns

/-- A mapping with merged entries in front of its own. -/
def putMerged (ns : Nodes) (number : Nat) (merged : List (Nat × Nat)) : Nodes :=
  let entries := merged ++ ns.entriesAt number
  (if merged.isEmpty then ns else ns.setEntries number entries).plainKeys entries

end Nodes

abbrev Merging := StateT Nodes (Except Error)

/-- Takes out the first entry for merging: what it refers to. -/
def takeMerge (number : Nat) : Merging (Option Nat) := do
  let ns ← get
  let entries := ns.entriesAt number
  match entries.find? ns.isMerge with
  | none => return none
  | some entry =>
    set (ns.setEntries number (entries.eraseP ns.isMerge))
    return some entry.2

/-- The entries to merge into a mapping: those of a mapping, or of a list of mappings, the last first. The
number of entries for merging bounds the depth. -/
def mergedEntries : Nat → Nat → List (Nat × Nat) → Merging (List (Nat × Nat))
  | 0, _, merged => return merged
  | fuel + 1, number, merged => do
    let some source ← takeMerge number | return merged
    let entriesOf (number : Nat) : Merging (List (Nat × Nat)) := do
      let inner ← mergedEntries fuel number []
      modify (·.putMerged number inner)
      return (← get).entriesAt number
    let more ← match (← get).contentAt source with
      | .scalar _ => throw .malformed
      | .mapping _ => entriesOf source
      | .sequence items => do
        let parts ← items.mapM fun item => do
          match (← get).contentAt item with
          | .mapping _ => entriesOf item
          | _ => throw .malformed
        pure parts.reverse.flatten
    mergedEntries fuel number (merged ++ more)

def mergeInto (number : Nat) : Merging Unit := do
  let merged ← mergedEntries (← get).mergeCount number []
  modify (·.putMerged number merged)

end TagRules.Yaml
