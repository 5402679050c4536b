import TagRules.Document.Yaml.ImpliedType
import TagRules.Document.Yaml.Token

/-!
Nodes from tokens. Nodes are kept by number, so that one node can be part of several others and of itself.
Every node has a type; a name given to a node stands for it behind the name, also inside the node.
-/
namespace TagRules.Yaml

/-- What a node holds; other nodes by their numbers. -/
inductive Content
  | scalar (text : String)
  | sequence (items : List Nat)
  | mapping (entries : List (Nat × Nat))
  deriving DecidableEq, Repr, Inhabited

structure Node where
  type : String
  content : Content
  deriving DecidableEq, Repr, Inhabited

abbrev Nodes := Array Node

/-- The tokens ahead and the error behind them, the prefixes of types, the nodes so far, and the named ones. -/
structure Reader where
  rest : List Token
  fault : Option Error
  handles : List (String × String)
  nodes : Nodes
  named : List (String × Nat)

abbrev Read := StateT Reader (Except Error)

namespace Read

def fail {α : Type} : Read α := throw .malformed

/-- The next token; the error is met behind the last one. -/
def next? : Read (Option Token) := do
  let r ← get
  match r.rest, r.fault with
  | t :: _, _ => return some t
  | [], some e => throw e
  | [], none => return none

def drop : Read Unit := modify fun r => { r with rest := r.rest.tail }

def accept (t : Token) : Read Bool := do
  if (← next?) = some t then
    drop
    return true
  else return false

def sees (ts : List Token) : Read Bool := do return (← next?).any ts.contains

def takeAnchor : Read (Option String) := do
  match ← next? with
  | some (.anchor name) =>
    drop
    return some name
  | _ => return none

def takeType : Read (Option TagName) := do
  match ← next? with
  | some (.tag name) =>
    drop
    return some name
  | _ => return none

def fullType (name : TagName) : Read String := do
  match name.handle with
  | none => return name.suffix
  | some handle => match (← get).handles.lookup handle with
    | some start => return start ++ name.suffix
    | none => fail

/-- A new node, and its name if it is given one; no name is given twice. -/
def enter (anchor : Option String) (type : String) (content : Content) : Read Nat := do
  let r ← get
  let number := r.nodes.size
  if anchor.any fun name => (r.named.lookup name).isSome then fail
  set { r with
    nodes := r.nodes.push ⟨type, content⟩
    named := (anchor.map fun name => (name, number)).toList ++ r.named }
  return number

def nothing : Read Nat := enter none (standard "null") (.scalar "")

def fill (number : Nat) (content : Content) : Read Nat := do
  modify fun r => { r with nodes := r.nodes.modify number fun n => { n with content } }
  return number

/-- A sequence that is entered before its items are read. -/
def sequence (anchor : Option String) (type : String) (items : Read (List Nat)) : Read Nat := do
  let number ← enter anchor type (.sequence [])
  fill number (.sequence (← items))

/-- A mapping that is entered before its entries are read. -/
def mapping (anchor : Option String) (type : String) (entries : Read (List (Nat × Nat))) : Read Nat := do
  let number ← enter anchor type (.mapping [])
  fill number (.mapping (← entries))

mutual

/-- A node. Blocks can stand only in blocks, and a sequence without indentation only behind a key. -/
def node (fuel : Nat) (block indentless : Bool) : Read Nat :=
  match fuel with
  | 0 => fail
  | fuel + 1 => do
    if let some (.alias name) := ← next? then
      drop
      match (← get).named.lookup name with
      | some n => return n
      | none => fail
    let first ← takeAnchor
    let type ← takeType
    let anchor := first.or (← if type.isSome && first.isNone then takeAnchor else pure none)
    let type ← match type with
      | none => pure none
      | some name => some <$> fullType name
    let given := type.filter (· ≠ "!")
    let sequenceType := given.getD (standard "seq")
    let mappingType := given.getD (standard "map")
    if indentless && (← next?) = some .blockEntry then
      sequence anchor sequenceType (indentlessItems fuel)
    else match ← next? with
      | some (.scalar plain text) =>
        drop
        let implied := if plain || type.isSome then typeOf text else standard "str"
        enter anchor (given.getD implied) (.scalar text)
      | some .flowSequence =>
        drop
        sequence anchor sequenceType (flowItems fuel true)
      | some .flowMapping =>
        drop
        mapping anchor mappingType (flowEntries fuel true)
      | some .blockSequence =>
        if !block then fail
        drop
        sequence anchor sequenceType (blockItems fuel)
      | some .blockMapping =>
        if !block then fail
        drop
        mapping anchor mappingType (blockEntries fuel)
      | _ =>
        if anchor.isNone && type.isNone then fail
        enter anchor (given.getD (standard "null")) (.scalar "")

def nodeUnless (fuel : Nat) (ends : List Token) (block indentless : Bool) : Read Nat :=
  match fuel with
  | 0 => fail
  | fuel + 1 => do
    if ← sees ends then nothing else node fuel block indentless

def blockItems (fuel : Nat) : Read (List Nat) :=
  match fuel with
  | 0 => fail
  | fuel + 1 => do
    if ← accept .blockEnd then return []
    if ← accept .blockEntry then
      let n ← nodeUnless fuel [.blockEntry, .blockEnd] true false
      return n :: (← blockItems fuel)
    else fail

def indentlessItems (fuel : Nat) : Read (List Nat) :=
  match fuel with
  | 0 => fail
  | fuel + 1 => do
    if ← accept .blockEntry then
      let n ← nodeUnless fuel [.blockEntry, .key, .value, .blockEnd] true false
      return n :: (← indentlessItems fuel)
    else return []

def blockEntries (fuel : Nat) : Read (List (Nat × Nat)) :=
  match fuel with
  | 0 => fail
  | fuel + 1 => do
    if ← accept .blockEnd then return []
    if !(← accept .key) then fail
    let ends : List Token := [.key, .value, .blockEnd]
    let k ← nodeUnless fuel ends true true
    if ← accept .value then
      let v ← nodeUnless fuel ends true true
      return (k, v) :: (← blockEntries fuel)
    else
      let v ← nothing
      return (k, v) :: (← blockEntries fuel)

/-- The value of an entry in brackets, nothing if there is no mark for it. -/
def flowValue (fuel : Nat) (close : Token) : Read Nat :=
  match fuel with
  | 0 => fail
  | fuel + 1 => do
    if ← accept .value then nodeUnless fuel [.flowEntry, close] false false else nothing

/-- The items of a sequence in brackets, up to its end; an item with a key is a mapping of one entry. -/
def flowItems (fuel : Nat) (first : Bool) : Read (List Nat) :=
  match fuel with
  | 0 => fail
  | fuel + 1 => do
    if ← accept .flowSequenceEnd then return []
    if !first then
      if !(← accept .flowEntry) then fail
    if ← accept .key then
      let pair ← mapping none (standard "map") do
        let k ← nodeUnless fuel [.value, .flowEntry, .flowSequenceEnd] false false
        return [(k, ← flowValue fuel .flowSequenceEnd)]
      return pair :: (← flowItems fuel false)
    else if ← accept .flowSequenceEnd then return []
    else
      let n ← node fuel false false
      return n :: (← flowItems fuel false)

/-- The entries of a mapping in braces, up to its end. -/
def flowEntries (fuel : Nat) (first : Bool) : Read (List (Nat × Nat)) :=
  match fuel with
  | 0 => fail
  | fuel + 1 => do
    if ← accept .flowMappingEnd then return []
    if !first then
      if !(← accept .flowEntry) then fail
    if ← accept .key then
      let k ← nodeUnless fuel [.value, .flowEntry, .flowMappingEnd] false false
      let v ← flowValue fuel .flowMappingEnd
      return (k, v) :: (← flowEntries fuel false)
    else if ← accept .flowMappingEnd then return []
    else
      let k ← node fuel false false
      let v ← nothing
      return (k, v) :: (← flowEntries fuel false)

end

/-- Takes the directives before a document: the prefixes they declare. -/
def directives (fuel : Nat) (versioned : Bool) (handles : List (String × String)) : Read (List (String × String)) :=
  match fuel with
  | 0 => fail
  | fuel + 1 => do
    match ← next? with
    | some (.version major) =>
      if versioned || major ≠ 1 then fail
      drop
      directives fuel true handles
    | some (.handle h start) =>
      if (handles.lookup h).isSome then fail
      drop
      directives fuel versioned ((h, start) :: handles)
    | some .otherDirective =>
      drop
      directives fuel versioned handles
    | _ => return handles

/-- The prefixes that need no declaration; a declared one takes its place. -/
def standardHandles : List (String × String) := [("!", "!"), ("!!", standard "")]

/-- The content of a document behind its start, nothing before its end. -/
def content (fuel : Nat) : Read Nat := do
  match ← next? with
  | none | some .documentEnd | some .documentStart => nothing
  | some (.version _) | some (.handle _ _) | some .otherDirective => nothing
  | _ => node fuel true false

def markedDocument (fuel : Nat) : Read Nat := do
  let handles ← directives fuel false []
  modify fun r => { r with handles := handles ++ standardHandles }
  if !(← accept .documentStart) then fail
  content fuel

/-- The node of a single document, if there is one. -/
def document (fuel : Nat) : Read (Option Nat) := do
  let n ← match ← next? with
    | none => return none
    | some (.version _) | some (.handle _ _) | some .otherDirective | some .documentStart => markedDocument fuel
    | _ => node fuel true false
  modify fun r => { r with rest := r.rest.dropWhile (· == .documentEnd) }
  if (← next?).isSome then fail
  return some n

end Read

def Nodes.ofTokens (tokens : List Token) (fault : Option Error) : Except Error (Option Nat × Nodes) := do
  let (root, r) ← (Read.document (4 * tokens.length + 4)).run ⟨tokens, fault, Read.standardHandles, #[], []⟩
  return (root, r.nodes)

end TagRules.Yaml
