import TagRules.Document.Yaml.Token

/-!
Tokens from text. Indentation opens and closes blocks. Whether a node is the key of a mapping shows only at
the colon behind it, so the layout remembers where a key may have begun, and puts the tokens for it there.
Such a key stays on one line and is not too long.
-/
namespace TagRules.Yaml

/-- A place where a key may have begun: how many tokens came before it, and whether it has to be one. -/
structure PossibleKey where
  before : Nat
  required : Bool
  place : Cursor

def PossibleKey.isStale (k : PossibleKey) (place : Cursor) : Bool :=
  k.place.line ≠ place.line || place.index - k.place.index > 1024

/-- How far reading has come. `indents` are the columns of the open blocks, innermost first, and `tokens`
are those found so far, latest first. So many of them as `settled` says were certain before the last step:
nothing can be put in between them any more. -/
structure Layout where
  place : Cursor
  flow : Nat
  indents : List Nat
  keyAllowed : Bool
  keys : List (Nat × PossibleKey)
  tokens : List Token
  settled : Nat

abbrev LayoutStep := ExceptT Error (StateM Layout)

namespace Layout

def fail {α : Type} : LayoutStep α := throw .malformed

def take {α : Type} (step : Take α) : LayoutStep α := do
  let s ← get
  match step.run s.place with
  | .error e => throw e
  | .ok (a, place) =>
    set { s with place := place }
    return a

def push (t : Token) : LayoutStep Unit := modify fun s => { s with tokens := t :: s.tokens }

def allowKey (allowed : Bool) : LayoutStep Unit := modify fun s => { s with keyAllowed := allowed }

/-- The list with a token put in before its first so many ones, counted from the end. -/
def insertAfter (before : Nat) (t : Token) (latestFirst : List Token) : List Token :=
  let later := latestFirst.length - before
  latestFirst.take later ++ t :: latestFirst.drop later

def skipGaps : Nat → LayoutStep Unit
  | 0 => return ()
  | fuel + 1 => do
    let atLineEnd ← take do
      discard (takeSome (· = ' '))
      takeComment
      return !(← takeBreak).isEmpty
    if atLineEnd then
      if (← get).flow = 0 then allowKey true
      skipGaps fuel

/-- Gives up keys that did not end on their line, or are too long. -/
def dropStaleKeys : LayoutStep Unit := do
  let s ← get
  if s.keys.any fun k => k.2.isStale s.place && k.2.required then fail
  set { s with keys := s.keys.filter fun k => !k.2.isStale s.place }

/-- Takes note of the tokens before all places where a key may have begun. -/
def settle : LayoutStep Unit := modify fun s =>
  let begun := (s.keys.filter fun k => !k.2.isStale s.place).map fun k => k.2.before
  { s with settled := begun.foldl min s.tokens.length }

/-- Gives up the key that may have begun at this level of brackets. -/
def dropKey : LayoutStep Unit := do
  let s ← get
  if (s.keys.lookup s.flow).any (·.required) then fail
  set { s with keys := s.keys.filter (·.1 ≠ s.flow) }

def saveKey : LayoutStep Unit := do
  let s ← get
  if s.keyAllowed then
    dropKey
    let required := s.flow = 0 && s.indents.head? = some s.place.column
    let key : PossibleKey := ⟨s.tokens.length, required, s.place⟩
    modify fun s => { s with keys := (s.flow, key) :: s.keys }

/-- Closes the blocks that are indented more than a column. -/
def closeBlocks (column : Nat) : LayoutStep Unit := do
  let s ← get
  if s.flow = 0 then
    let closed := s.indents.takeWhile (column < ·)
    set { s with indents := s.indents.drop closed.length, tokens := closed.map (fun _ => Token.blockEnd) ++ s.tokens }

def closeAll : LayoutStep Unit := do
  let s ← get
  if s.flow = 0 then
    set { s with indents := [], tokens := s.indents.map (fun _ => Token.blockEnd) ++ s.tokens }

/-- Opens a block at a column unless it is open: whether it was opened. -/
def openBlock (column : Nat) : LayoutStep Bool := do
  let s ← get
  if s.indents.head?.all (· < column) then
    set { s with indents := column :: s.indents }
    return true
  else return false

/-- Opens a block of some kind where an entry of it stands. -/
def openBlockHere (kind : Token) : LayoutStep Unit := do
  let s ← get
  if s.flow = 0 then
    if !s.keyAllowed then fail
    if ← openBlock s.place.column then push kind

def mark (t : Token) : LayoutStep Unit := do
  take (advance 1)
  push t

def openFlow (t : Token) : LayoutStep Unit := do
  saveKey
  modify fun s => { s with flow := s.flow + 1, keyAllowed := true }
  mark t

def closeFlow (t : Token) : LayoutStep Unit := do
  dropKey
  let s ← get
  if s.flow = 0 then fail
  set { s with flow := s.flow - 1, keyAllowed := false }
  mark t

/-- A mark behind which a key may begin: always, or only outside brackets. -/
def entry (t : Token) (always : Bool) : LayoutStep Unit := do
  allowKey (always || (← get).flow = 0)
  dropKey
  mark t

/-- The mark of a value: what stands before it on the line may turn out to be a key. -/
def valueMark : LayoutStep Unit := do
  let s ← get
  match s.keys.lookup s.flow with
  | some key =>
    let opened ← if s.flow = 0 then openBlock key.place.column else pure false
    modify fun s => { s with
      keys := s.keys.filter (·.1 ≠ s.flow)
      keyAllowed := false
      tokens := insertAfter key.before .key s.tokens }
    if opened then modify fun s => { s with tokens := insertAfter key.before .blockMapping s.tokens }
    mark .value
  | none =>
    openBlockHere .blockMapping
    entry .value false

/-- A token that may begin a key. -/
def keyed (step : Take Token) : LayoutStep Unit := do
  saveKey
  allowKey false
  push (← take step)

def documentMark (step : Take Token) : LayoutStep Unit := do
  closeAll
  dropKey
  allowKey false
  push (← take step)

def blockScalar (fold : Bool) : LayoutStep Unit := do
  allowKey true
  dropKey
  let least := match (← get).indents with
    | [] => 0
    | n :: _ => n + 1
  push (.scalar false (.ofList (← take (takeBlock fold least))))

def plainScalar : LayoutStep Unit := do
  saveKey
  let s ← get
  let least := match s.indents with
    | [] => 0
    | n :: _ => n + 1
  let (text, broken) ← take (takePlain (s.flow ≠ 0) least)
  allowKey broken
  push (.scalar true (.ofList text))

def startsPlain (flow : Bool) : List Char → Bool
  | [] => false
  | c :: rest =>
    !(isGap c || "-?:,[]\x7b\x7d#&*!|>'\"%@`".contains c)
      || (!endsHere rest && (c == '-' || (!flow && (c == '?' || c == ':'))))

def readToken (s : Layout) (c : Char) (rest : List Char) : LayoutStep Unit :=
  let flow := s.flow ≠ 0
  if c = '%' ∧ s.place.column = 0 then documentMark takeDirective
  else if s.place.column = 0 ∧ s.place.atSeparator then documentMark do
    advance 3
    return if c = '-' then .documentStart else .documentEnd
  else if c = '[' then openFlow .flowSequence
  else if c = '\x7b' then openFlow .flowMapping
  else if c = ']' then closeFlow .flowSequenceEnd
  else if c = '\x7d' then closeFlow .flowMappingEnd
  else if c = ',' then entry .flowEntry true
  else if c = '-' ∧ endsHere rest then do
    openBlockHere .blockSequence
    entry .blockEntry true
  else if c = '?' ∧ (flow ∨ endsHere rest) then do
    openBlockHere .blockMapping
    entry .key false
  else if c = ':' ∧ (flow ∨ endsHere rest) then valueMark
  else if c = '*' then keyed do return .alias (← takeNodeName)
  else if c = '&' then keyed do return .anchor (← takeNodeName)
  else if c = '!' then keyed do return .tag (← takeTag)
  else if c = '|' ∧ ¬flow then blockScalar false
  else if c = '>' ∧ ¬flow then blockScalar true
  else if c = '\'' ∨ c = '"' then keyed do return .scalar false (.ofList (← takeQuoted c))
  else if startsPlain flow (c :: rest) then plainScalar
  else fail

def readAll : Nat → LayoutStep Unit
  | 0 => return ()
  | fuel + 1 => do
    settle
    skipGaps ((← get).place.rest.length + 1)
    dropStaleKeys
    closeBlocks (← get).place.column
    let s ← get
    match s.place.rest with
    | [] =>
      closeAll
      dropKey
    | c :: rest =>
      readToken s c rest
      readAll fuel

end Layout

def isAllowed (c : Char) : Bool :=
  let n := c.toNat
  c == '\t' || c == '\n' || c == '\r' || (0x20 ≤ n && n ≤ 0x7E) || n == 0x85
    || (0xA0 ≤ n && n ≤ 0xFFFD) || 0x10000 ≤ n

/-- How many characters are looked at together at first, and then again and again. -/
def firstPart : Nat := 8192

def nextPart : Nat := 4096

/-- The tokens of a text that can be read, and the error behind them. A token at which a key may have begun
does not count before it is certain. -/
def layOut (cs : List Char) : List Token × Option Error :=
  let cs := match cs with
    | '\uFEFF' :: rest => rest
    | cs => cs
  let start : Layout := ⟨⟨cs, 0, 0, 0⟩, 0, [], true, [], [], 0⟩
  match (Layout.readAll (cs.length + 1)).run.run start with
  | (.ok (), s) => (s.tokens.reverse, none)
  | (.error e, s) => (s.tokens.reverse.take s.settled, some e)

/-- The tokens of a text, and the error behind them if not all of it can be read. The text is read in parts,
and a character that cannot stand in a document makes the part it is in unreadable. -/
def tokens (cs : List Char) : List Token × Option Error :=
  let good := (cs.takeWhile isAllowed).length
  if good = cs.length then layOut cs
  else if good < firstPart then ([], some .malformed)
  else
    let parts := firstPart + (good - firstPart) / nextPart * nextPart
    let (ts, fault) := layOut (cs.take parts ++ [unreadable])
    (ts, some (fault.getD .malformed))

end TagRules.Yaml
