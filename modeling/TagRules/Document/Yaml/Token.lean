import TagRules.Document.Yaml.Scalar
import TagRules.Number.Integer

/-!
The tokens of a block document: marks, names of nodes and types, scalars, and the starts and ends of
blocks that follow from indentation.
-/
namespace TagRules.Yaml

/-- A type as it is written: a handle that stands for a prefix, and the rest. -/
structure TagName where
  handle : Option String
  suffix : String
  deriving DecidableEq, Repr

inductive Token
  | version (major : Nat)
  | handle (handle start : String)
  | otherDirective
  | documentStart
  | documentEnd
  | blockSequence
  | blockMapping
  | blockEnd
  | flowSequence
  | flowSequenceEnd
  | flowMapping
  | flowMappingEnd
  | blockEntry
  | flowEntry
  | key
  | value
  | alias (name : String)
  | anchor (name : String)
  | tag (name : TagName)
  | scalar (plain : Bool) (text : String)
  deriving DecidableEq, Repr

/-- A letter, digit, minus sign or low line, as in names. -/
def isNamePart (c : Char) : Bool := c.isAlphanum || c == '-' || c == '_'

def isUriPart (c : Char) : Bool := isNamePart c || "-;/?:@&=+$,_.!~*'()[]".contains c

def takeName : Take String := do
  let name ← takeSome isNamePart
  if name.isEmpty then malformed
  return .ofList name

/-- Takes bytes that are written as codes of two digits. -/
def takeCodes : Nat → Take (List UInt8)
  | 0 => return []
  | fuel + 1 => do
    match ← ahead with
    | '%' :: a :: b :: _ =>
      match ofDigits? 16 [a, b] with
      | none => malformed
      | some n =>
        advance 3
        return .ofNat n :: (← takeCodes fuel)
    | '%' :: _ => malformed
    | _ => return []

/-- Takes the parts of a type up to a character that cannot belong to it. -/
def takeUriParts : Nat → List Char → Take (List Char)
  | 0, text => return text
  | fuel + 1, text => do
    if (← peek?) = some '%' then
      let bytes ← takeCodes ((← ahead).length + 1)
      match String.fromUTF8? ⟨bytes.toArray⟩ with
      | none => malformed
      | some s => takeUriParts fuel (text ++ s.toList)
    else
      let part ← takeSome isUriPart
      if part.isEmpty then return text else takeUriParts fuel (text ++ part)

def takeUri : Take String := do
  let start := (← get).index
  let text ← takeUriParts ((← ahead).length + 1) []
  if (← get).index = start then malformed
  return .ofList text

/-- Takes a handle: a name between exclamation marks, or one such mark. -/
def takeHandle : Take String := do
  if (← peek?) ≠ some '!' then malformed
  advance 1
  if (← peek?) = some ' ' then return "!"
  let name ← takeSome isNamePart
  if (← peek?) ≠ some '!' then malformed
  advance 1
  return .ofList ('!' :: name ++ ['!'])

/-- Fails unless a space or the end of a line comes next. -/
def requireGap : Take Unit := do
  if (← peek?).any fun c => !(c == ' ' || isBreak c) then malformed

def takeNumber : Take Nat := do
  let digits ← takeSome Char.isDigit
  if (← peek?) = some unreadable then malformed
  if digits.length > IntegerError.digitLimit then throw (.value (IntegerError.digitsMessage digits.length))
  match ofDigits? 10 digits with
  | some n => return n
  | none => malformed

def takeDirective : Take Token := do
  advance 1
  let name ← takeName
  requireGap
  let spaces : Take Unit := discard (takeSome (· = ' '))
  let token ← if name = "YAML" then do
      spaces
      let major ← takeNumber
      if (← peek?) ≠ some '.' then malformed
      advance 1
      discard takeNumber
      requireGap
      pure (.version major)
    else if name = "TAG" then do
      spaces
      let handle ← takeHandle
      if (← peek?) ≠ some ' ' then malformed
      spaces
      let start ← takeUri
      requireGap
      pure (.handle handle start)
    else do
      discard (takeSome (!isBreak ·))
      pure .otherDirective
  takeEmptyLine
  return token

def takeNodeName : Take String := do
  advance 1
  let name ← takeName
  if (← peek?).any fun c => !(isGap c || "?:,]\x7d%@`".contains c) then malformed
  return name

def takeTag : Take TagName := do
  let name ← match (← ahead).tail with
    | '<' :: _ => do
      advance 2
      let uri ← takeUri
      if (← peek?) ≠ some '>' then malformed
      advance 1
      pure ⟨none, uri⟩
    | rest => do
      if endsHere rest then
        advance 1
        pure ⟨none, "!"⟩
      else if (rest.takeWhile fun c => !(c == ' ' || isBreak c)).contains '!' then do
        let handle ← takeHandle
        pure ⟨some handle, ← takeUri⟩
      else do
        advance 1
        pure ⟨some "!", ← takeUri⟩
  requireGap
  return name

end TagRules.Yaml
