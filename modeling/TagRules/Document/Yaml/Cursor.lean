import TagRules.Text.Lines

/-!
A place in a block document, and taking characters from there. Lines end with a line feed or with one of
three other characters, two of which stay in the text.
-/
namespace TagRules.Yaml

/-- Why a text is no block document: it is not well formed, or a scalar in it has no value of its type. -/
inductive Error
  | malformed
  | value (reason : String)
  | unknownWord (word : String)
  | emptyNumber
  | noTimestamp
  | codeTooLarge
  | powerTooLarge
  | timestampOfEntries
  deriving DecidableEq, Repr

def Error.message : Error → String
  | .malformed => "not a well-formed document"
  | .value reason => reason
  | .unknownWord word => word
  | .emptyNumber => "string index out of range"
  | .noTimestamp => "'NoneType' object has no attribute 'groupdict'"
  | .codeTooLarge => "Python int too large to convert to C int"
  | .powerTooLarge => "int too large to convert to float"
  | .timestampOfEntries => "expected string or bytes-like object, got 'list'"

/-- What is ahead, how many characters have been taken, and the place in lines and columns. -/
structure Cursor where
  rest : List Char
  index : Nat
  line : Nat
  column : Nat

abbrev Take := StateT Cursor (Except Error)

def malformed {α : Type} : Take α := throw .malformed

/-- A character that no document has; it stands for a part of the text that cannot be read. -/
def unreadable : Char := '\x00'

def isBreak (c : Char) : Bool := c == '\n' || c == '\x85' || c == '\u2028' || c == '\u2029'

/-- A space or the end of a line. -/
def isGap (c : Char) : Bool := c == ' ' || c == '\t' || isBreak c

/-- Whether a gap or the end of the text comes next. -/
def endsHere : List Char → Bool
  | [] => true
  | c :: _ => isGap c

def endsLine : List Char → Bool
  | [] => true
  | c :: _ => isBreak c

namespace Cursor

/-- The cursor behind one character; a byte order mark has no width. -/
def next (k : Cursor) : Cursor :=
  match k.rest with
  | [] => k
  | c :: rest =>
    if isBreak c then ⟨rest, k.index + 1, k.line + 1, 0⟩
    else ⟨rest, k.index + 1, k.line, if c = '\uFEFF' then k.column else k.column + 1⟩

def skip (k : Cursor) : Nat → Cursor
  | 0 => k
  | n + 1 => k.next.skip n

/-- Whether a line here separates documents. -/
def atSeparator (k : Cursor) : Bool :=
  match k.rest with
  | a :: b :: c :: rest => (a == '-' || a == '.') && a == b && b == c && endsHere rest
  | _ => false

end Cursor

def ahead : Take (List Char) := do return (← get).rest

def peek? : Take (Option Char) := do return (← get).rest.head?

def advance (n : Nat) : Take Unit := modify (·.skip n)

/-- Takes all characters of one sort. -/
def takeSome (sort : Char → Bool) : Take (List Char) := do
  let cs := (← ahead).takeWhile sort
  advance cs.length
  return cs

/-- Takes the end of a line: what it leaves in the text. -/
def takeBreak : Take (List Char) := do
  match ← peek? with
  | some c =>
    if isBreak c then
      advance 1
      return [if c = '\x85' then '\n' else c]
    else return []
  | none => return []

def takeComment : Take Unit := do
  if (← peek?) = some '#' then discard (takeSome (!isBreak ·))

/-- Takes the rest of a line that has nothing but a comment. -/
def takeEmptyLine : Take Unit := do
  discard (takeSome (· = ' '))
  takeComment
  if !endsLine (← ahead) then malformed
  discard takeBreak

end TagRules.Yaml
