import TagRules.Number.Decimal
import TagRules.Pattern.Reader
import TagRules.Text.CharacterName

/-!
Escapes in patterns: control characters, codes in base eight and sixteen, classes of characters, places,
and references back to groups.
-/
namespace TagRules.Pattern

inductive Escape
  | code (n : Nat)
  | category (negated : Bool) (c : Category)
  | anchor (a : Anchor)
  | back (group : Nat)

def isOctal (c : Char) : Bool := '0' ≤ c && c ≤ '7'

def isHex (c : Char) : Bool := (digitValue? c).isSome

/-- The control characters with a letter of their own. -/
def controlCode? : Char → Option Nat
  | 'a' => some 7
  | 'b' => some 8
  | 't' => some 9
  | 'n' => some 10
  | 'v' => some 11
  | 'f' => some 12
  | 'r' => some 13
  | '\\' => some 92
  | _ => none

/-- The classes of characters, and their complements in capitals. -/
def category? : Char → Option (Bool × Category)
  | 'd' => some (false, .digit)
  | 'D' => some (true, .digit)
  | 's' => some (false, .blank)
  | 'S' => some (true, .blank)
  | 'w' => some (false, .word)
  | 'W' => some (true, .word)
  | _ => none

def anchor? : Char → Option Anchor
  | 'A' => some .textStart
  | 'Z' => some .textEnd
  | 'b' => some .boundary
  | 'B' => some .noBoundary
  | _ => none

/-- Fails over the whole of an escape that has just been taken. -/
def failEscape {α : Type} (reason : String) (digits : List Char) : Read α :=
  failAt (digits.length + 1) (reason ++ " \\" ++ .ofList digits)

def hexCode (letter : Char) (count : Nat) : Read Nat := do
  let digits ← takeWhile isHex count
  if digits.length ≠ count then failEscape "incomplete escape" (letter :: digits)
  let n := (ofDigits? 16 digits).getD 0
  if n > 0x10FFFF then failEscape "bad escape" (letter :: digits)
  return n

def octalCode (digits : List Char) : Read Nat := do
  let n := (ofDigits? 8 digits).getD 0
  if n > 255 then
    failAt (digits.length + 1) ("octal escape value \\" ++ .ofList digits ++ " outside of range 0-0o377")
  return n

def namedCode : Read Nat := do
  if !(← accept '\x7b') then fail "missing \x7b"
  let name := String.ofList (← takeName '\x7d' "character name")
  match CharacterName.code? name with
  | some n => return n
  | none => failAt (name.length + 4) ("undefined character name " ++ Quoted.text name)

def backReference (digits : List Char) : Read Escape := do
  let group := (ofDigits? 10 digits).getD 0
  if group ≤ (← groupCount) then
    if !(← isClosed group) then failAt (digits.length + 1) "cannot refer to an open group"
    requireOutside group
    return .back group
  else failAt digits.length s!"invalid group reference {group}"

/-- A digit after a backslash starts a code in base eight or a reference. -/
def digitEscape (inSet : Bool) (c : Char) : Read Escape := do
  if inSet then
    if isOctal c then return .code (← octalCode (c :: (← takeWhile isOctal 2)))
    else failEscape "bad escape" [c]
  else if c = '0' then return .code (← octalCode (c :: (← takeWhile isOctal 2)))
  else
    let second ← takeWhile Char.isDigit 1
    if isOctal c && second.any isOctal then
      let third ← takeWhile isOctal 1
      if third.isEmpty then backReference (c :: second)
      else return .code (← octalCode (c :: second ++ third))
    else backReference (c :: second)

/-- What a character after a backslash stands for, and the digits that belong to it. -/
def readEscape (inSet : Bool) (c : Char) : Read Escape := do
  if !inSet then
    if let some a := anchor? c then return .anchor a
  if let some (negated, category) := category? c then return .category negated category
  if let some n := controlCode? c then return .code n
  if c = 'x' then return .code (← hexCode c 2)
  else if c = 'u' then return .code (← hexCode c 4)
  else if c = 'U' then return .code (← hexCode c 8)
  else if c = 'N' then return .code (← namedCode)
  else if c.isDigit then digitEscape inSet c
  else if c.isAlpha then failEscape "bad escape" [c]
  else return .code c.toNat

end TagRules.Pattern
