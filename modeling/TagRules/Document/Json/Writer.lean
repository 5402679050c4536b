import TagRules.Entries
import TagRules.Value.Mismatch

/-!
Documents as text: nested objects and arrays, indented by two spaces, in plain ASCII.
-/
namespace TagRules.Json

/-- Why a value cannot be written: it is the name of an entry and no scalar, or a number without a text. -/
inductive WriteError
  | name (v : Value)
  | withoutText

def WriteError.message : WriteError → String
  | .name v => "keys must be str, int, float, bool or None, not " ++ v.shortTypeName
  | .withoutText => Value.withoutText

def integerText (n : Int) : Except WriteError String :=
  if (Value.int n).hasText then .ok (toString n) else .error .withoutText

/-- The two halves of a code point beyond the basic plane. -/
def halves (n : Nat) : Nat × Nat := (0xD800 + (n - 0x10000) / 0x400, 0xDC00 + (n - 0x10000) % 0x400)

def codeText (n : Nat) : List Char := '\\' :: 'u' :: Quoted.hex 4 n

def escaped (c : Char) : List Char :=
  if c = '"' then ['\\', '"']
  else if c = '\\' then ['\\', '\\']
  else if c = '\n' then ['\\', 'n']
  else if c = '\r' then ['\\', 'r']
  else if c = '\t' then ['\\', 't']
  else if c = '\x08' then ['\\', 'b']
  else if c = '\x0c' then ['\\', 'f']
  else if ' ' ≤ c ∧ c ≤ '~' then [c]
  else if c.toNat < 0x10000 then codeText c.toNat
  else codeText (halves c.toNat).1 ++ codeText (halves c.toNat).2

def stringText (s : String) : String := .ofList ('"' :: s.toList.flatMap escaped ++ ['"'])

def nameText : Value → Except WriteError String
  | .text s => .ok s
  | .null => .ok "null"
  | .bool b => .ok (if b then "true" else "false")
  | .int n => integerText n
  | .float x => .ok (x.text Binary64.document)
  | v => .error (.name v)

def lineBreak (depth : Nat) : String := .ofList ('\n' :: List.replicate (2 * depth) ' ')

/-- Parts between brackets, each on a line of its own. -/
def bracketed (opening closing : String) (depth : Nat) (parts : List String) : String :=
  if parts.isEmpty then opening ++ closing
  else opening ++ lineBreak (depth + 1) ++ joined ("," ++ lineBreak (depth + 1)) parts ++ lineBreak depth ++ closing

mutual

/-- A value as text; what has no notation of its own is written as a string. -/
def write (depth : Nat) : Value → Except WriteError String
  | .null => .ok "null"
  | .bool b => .ok (if b then "true" else "false")
  | .int n => integerText n
  | .float x => .ok (x.text Binary64.document)
  | .text s => .ok (stringText s)
  | .list xs => do return bracketed "[" "]" depth (← writeAll (depth + 1) xs)
  | .tuple xs => do return bracketed "[" "]" depth (← writeAll (depth + 1) xs)
  | .map es => do return bracketed "\x7b" "\x7d" depth (← writeEntries (depth + 1) es)
  | v => if v.hasText then .ok (stringText v.shown) else .error .withoutText

def writeAll (depth : Nat) : List Value → Except WriteError (List String)
  | [] => .ok []
  | x :: xs => do return (← write depth x) :: (← writeAll depth xs)

def writeEntries (depth : Nat) : List (Value × Value) → Except WriteError (List String)
  | [] => .ok []
  | (k, v) :: es => do
    let name ← nameText k
    let text ← write depth v
    return (stringText name ++ ": " ++ text) :: (← writeEntries depth es)

end

def document? (v : Value) : Except WriteError String := write 0 v

end TagRules.Json
