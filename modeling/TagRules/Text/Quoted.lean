import TagRules.Text.Printable

/-!
Quoted texts for messages: single quotes unless only they occur inside, escapes for what cannot be shown.
-/
namespace TagRules.Quoted

/-- A number in base sixteen, filled up with zeros to a width. -/
def hex (width n : Nat) : List Char :=
  let ds := Nat.toDigits 16 n
  List.replicate (width - ds.length) '0' ++ ds

/-- The shortest of the three escapes that has room for a code point. -/
def escapeCode (n : Nat) : List Char :=
  if n ≤ 0xFF then '\\' :: 'x' :: hex 2 n
  else if n ≤ 0xFFFF then '\\' :: 'u' :: hex 4 n
  else '\\' :: 'U' :: hex 8 n

def escape (quote c : Char) : List Char :=
  if c = quote ∨ c = '\\' then ['\\', c]
  else if c = '\t' then ['\\', 't']
  else if c = '\n' then ['\\', 'n']
  else if c = '\r' then ['\\', 'r']
  else if isPrintable c then [c]
  else escapeCode c.toNat

/-- Double quotes go around a text with single quotes and no double ones. -/
def quoteFor (cs : List Char) : Char := if cs.contains '\'' && !cs.contains '"' then '"' else '\''

def text (s : String) : String :=
  let q := quoteFor s.toList
  .ofList (q :: s.toList.flatMap (escape q) ++ [q])

/-- One byte inside quotes; only ASCII is shown as it is. -/
def escapeByte (quote : Char) (b : UInt8) : List Char :=
  let c := Char.ofNat b.toNat
  if b < 128 then escape quote c else escapeCode b.toNat

def bytes (bs : List UInt8) : String :=
  let q := quoteFor (bs.map fun b => .ofNat b.toNat)
  .ofList ('b' :: q :: bs.flatMap (escapeByte q) ++ [q])

end TagRules.Quoted
