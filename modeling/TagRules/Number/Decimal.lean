import TagRules.Number.Binary64

/-!
Reading numbers written in decimal.
-/
namespace TagRules

/-- The value of a digit in bases up to sixteen. -/
def digitValue? (c : Char) : Option Nat :=
  if '0' ≤ c ∧ c ≤ '9' then some (c.toNat - '0'.toNat)
  else if 'a' ≤ c ∧ c ≤ 'f' then some (c.toNat - 'a'.toNat + 10)
  else if 'A' ≤ c ∧ c ≤ 'F' then some (c.toNat - 'A'.toNat + 10)
  else none

/-- The number that digits spell in a base; nothing for no digits or a digit the base lacks. -/
def ofDigits? (base : Nat) (cs : List Char) : Option Nat :=
  if cs.isEmpty then none else
  cs.foldlM (fun n c => do
    let d ← digitValue? c
    if d < base then pure (n * base + d) else none) 0

/-- Takes one leading sign: whether it was a minus, and the rest. -/
def takeSign : List Char → Bool × List Char
  | '-' :: rest => (true, rest)
  | '+' :: rest => (false, rest)
  | cs => (false, cs)

def readInt? (cs : List Char) : Option Int := do
  let (negative, rest) := takeSign cs
  let n ← ofDigits? 10 rest
  pure (if negative then -(n : Int) else n)

namespace Binary64

/-- An unsigned decimal: digits with at most one point, and an optional exponent. -/
def readUnsigned? (negative : Bool) (cs : List Char) : Option Binary64 := do
  let mantissa := cs.takeWhile fun c => c ≠ 'e' ∧ c ≠ 'E'
  let power ← match cs.drop mantissa.length with
    | [] => some 0
    | _ :: e => readInt? e
  let whole := mantissa.takeWhile (· ≠ '.')
  let fraction := (mantissa.drop whole.length).drop 1
  let digits ← ofDigits? 10 (whole ++ fraction)
  pure (ofDecimal negative digits (power - fraction.length))

/-- A float from its text: a decimal, or a word for an infinity or for what is no number. -/
def read? (s : String) : Option Binary64 :=
  let (negative, rest) := takeSign s.toList
  let word := rest.map Char.toLower
  if word = "nan".toList then some (.nan 0)
  else if word = "inf".toList ∨ word = "infinity".toList then some (.infinite negative)
  else readUnsigned? negative rest

end Binary64
end TagRules
