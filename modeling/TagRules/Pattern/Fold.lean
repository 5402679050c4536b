import TagRules.Pattern.Syntax
import TagRules.Text.Blank
import TagRules.Text.Case
import TagRules.Text.Word

/-!
Which characters a set or a single character of a pattern stands for, with and without regard to case.
Without it, characters count as the same letter when they have one small form, or small forms with one
capital form. A set that changes with case is tested on the small form; its members beyond the basic plane
stand for themselves there, and its ranges that reach beyond it also for the capital form.
-/
namespace TagRules.Pattern

inductive Folding
  | exact
  | ascii
  | unicode
  deriving DecidableEq, Repr

def Flags.folding (flags : Flags) : Folding :=
  if !flags.contains .ignoreCase then .exact
  else if flags.contains .ascii then .ascii
  else .unicode

/-- Small letters that share a capital form. -/
def sharedCapitals : List (List Nat) := [
  [0x69, 0x131], [0x73, 0x17F], [0xB5, 0x3BC], [0x345, 0x3B9, 0x1FBE], [0x390, 0x1FD3],
  [0x3B0, 0x1FE3], [0x3B2, 0x3D0], [0x3B5, 0x3F5], [0x3B8, 0x3D1], [0x3BA, 0x3F0], [0x3C0, 0x3D6],
  [0x3C1, 0x3F1], [0x3C2, 0x3C3], [0x3C6, 0x3D5], [0x432, 0x1C80], [0x434, 0x1C81], [0x43E, 0x1C82],
  [0x441, 0x1C83], [0x442, 0x1C84, 0x1C85], [0x44A, 0x1C86], [0x463, 0x1C87], [0x1C88, 0xA64B],
  [0x1E61, 0x1E9B], [0xFB05, 0xFB06]]

namespace Folding

def lower : Folding → Nat → Nat
  | .exact, n => n
  | .ascii, n => if 0x41 ≤ n ∧ n ≤ 0x5A then n + 32 else n
  | .unicode, n => CaseRow.apply lowerRows n

/-- Whether some character of a range changes with case. -/
def cases : Folding → Nat → Nat → Bool
  | .exact, _, _ => false
  | .ascii, low, high => (low ≤ 0x5A && 0x41 ≤ high) || (low ≤ 0x7A && 0x61 ≤ high)
  | .unicode, low, high => hasCased low high

/-- The small letters that stand for the same as a given one. -/
def alike : Folding → Nat → List Nat
  | .unicode, n => (sharedCapitals.find? (·.contains n)).getD [n]
  | _, n => [n]

/-- The characters with a given small form. -/
def withLower : Folding → Nat → List Nat
  | .exact, n => [n]
  | .ascii, n => if 0x61 ≤ n ∧ n ≤ 0x7A then [n, n - 32] else [n]
  | .unicode, n => n :: lowerRows.filterMap fun r =>
    let c := ((n : Int) - r.shift).toNat
    if r.covers c then some c else none

def same (f : Folding) (n m : Nat) : Bool := (f.alike (f.lower n)).contains (f.lower m)

end Folding
namespace Category

def contains (ascii : Bool) (c : Category) (n : Nat) : Bool :=
  let char := Char.ofNat n
  match c with
  | .digit => if ascii then char.isDigit else isDecimalDigit char
  | .blank => if ascii then char.isWhitespace || n == 0x0B || n == 0x0C else isBlank char
  | .word => if ascii then char.isAlphanum || char == '_' else isWordChar char

end Category
namespace Member

/-- Whether a member of a set stands for a character, with regard to case. -/
def contains (ascii : Bool) (n : Nat) : Member → Bool
  | .code m => n == m
  | .range low high => low ≤ n && n ≤ high
  | .category negated c => negated != c.contains ascii n

/-- Whether a member changes with case, or lies beyond the basic plane. -/
def isCased (f : Folding) : Member → Bool
  | .code m => m ≥ 0x10000 || f.cases m m
  | .range low high => high ≥ 0x10000 || f.cases low high
  | .category _ _ => false

/-- Whether a member of a set that changes with case stands for a character, given in its small form. -/
def containsFolded (ascii : Bool) (f : Folding) (n : Nat) : Member → Bool
  | .code m => if m ≥ 0x10000 then n == m else f.same n m
  | .range low high =>
    ((f.alike n).flatMap f.withLower).any (fun m => low ≤ m && m ≤ high && m < 0x10000) ||
      (high ≥ 0x10000 && [n, (toUpper (.ofNat n)).toNat].any fun m => low ≤ m && m ≤ high)
  | .category negated c => negated != c.contains ascii n

end Member

def codeMatches (flags : Flags) (code : Nat) (c : Char) : Bool :=
  let f := flags.folding
  if f.cases code code then f.same code c.toNat else code == c.toNat

def isCasedSet (flags : Flags) (members : List Member) : Bool :=
  let f := flags.folding
  f != .exact && members.any (·.isCased f)

def membersMatch (flags : Flags) (members : List Member) (c : Char) : Bool :=
  let f := flags.folding
  let ascii := flags.contains .ascii
  if isCasedSet flags members then members.any (·.containsFolded ascii f (f.lower c.toNat))
  else members.any (·.contains ascii c.toNat)

end TagRules.Pattern
