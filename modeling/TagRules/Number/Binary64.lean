/-!
Binary floats of 64 bits with their exact values. A finite float is a sign, a mantissa and an exponent;
`Binary64.value?` gives the number it stands for, and rounding goes to the nearest float, ties to the
even mantissa.
-/
namespace TagRules

/-- A 64-bit binary float: a finite one stands for mantissa times two to the exponent. What is no number has
a payload, which tells it from others of its sort. -/
inductive Binary64
  | nan (payload : Nat)
  | infinite (negative : Bool)
  | finite (negative : Bool) (mantissa : Nat) (exponent : Int)
  deriving DecidableEq, Repr, Inhabited

namespace Binary64

/-- The exponent of the smallest positive float. -/
def minExponent : Int := -1074

/-- The largest exponent of a finite float. -/
def maxExponent : Int := 971

def zero (negative : Bool) : Binary64 := .finite negative 0 minExponent

/-- The exact value of a finite float; the sign of a zero has none. -/
def value? : Binary64 → Option Dyadic
  | .finite negative m e => some (Dyadic.ofIntWithPrec (if negative then -(m : Int) else m) (-e))
  | _ => none

/-- The quotient of two natural numbers at the nearest integer, a tie at the even one. -/
def roundHalfEven (num den : Nat) : Nat :=
  let q := num / den
  let r := num % den
  if den < 2 * r ∨ (2 * r = den ∧ q % 2 = 1) then q + 1 else q

/-- Numerator and denominator of `num / den` divided by two to the power `e`. -/
def scaleDown (num den : Nat) (e : Int) : Nat × Nat :=
  if 0 ≤ e then (num, den <<< e.toNat) else (num <<< (-e).toNat, den)

/-- The exponent at which the quotient has a mantissa of 53 bits, or the smallest exponent. -/
def exponentFor (num den : Nat) : Int :=
  let e : Int := (num.log2 : Int) - den.log2 - 53
  let (n, d) := scaleDown num den e
  max minExponent (if n / d < 1 <<< 53 then e else e + 1)

/-- The float nearest to `num / den` with the given sign. -/
def ofRatio (negative : Bool) (num den : Nat) : Binary64 :=
  if num = 0 then zero negative else
  let e := exponentFor num den
  let (n, d) := scaleDown num den e
  let m := roundHalfEven n d
  let (m, e) := if m = 1 <<< 53 then (1 <<< 52, e + 1) else (m, e)
  if maxExponent < e then .infinite negative else .finite negative m e

/-- The float nearest to `digits` times ten to the power `exponent`. -/
def ofDecimal (negative : Bool) (digits : Nat) (exponent : Int) : Binary64 :=
  if digits = 0 then zero negative else
  let point := (Nat.toDigits 10 digits).length + exponent
  if 310 < point then .infinite negative
  else if point < -330 then zero negative
  else if 0 ≤ exponent then ofRatio negative (digits * Nat.pow 10 exponent.toNat) 1
  else ofRatio negative digits (Nat.pow 10 (-exponent).toNat)

def ofInt (n : Int) : Binary64 := ofRatio (n < 0) n.natAbs 1

def integer? : Binary64 → Option Int
  | .finite negative m e =>
    let signed (k : Nat) : Int := if negative then -(k : Int) else k
    if 0 ≤ e then some (signed (m <<< e.toNat))
    else if m % 1 <<< (-e).toNat = 0 then some (signed (m >>> (-e).toNat))
    else none
  | _ => none

def isNaN : Binary64 → Bool
  | .nan _ => true
  | _ => false

/-- The float with a payload, if it is no number. -/
def withPayload (payload : Nat) : Binary64 → Binary64
  | .nan _ => .nan payload
  | x => x

def isZero : Binary64 → Bool
  | .finite _ m _ => m == 0
  | _ => false

def negate : Binary64 → Binary64
  | .nan payload => .nan payload
  | .infinite s => .infinite !s
  | .finite s m e => .finite (!s) m e

end Binary64
end TagRules
