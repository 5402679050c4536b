import TagRules.Number.Binary64

/-!
Sums and products of floats, each rounded once.
-/
namespace TagRules.Binary64

/-- The float nearest to a signed mantissa times two to an exponent. -/
def ofScaled (negative : Bool) (m : Nat) (e : Int) : Binary64 :=
  if 0 ≤ e then ofRatio negative (m <<< e.toNat) 1 else ofRatio negative m (1 <<< (-e).toNat)

def isNegative : Binary64 → Bool
  | .nan _ => false
  | .infinite s | .finite s _ _ => s

/-- The product of two floats; nothing times an infinity is no number. -/
def mul : Binary64 → Binary64 → Binary64
  | .finite s m e, .finite s' m' e' => ofScaled (s != s') (m * m') (e + e')
  | .nan payload, _ | _, .nan payload => .nan payload
  | x, y => if x.isZero || y.isZero then .nan 0 else .infinite (x.isNegative != y.isNegative)

/-- A mantissa with its sign at a lower exponent. -/
def aligned (negative : Bool) (m shift : Nat) : Int :=
  if negative then -((m <<< shift : Nat) : Int) else (m <<< shift : Nat)

/-- The sum of two floats; opposite infinities add up to no number, and opposite numbers to zero without a
minus sign. -/
def add : Binary64 → Binary64 → Binary64
  | .finite s m e, .finite s' m' e' =>
    let low := min e e'
    let n := aligned s m (e - low).toNat + aligned s' m' (e' - low).toNat
    if n = 0 then zero (s && s') else ofScaled (n < 0) n.natAbs low
  | .nan payload, _ | _, .nan payload => .nan payload
  | .infinite s, .infinite s' => if s = s' then .infinite s else .nan 0
  | .infinite s, _ | _, .infinite s => .infinite s

end TagRules.Binary64
