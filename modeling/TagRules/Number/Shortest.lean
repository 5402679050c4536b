import TagRules.Number.Binary64

/-!
The shortest decimal that reads back as a float. `Shortest.digits` tries one digit, then two, and so on,
and takes the first decimal grid with a point in the interval of numbers that round to the float.
-/
namespace TagRules
namespace Shortest

/-- Digits after a decimal point, and the power of ten that the whole is multiplied by. -/
structure Decimal where
  digits : List Char
  point : Int
  deriving DecidableEq, Repr

/-- The numbers that round to a float, over one denominator. -/
structure Interval where
  low : Nat
  middle : Nat
  high : Nat
  den : Nat
  closed : Bool

/-- The interval of a positive float; below a power of two the neighbour is half as far. -/
def Interval.of (m : Nat) (e : Int) : Interval :=
  let below := if m = 1 <<< 52 ∧ Binary64.minExponent < e then 1 else 2
  let up : Nat := 1 <<< (e - 2).toNat
  ⟨(4 * m - below) * up, 4 * m * up, (4 * m + 2) * up, 1 <<< (2 - e).toNat, m % 2 = 0⟩

def Interval.contains (i : Interval) (n : Nat) : Bool :=
  if i.closed then i.low ≤ n && n ≤ i.high else i.low < n && n < i.high

def Interval.scale (i : Interval) (k : Int) : Interval :=
  let up : Nat := Nat.pow 10 k.toNat
  { i with low := i.low * up, middle := i.middle * up, high := i.high * up, den := i.den * Nat.pow 10 (-k).toNat }

/-- How many zeros follow the point of a number below one, up to a limit. -/
def leadingZeros (num den : Nat) : Nat → Nat
  | 0 => 0
  | limit + 1 => if num * 10 < den then leadingZeros (num * 10) den limit + 1 else 0

/-- The position of the decimal point: the number lies between a tenth and one of ten to this power. -/
def pointOf (num den : Nat) : Int :=
  if num < den then -(leadingZeros num den 400 : Int)
  else (Nat.toDigits 10 (num / den)).length

/-- The point of the grid of `n` digits that is nearest to the float, if it lies in the interval;
of two at the same distance the even one. -/
def onGrid (i : Interval) (point : Int) (n : Nat) : Option Nat :=
  let s := i.scale (n - point)
  let q := s.middle / s.den
  let fits (c : Nat) := s.contains (c * s.den)
  let (before, after) := (s.middle - q * s.den, (q + 1) * s.den - s.middle)
  let lowNearer := before < after || (before = after && q % 2 = 0)
  if fits q && (lowNearer || !fits (q + 1)) then some q
  else if fits (q + 1) then some (q + 1)
  else none

/-- The decimal of a grid point of `n` digits, without zeros at its end. -/
def Decimal.ofGrid (n c : Nat) (point : Int) : Decimal :=
  let cs := Nat.toDigits 10 c
  ⟨(cs.reverse.dropWhile (· = '0')).reverse, point + cs.length - n⟩

/-- The shortest decimal that reads back as the positive float, the nearest of those. -/
def digits (m : Nat) (e : Int) : Decimal :=
  let i := Interval.of m e
  let point := pointOf i.middle i.den
  let found := (List.range 17).findSome? fun n => (onGrid i point (n + 1)).map fun c => .ofGrid (n + 1) c point
  found.getD ⟨['0'], 1⟩

end Shortest
namespace Binary64

/-- Where positional notation ends, and the texts of what is no number. -/
structure Format where
  lowestPoint : Int
  highestPoint : Int
  exponentWidth : Nat
  nan : String
  infinity : String

/-- Positional from a ten-thousandth up to ten to the sixteenth, with a fraction always shown. -/
def plain : Format := ⟨-3, 16, 2, "nan", "inf"⟩

/-- The names of a document for what is no number. -/
def document : Format := { plain with nan := "NaN", infinity := "Infinity" }

def positional (d : Shortest.Decimal) : String :=
  let n : Int := d.digits.length
  let zeros (k : Int) := List.replicate k.toNat '0'
  .ofList <|
    if d.point ≤ 0 then "0.".toList ++ zeros (-d.point) ++ d.digits
    else if n ≤ d.point then d.digits ++ zeros (d.point - n) ++ ".0".toList
    else d.digits.take d.point.toNat ++ ['.'] ++ d.digits.drop d.point.toNat

def scientific (f : Format) (d : Shortest.Decimal) : String :=
  let e := d.point - 1
  let size := (Nat.toDigits 10 e.natAbs)
  let fraction := match d.digits.drop 1 with
    | [] => []
    | rest => '.' :: rest
  .ofList (d.digits.take 1 ++ fraction ++ ['e', if e < 0 then '-' else '+']
    ++ List.replicate (f.exponentWidth - size.length) '0' ++ size)

/-- The text of a float: the fewest digits that read back. -/
def text (f : Format) : Binary64 → String
  | .nan _ => f.nan
  | .infinite s => (if s then "-" else "") ++ f.infinity
  | .finite s m e =>
    let d := if m = 0 then ⟨['0'], 1⟩ else Shortest.digits m e
    (if s then "-" else "") ++
      (if f.lowestPoint ≤ d.point ∧ d.point ≤ f.highestPoint then positional d else scientific f d)

end Binary64
end TagRules
