/-!
Bytes in base sixty-four: four characters stand for three bytes, and equals signs fill up the last group.
-/
namespace TagRules.Base64

def sixBits? (c : Char) : Option Nat :=
  if c.isUpper then some (c.toNat - 'A'.toNat)
  else if c.isLower then some (c.toNat - 'a'.toNat + 26)
  else if c.isDigit then some (c.toNat - '0'.toNat + 52)
  else if c = '+' then some 62
  else if c = '/' then some 63
  else none

/-- The bytes of a group that is not full. -/
def partialGroup : List Nat → List UInt8
  | [a, b, c] => [.ofNat (a * 4 + b / 16), .ofNat (b % 16 * 16 + c / 4)]
  | [a, b] => [.ofNat (a * 4 + b / 16)]
  | _ => []

/-- The bytes of a text. `pending` are the characters of a group that have been read, and `pads` the
equals signs behind them; a group that these fill up ends the text. Other characters do not count. -/
def read? : List Char → List Nat → Nat → Option (List UInt8)
  | [], pending, _ => if pending.isEmpty then some [] else none
  | '=' :: rest, pending, pads =>
    if pending.length < 2 then read? rest pending pads
    else if pending.length + pads < 3 then read? rest pending (pads + 1)
    else some (partialGroup pending)
  | c :: rest, pending, pads =>
    match sixBits? c, pending with
    | none, _ => read? rest pending pads
    | some d, [a, b, c] =>
      (read? rest [] 0).map fun bytes =>
        .ofNat (a * 4 + b / 16) :: .ofNat (b % 16 * 16 + c / 4) :: .ofNat (c % 4 * 64 + d) :: bytes
    | some d, _ => read? rest (pending ++ [d]) 0

/-- The bytes of a text in plain ASCII; the last group must be full. -/
def decode? (cs : List Char) : Option (List UInt8) :=
  if cs.all (·.toNat < 128) then read? cs [] 0 else none

end TagRules.Base64
