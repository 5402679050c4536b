/-!
Texts as bytes. The encoding of a document is told from its first bytes; bytes that spell no character
are an error with their place and its cause.
-/
namespace TagRules

inductive Encoding
  | utf8
  | utf16 (bigEndian : Bool)
  | utf32 (bigEndian : Bool)
  deriving DecidableEq, Repr

inductive DecodeError.Cause
  | invalidStart
  | invalidContinuation
  | unexpectedEnd
  | truncated
  | outOfRange
  deriving DecidableEq, Repr

/-- Bytes that spell no character: where they start and end, and the first of them. -/
structure DecodeError where
  encoding : Encoding
  cause : DecodeError.Cause
  start : Nat
  stop : Nat
  byte : UInt8
  deriving DecidableEq, Repr

namespace Encoding

def name : Encoding → String
  | .utf8 => "utf-8"
  | .utf16 big => if big then "utf-16-be" else "utf-16-le"
  | .utf32 big => if big then "utf-32-be" else "utf-32-le"

/-- The encoding of a document, and how many bytes its mark takes. -/
def detect : List UInt8 → Encoding × Nat
  | 0x00 :: 0x00 :: 0xFE :: 0xFF :: _ => (.utf32 true, 4)
  | 0xFF :: 0xFE :: 0x00 :: 0x00 :: _ => (.utf32 false, 4)
  | 0xFE :: 0xFF :: _ => (.utf16 true, 2)
  | 0xFF :: 0xFE :: _ => (.utf16 false, 2)
  | 0xEF :: 0xBB :: 0xBF :: _ => (.utf8, 3)
  | a :: b :: c :: d :: _ =>
    if a = 0 then (if b = 0 then .utf32 true else .utf16 true, 0)
    else if b = 0 then (if c = 0 ∧ d = 0 then .utf32 false else .utf16 false, 0)
    else (.utf8, 0)
  | [a, b] => (if a = 0 then .utf16 true else if b = 0 then .utf16 false else .utf8, 0)
  | _ => (.utf8, 0)

end Encoding
namespace DecodeError

def Cause.text : Cause → String
  | .invalidStart => "invalid start byte"
  | .invalidContinuation => "invalid continuation byte"
  | .unexpectedEnd => "unexpected end of data"
  | .truncated => "truncated data"
  | .outOfRange => "code point not in range(0x110000)"

def message (e : DecodeError) : String :=
  let hex := Nat.toDigits 16 e.byte.toNat
  let bytes := if e.stop = e.start + 1
    then "byte 0x" ++ String.ofList (List.replicate (2 - hex.length) '0' ++ hex) ++ s!" in position {e.start}: "
    else s!"bytes in position {e.start}-{e.stop - 1}: "
  "'" ++ e.encoding.name ++ "' codec can't decode " ++ bytes ++ e.cause.text

end DecodeError
namespace Encoding

/-- A character read, or the cause why none is there; with the number of bytes that it takes. -/
abbrev Unit := Except DecodeError.Cause Char × Nat

/-- The character with a code. A code that is half of a pair spells none, and is read as a mark for that. -/
def character (code : Nat) : Char := if 0xD800 ≤ code ∧ code ≤ 0xDFFF then '\uFFFD' else .ofNat code

def isContinuation (b : UInt8) : Bool := b &&& 0xC0 == 0x80

/-- A code point put together from a head and continuation bytes. -/
def assemble (head : Nat) (tail : List UInt8) : Char :=
  character (tail.foldl (fun n b => n * 64 + (b &&& 0x3F).toNat) head)

/-- Continuation bytes behind a lead byte, the first of them within bounds. -/
def continued (head : Nat) (low high : UInt8) (size : Nat) (rest : List UInt8) : Unit :=
  let good := match rest with
    | [] => []
    | b :: more =>
      if low ≤ b ∧ b ≤ high then b :: (more.take (size - 2)).takeWhile isContinuation else []
  if good.length + 1 = size then (.ok (assemble head good), size)
  else if good.length = rest.length then (.error .unexpectedEnd, good.length + 1)
  else (.error .invalidContinuation, good.length + 1)

/-- Whether a lead byte and what follows spell half of a pair. -/
def isHalf (b : UInt8) (rest : List UInt8) : Bool :=
  match rest with
  | c :: d :: _ => b == 0xED && 0xA0 ≤ c && isContinuation c && isContinuation d
  | _ => false

def unit8 (b : UInt8) (rest : List UInt8) : Unit :=
  if b < 0x80 then (.ok (.ofNat b.toNat), 1)
  else if b < 0xC2 then (.error .invalidStart, 1)
  else if b < 0xE0 then continued (b - 0xC0).toNat 0x80 0xBF 2 rest
  else if b < 0xF0 then
    let high := if b = 0xED ∧ !isHalf b rest then 0x9F else 0xBF
    continued (b - 0xE0).toNat (if b = 0xE0 then 0xA0 else 0x80) high 3 rest
  else if b < 0xF5 then
    continued (b - 0xF0).toNat (if b = 0xF0 then 0x90 else 0x80) (if b = 0xF4 then 0x8F else 0xBF) 4 rest
  else (.error .invalidStart, 1)

def word (bigEndian : Bool) (bs : List UInt8) : Nat :=
  (if bigEndian then bs else bs.reverse).foldl (fun n b => n * 256 + b.toNat) 0

def unit16 (bigEndian : Bool) (bs : List UInt8) : Unit :=
  match bs with
  | a :: b :: rest =>
    let high := word bigEndian [a, b]
    let alone := (.ok (character high), 2)
    if high < 0xD800 ∨ 0xDC00 ≤ high then alone else
    match rest with
    | c :: d :: _ =>
      let low := word bigEndian [c, d]
      if 0xDC00 ≤ low ∧ low ≤ 0xDFFF then
        (.ok (.ofNat (0x10000 + (high - 0xD800) * 0x400 + (low - 0xDC00))), 4)
      else alone
    | _ => alone
  | _ => (.error .truncated, bs.length)

def unit32 (bigEndian : Bool) (bs : List UInt8) : Unit :=
  if bs.length < 4 then (.error .truncated, bs.length) else
  let n := word bigEndian (bs.take 4)
  if 0x110000 ≤ n then (.error .outOfRange, 4) else (.ok (character n), 4)

def unit (e : Encoding) (b : UInt8) (rest : List UInt8) : Unit :=
  match e with
  | .utf8 => unit8 b rest
  | .utf16 big => unit16 big (b :: rest)
  | .utf32 big => unit32 big (b :: rest)

def decodeFrom (e : Encoding) (position : Nat) (bs : List UInt8) : Except DecodeError (List Char) :=
  match bs with
  | [] => .ok []
  | b :: rest =>
    match e.unit b rest with
    | (.error cause, size) => .error ⟨e, cause, position, position + size, b⟩
    | (.ok c, size) => (decodeFrom e (position + size) (rest.drop (size - 1))).map (c :: ·)
termination_by bs.length
decreasing_by simp only [List.length_drop, List.length_cons]; omega

/-- The text of a document; a mark in front is no part of it. -/
def decode (bs : List UInt8) : Except DecodeError (List Char) :=
  let (e, mark) := detect bs
  decodeFrom e (if e = .utf8 then 0 else mark) (bs.drop mark)

end Encoding
end TagRules
