import TagRules.Document.Encoding
import TagRules.Document.Json.Basic
import TagRules.Number.Decimal

/-!
Strings of the notation: characters between quotes, some of them behind a backslash.
-/
namespace TagRules.Json

/-- The value of four digits in base sixteen, and what follows them. -/
def hex4? : List Char → Option (Nat × List Char)
  | a :: b :: c :: d :: rest => (ofDigits? 16 [a, b, c, d]).map fun n => (n, rest)
  | _ => none

theorem length_of_hex4? {cs rest : List Char} {n : Nat} (h : hex4? cs = some (n, rest)) :
    rest.length < cs.length := by
  unfold hex4? at h
  split at h
  · simp only [Option.map_eq_some_iff, Prod.mk.injEq] at h
    obtain ⟨_, _, _, rfl⟩ := h
    simp only [List.length_cons]; omega
  · simp at h

/-- The character that a letter behind a backslash stands for. -/
def simpleEscape? : Char → Option Char
  | '"' => some '"'
  | '\\' => some '\\'
  | '/' => some '/'
  | 'b' => some '\x08'
  | 'f' => some '\x0c'
  | 'n' => some '\n'
  | 'r' => some '\r'
  | 't' => some '\t'
  | _ => none

/-- The second half of a pair, if one follows: nothing, a fault, or its value. -/
def lowHalf? (rest : List Char) : Except Fault (Option (Read Nat rest)) :=
  match rest with
  | '\\' :: 'u' :: more =>
    if more.length ≤ 4 then .ok none else
    match h : hex4? more with
    | none => .error (.here .invalidCodeEscape ('u' :: more))
    | some (low, after) =>
      if 0xDC00 ≤ low ∧ low ≤ 0xDFFF then
        .ok (some ⟨low, after, by have := length_of_hex4? h; simp only [List.length_cons]; omega⟩)
      else .ok none
  | _ => .ok none

/-- A character given by its code; codes beyond the base plane come in pairs, and half of a pair alone
is read as a mark. -/
def codeEscape (digits : List Char) : Except Fault (Read Char ('u' :: digits)) :=
  let fault : Fault := .here .invalidCodeEscape ('u' :: digits)
  if digits.length ≤ 4 then .error fault else
  match h : hex4? digits with
  | none => .error fault
  | some (high, rest) =>
    have shorter := length_of_hex4? h
    let alone : Read Char ('u' :: digits) := ⟨Encoding.character high, rest, by simp only [List.length_cons]; omega⟩
    if 0xD800 ≤ high ∧ high ≤ 0xDBFF then
      match lowHalf? rest with
      | .error f => .error f
      | .ok none => .ok alone
      | .ok (some low) =>
        .ok ⟨.ofNat (0x10000 + (high - 0xD800) * 0x400 + (low.value - 0xDC00)), low.rest,
          by have := low.shorter; simp only [List.length_cons]; omega⟩
    else .ok alone

def piece (opening : List Char) (c : Char) (rest : List Char) : Except Fault (Read Char (c :: rest)) :=
  if c = '\\' then
    match rest with
    | [] => .error (.here .unterminatedString opening)
    | 'u' :: digits =>
      (codeEscape digits).map fun r => ⟨r.value, r.rest, Nat.lt_succ_of_lt r.shorter⟩
    | e :: after =>
      match simpleEscape? e with
      | some d => .ok ⟨d, after, Nat.lt_succ_of_lt (Nat.lt_succ_self _)⟩
      | none => .error (.here .invalidEscape (c :: rest))
  else if c.toNat < 0x20 then .error (.here .controlCharacter (c :: rest))
  else .ok ⟨c, rest, Nat.lt_succ_self _⟩

/-- The characters up to the closing quote, behind those already read. -/
def stringBody (opening : List Char) (read : List Char) (cs : List Char) : Except Fault (Read String cs) :=
  match cs with
  | [] => .error (.here .unterminatedString opening)
  | c :: rest =>
    if c = '"' then .ok ⟨.ofList read.reverse, rest, by simp⟩ else
    match piece opening c rest with
    | .error f => .error f
    | .ok p =>
      match stringBody opening (p.value :: read) p.rest with
      | .error f => .error f
      | .ok r => .ok ⟨r.value, r.rest, Nat.lt_trans r.shorter p.shorter⟩
termination_by cs.length
decreasing_by exact p.shorter

end TagRules.Json
