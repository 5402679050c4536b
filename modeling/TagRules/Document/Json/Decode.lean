import TagRules.Document.Json.Scalar
import TagRules.Document.Json.Text
import TagRules.Entries
import TagRules.Text.Lines
import TagRules.Value.Key

/-!
Documents in the notation of nested objects and arrays, from text or from bytes.
-/
namespace TagRules.Json

mutual

def value (cs : List Char) : Except Fault (Read Value cs) :=
  match cs with
  | [] => .error (.here .expectingValue [])
  | c :: rest =>
    if c = '"' then (stringBody (c :: rest) [] rest).map fun r => ⟨.text r.value, r.rest, Nat.lt_succ_of_lt r.shorter⟩
    else if c = '[' then
      match behind? ']' rest with
      | some after => .ok ⟨.list [], after, Nat.lt_succ_of_lt after.2⟩
      | none =>
        let first := trimmed rest
        (elements [] first).map fun r =>
          ⟨.list r.value, r.rest, Nat.lt_succ_of_lt (Nat.lt_of_lt_of_le r.shorter first.2)⟩
    else if c = '\x7b' then
      match behind? '\x7d' rest with
      | some after => .ok ⟨.map [], after, Nat.lt_succ_of_lt after.2⟩
      | none =>
        let first := trimmed rest
        (members [] first).map fun r =>
          ⟨.map r.value, r.rest, Nat.lt_succ_of_lt (Nat.lt_of_lt_of_le r.shorter first.2)⟩
    else scalar (c :: rest)
termination_by (cs.length, 0)
decreasing_by all_goals exact Prod.Lex.left _ _ (Nat.lt_succ_of_le first.2)

/-- Array elements up to the closing bracket, behind those already read. -/
def elements (read : List Value) (cs : List Char) : Except Fault (Read (List Value) cs) :=
  match value cs with
  | .error f => .error f
  | .ok v =>
    match behind? ']' v.rest with
    | some after => .ok ⟨(v.value :: read).reverse, after, Nat.lt_trans after.2 v.shorter⟩
    | none =>
      match behind? ',' v.rest with
      | none => .error (.here .expectingComma (skip v.rest))
      | some after =>
        let next := trimmed after
        have shorter : next.1.length < cs.length :=
          Nat.lt_of_le_of_lt next.2 (Nat.lt_trans after.2 v.shorter)
        (elements (v.value :: read) next).map fun r => ⟨r.value, r.rest, Nat.lt_trans r.shorter shorter⟩
termination_by (cs.length, 1)
decreasing_by
  · exact Prod.Lex.right _ Nat.zero_lt_one
  · exact Prod.Lex.left _ _ shorter

/-- One object member: a name, a colon and a value. -/
def member (cs : List Char) : Except Fault (Read (String × Value) cs) :=
  match cs with
  | '"' :: name =>
    match stringBody ('"' :: name) [] name with
    | .error f => .error f
    | .ok k =>
      match behind? ':' k.rest with
      | none => .error (.here .expectingColon (skip k.rest))
      | some after =>
        let start := trimmed after
        have shorter : start.1.length < ('"' :: name).length :=
          Nat.lt_succ_of_lt (Nat.lt_of_le_of_lt start.2 (Nat.lt_trans after.2 k.shorter))
        (value start).map fun v => ⟨(k.value, v.value), v.rest, Nat.lt_trans v.shorter shorter⟩
  | _ => .error (.here .expectingName cs)
termination_by (cs.length, 1)
decreasing_by exact Prod.Lex.left _ _ shorter

/-- Object members up to the closing brace; of members with one name the last counts. -/
def members (read : List (Value × Value)) (cs : List Char) : Except Fault (Read (List (Value × Value)) cs) :=
  match member cs with
  | .error f => .error f
  | .ok m =>
    let read := Entries.put read (.text m.value.1) m.value.2
    match behind? '\x7d' m.rest with
    | some after => .ok ⟨read, after, Nat.lt_trans after.2 m.shorter⟩
    | none =>
      match behind? ',' m.rest with
      | none => .error (.here .expectingComma (skip m.rest))
      | some after =>
        let next := trimmed after
        have shorter : next.1.length < cs.length :=
          Nat.lt_of_le_of_lt next.2 (Nat.lt_trans after.2 m.shorter)
        (members read next).map fun r => ⟨r.value, r.rest, Nat.lt_trans r.shorter shorter⟩
termination_by (cs.length, 2)
decreasing_by
  · exact Prod.Lex.right _ (Nat.lt_succ_self 1)
  · exact Prod.Lex.left _ _ shorter

end

def document (cs : List Char) : Except Fault Value :=
  match value (skip cs) with
  | .error f => .error f
  | .ok v => if (skip v.rest).isEmpty then .ok v.value else .error (.here .extraData (skip v.rest))

def Fault.error (cs : List Char) : Fault → DocumentError
  | .tooManyDigits count => .tooManyDigits count
  | .here cause rest =>
    let position := cs.length - rest.length
    let (line, column) := placeOf cs position
    .malformed ⟨cause, line, column, position⟩

def decodeChars (cs : List Char) : Except DocumentError Value := (document cs).mapError (Fault.error cs)

/-- Decodes a text; a byte order mark is no part of a text. -/
def decodeText (cs : List Char) : Except DocumentError Value :=
  if cs.head? = some '\ufeff' then .error (.malformed ⟨.byteOrderMark, 1, 1, 0⟩) else decodeChars cs

def decodeBytes (bs : List UInt8) : Except DocumentError Value :=
  match Encoding.decode bs with
  | .error e => .error (.encoding e)
  | .ok cs => decodeChars cs

end TagRules.Json
