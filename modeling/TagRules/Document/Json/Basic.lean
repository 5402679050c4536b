import TagRules.Document.Problem

/-!
Reading from the head of a text. A reader proves that it takes some characters, which bounds recursion; a
fault keeps the text that was left where it arose, from which its position follows.
-/
namespace TagRules.Json

/-- A fault, with the text left where it arose. -/
inductive Fault
  | here (cause : JsonError.Cause) (rest : List Char)
  | tooManyDigits (count : Nat)

/-- Something read from the head of a text, and the shorter text that is left. -/
structure Read (α : Type) (cs : List Char) where
  value : α
  rest : List Char
  shorter : rest.length < cs.length

def isSpace (c : Char) : Bool := c == ' ' || c == '\t' || c == '\n' || c == '\r'

def skip (cs : List Char) : List Char := cs.dropWhile isSpace

theorem length_skip_le (cs : List Char) : (skip cs).length ≤ cs.length :=
  (List.dropWhile_sublist _).length_le

def trimmed (cs : List Char) : { rest : List Char // rest.length ≤ cs.length } := ⟨skip cs, length_skip_le cs⟩

/-- What follows a given character, if it stands at the head of a text behind blanks. -/
def behind? (c : Char) (cs : List Char) : Option { rest : List Char // rest.length < cs.length } :=
  match h : skip cs with
  | d :: rest =>
    if d = c then some ⟨rest, by have := length_skip_le cs; rw [h, List.length_cons] at this; omega⟩ else none
  | [] => none

end TagRules.Json
