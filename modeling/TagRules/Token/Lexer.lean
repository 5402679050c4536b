import TagRules.Text.Blank
import TagRules.Token.Basic
import TagRules.Token.Literal

/-!
Reading tokens. `Scan.head` reads what stands at the head of a text; a `Lexer` calls it once for each token
asked for and holds back the path token of a literal. After an unclosed literal, a word or a stray
character the lexer stays where it is; after a literal with an empty name or an invalid path it goes on
behind the closing quote.
-/
namespace TagRules

/-- The tokens at the head of a text, and where reading goes on. -/
structure Scan where
  result : Except LexError (Token × Option Token)
  rest : List Char
  position : Nat

namespace Scan

/-- The start of a word: an ASCII letter or a low line. -/
def isWordStart (c : Char) : Bool := c.isAlpha || c == '_'

def isWordPart (c : Char) : Bool := c.isAlphanum || c == '_'

/-- The operator that a word names. -/
def keyword? (caseSensitive : Bool) (word : List Char) : Option Token.Kind :=
  let key := if caseSensitive then word else word.map Char.toLower
  if key = ['a', 'n', 'd'] then some .and
  else if key = ['o', 'r'] then some .or
  else if key = ['n', 'o', 't'] then some .not
  else none

/-- One token that takes the given characters. -/
def single (kind : Token.Kind) (taken rest : List Char) (position : Nat) : Scan :=
  ⟨.ok (⟨kind, .ofList taken, position⟩, none), rest, position + taken.length⟩

/-- An error at which reading stays. -/
def stuck (cause : LexError.Cause) (fragment cs : List Char) (position : Nat) : Scan :=
  ⟨.error ⟨cause, .ofList fragment, position⟩, cs, position⟩

/-- A literal, given its pieces and what follows its closing quote. -/
def literal (ps : List Literal.Piece) (rest : List Char) (position : Nat) : Scan :=
  let inner := Literal.source ps
  let after := position + inner.length + 2
  let name := Literal.decode (Literal.namePieces ps)
  let failed (cause : LexError.Cause) : Scan := ⟨.error ⟨cause, .ofList ('"' :: inner ++ ['"']), position⟩, rest, after⟩
  let tag : Token := ⟨.tag, .ofList name, position⟩
  if name.isEmpty then failed .emptyName else
  match Literal.pathPieces? ps with
  | none => ⟨.ok (tag, none), rest, after⟩
  | some path =>
    if Literal.validPath (Literal.decode path) then
      let start := position + 1 + (Literal.source (Literal.namePieces ps)).length + 1
      ⟨.ok (tag, some ⟨.fieldPath, .ofList (Literal.decode path), start⟩), rest, after⟩
    else failed .invalidPath

def head (caseSensitive : Bool) (cs : List Char) (position : Nat) : Scan :=
  match cs with
  | [] => ⟨.ok (.eof position, none), [], position⟩
  | c :: rest =>
    if isBlank c then single .whitespace (cs.takeWhile isBlank) (cs.dropWhile isBlank) position
    else if c = '(' then single .lparen [c] rest position
    else if c = ')' then single .rparen [c] rest position
    else if c = '"' then
      match Literal.body? rest with
      | none => stuck .unterminatedLiteral cs cs position
      | some (ps, after) => literal ps after position
    else if isWordStart c then
      let word := cs.takeWhile isWordPart
      match keyword? caseSensitive word with
      | some kind => single kind word (cs.dropWhile isWordPart) position
      | none => stuck .unexpectedWord word cs position
    else stuck .unexpectedCharacter [c] cs position

@[simp] theorem rest_literal (ps : List Literal.Piece) (rest : List Char) (position : Nat) :
    (literal ps rest position).rest = rest := by
  simp only [literal]
  repeat' split <;> try rfl

theorem isWordPart_of_isWordStart {c : Char} (h : isWordStart c = true) : isWordPart c = true := by
  simp only [isWordStart, isWordPart, Char.isAlphanum, Bool.or_eq_true] at h ⊢
  exact h.imp_left Or.inl

/-- A scan that goes on leaves a shorter text. -/
theorem length_rest_head_lt {caseSensitive : Bool} {cs : List Char} {position : Nat}
    (h : (head caseSensitive cs position).position ≠ position) :
    (head caseSensitive cs position).rest.length < cs.length := by
  match cs with
  | [] => exact absurd rfl h
  | c :: rest =>
    have drop_lt {p : Char → Bool} (hc : p c = true) : ((c :: rest).dropWhile p).length < (c :: rest).length := by
      rw [List.dropWhile_cons_of_pos hc]
      exact Nat.lt_succ_of_le (List.dropWhile_suffix p).length_le
    simp only [head] at h ⊢
    split
    next hb => exact drop_lt hb
    next hb =>
    rw [if_neg hb] at h
    split
    next => exact Nat.lt_succ_self _
    next h₁ =>
    rw [if_neg h₁] at h
    split
    next => exact Nat.lt_succ_self _
    next h₂ =>
    rw [if_neg h₂] at h
    split
    next h₃ =>
      rw [if_pos h₃] at h
      split
      next hl => simp [hl, stuck] at h
      next ps after hl =>
        have := congrArg List.length (Literal.source_of_body? hl)
        simp only [List.length_append, List.length_cons] at this
        simp only [rest_literal, List.length_cons]
        omega
    next h₃ =>
    rw [if_neg h₃] at h
    split
    next hw =>
      rw [if_pos hw] at h
      split
      next => exact drop_lt (isWordPart_of_isWordStart hw)
      next hk => simp [hk, stuck] at h
    next hw => simp [if_neg hw, stuck] at h

end Scan

/-- A reader of tokens: the text ahead, its position, and a token held back. -/
structure Lexer where
  caseSensitive : Bool
  rest : List Char
  position : Nat
  held : Option Token

namespace Lexer

def ofSource (source : String) (caseSensitive : Bool) : Lexer := ⟨caseSensitive, source.toList, 0, none⟩

def next (l : Lexer) : Except LexError Token × Lexer :=
  match l.held with
  | some t => (.ok t, { l with held := none })
  | none =>
    let s := Scan.head l.caseSensitive l.rest l.position
    match s.result with
    | .ok (t, held) => (.ok t, { l with rest := s.rest, position := s.position, held := held })
    | .error e => (.error e, { l with rest := s.rest, position := s.position })

end Lexer

/-- How a feed goes on for ever: at the end of the text, or stuck at an error. -/
inductive Feed.Ending
  | eof (position : Int)
  | stuck (e : LexError)
  deriving Repr, Inhabited

/-- All that a lexer delivers: tokens and errors, and what it repeats after them. -/
structure Feed where
  items : List (Except LexError Token)
  ending : Feed.Ending

namespace Feed

def itemsOf : Except LexError (Token × Option Token) → List (Except LexError Token)
  | .ok (t, held) => .ok t :: (held.map Except.ok).toList
  | .error e => [.error e]

/-- Scans on as long as the position changes. -/
def scan (caseSensitive : Bool) (cs : List Char) (position : Nat) : Feed :=
  let s := Scan.head caseSensitive cs position
  if s.position ≠ position then
    let more := scan caseSensitive s.rest s.position
    { more with items := itemsOf s.result ++ more.items }
  else match s.result with
    | .ok _ => ⟨[], .eof position⟩
    | .error e => ⟨[], .stuck e⟩
termination_by cs.length
decreasing_by exact Scan.length_rest_head_lt ‹_›

def ofSource (source : String) (caseSensitive : Bool) : Feed := scan caseSensitive source.toList 0

/-- The tokens before the first error, and that error; without one, the end of the text included. -/
def tokens (f : Feed) : List Token × Option LexError :=
  let rec go : List (Except LexError Token) → List Token × Option LexError
    | [] => match f.ending with
      | .eof position => ([.eof position], none)
      | .stuck e => ([], some e)
    | .error e :: _ => ([], some e)
    | .ok t :: rest => ((t :: (go rest).1), (go rest).2)
  go f.items

end Feed

def tokenize (source : String) (caseSensitive : Bool) : Except LexError (List Token) :=
  match (Feed.ofSource source caseSensitive).tokens with
  | (_, some e) => .error e
  | (ts, none) => .ok ts

end TagRules
