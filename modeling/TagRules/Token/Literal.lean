/-!
Quoted literals. Between the quotes a backslash takes the next character as it is; the first colon that
is not taken so separates the tag from its field path.
-/
namespace TagRules.Literal

/-- One character of a literal, as it stands or behind a backslash. -/
inductive Piece
  | plain (c : Char)
  | escaped (c : Char)
  deriving DecidableEq, Repr

namespace Piece

def char : Piece → Char
  | .plain c | .escaped c => c

def source : Piece → List Char
  | .plain c => [c]
  | .escaped c => ['\\', c]

def isSeparator (p : Piece) : Bool := p = .plain ':'

end Piece

def source (ps : List Piece) : List Char := ps.flatMap Piece.source

/-- The text that some pieces stand for. -/
def decode (ps : List Piece) : List Char := ps.map Piece.char

/-- The pieces up to the closing quote, and what follows it. -/
def body? : List Char → Option (List Piece × List Char)
  | [] => none
  | '"' :: rest => some ([], rest)
  | '\\' :: c :: rest => (body? rest).map fun (ps, after) => (.escaped c :: ps, after)
  | c :: rest => (body? rest).map fun (ps, after) => (.plain c :: ps, after)

def namePieces (ps : List Piece) : List Piece := ps.takeWhile (!·.isSeparator)

/-- The pieces of the field path, if there is a separator. -/
def pathPieces? (ps : List Piece) : Option (List Piece) :=
  match ps.dropWhile (!·.isSeparator) with
  | [] => none
  | _ :: path => some path

/-- A path is a field path when it has no empty segment between its dots. -/
def validPath (path : List Char) : Bool := !(path.splitOn '.').contains []

/-- The pieces and the rest spell the text again, with the quote between them. -/
theorem source_of_body? {cs rest : List Char} {ps : List Piece} (h : body? cs = some (ps, rest)) :
    source ps ++ '"' :: rest = cs := by
  induction cs using body?.induct generalizing ps rest with
  | case1 => simp [body?] at h
  | case2 r => simp only [body?, Option.some.injEq, Prod.mk.injEq] at h; simp [← h.1, ← h.2, source]
  | case3 c r ih =>
    simp only [body?, Option.map_eq_some_iff, Prod.exists, Prod.mk.injEq] at h
    obtain ⟨qs, after, hb, rfl, rfl⟩ := h
    simpa [source, Piece.source] using ih hb
  | case4 c r _ _ ih =>
    rw [body?] at h <;> try assumption
    simp only [Option.map_eq_some_iff, Prod.exists, Prod.mk.injEq] at h
    obtain ⟨qs, after, hb, rfl, rfl⟩ := h
    simpa [source, Piece.source] using ih hb

end TagRules.Literal
