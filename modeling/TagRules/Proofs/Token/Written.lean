import TagRules.Expr.Basic
import TagRules.Proofs.Token.Lexical
import Mathlib.Data.List.TakeWhile

/-!
Literals as they are written, and how they are read back. Between the quotes a backslash stands before each quote,
backslash and colon of the tag and of the path, and a bare colon between the two; scanning what is written gives the
tag and the path again, whatever characters they are made of.
-/
namespace TagRules

/-- The characters that mean something between quotes. -/
def isSpecial (c : Char) : Bool := c = '"' || c = '\\' || c = ':'

/-- A text with a backslash before each character that is special. -/
def backslashed (special : Char → Bool) (s : String) : String :=
  .ofList (s.toList.flatMap fun c => if special c then ['\\', c] else [c])

/-- A text as it is written between quotes. -/
def escaped (s : String) : String := backslashed isSpecial s

/-- The literal of a reference. -/
def Reference.written (r : Reference) : String :=
  if r.scope = "" then "\"" ++ escaped r.name ++ "\"" else "\"" ++ escaped r.name ++ ":" ++ escaped r.scope ++ "\""

/-- A reference that a literal can stand for: the tag is not empty, and a path has no empty part between its dots. -/
structure Reference.IsWritable (r : Reference) : Prop where
  named : r.name ≠ ""
  placed : r.scope = "" ∨ [] ∉ r.scope.toList.splitOn '.'

namespace Literal

/-- The pieces that a text is written as. -/
def piecesOf (cs : List Char) : List Piece := cs.map fun c => if isSpecial c then .escaped c else .plain c

/-- The pieces between the quotes of a literal. -/
def referencePieces (r : Reference) : List Piece :=
  piecesOf r.name.toList ++ if r.scope = "" then [] else .plain ':' :: piecesOf r.scope.toList

/-- A piece that does not end a literal and needs no character after it. -/
def Piece.IsInner (p : Piece) : Prop := p ≠ .plain '"' ∧ p ≠ .plain '\\'

@[simp] lemma source_cons (p : Piece) (ps : List Piece) : source (p :: ps) = p.source ++ source ps := rfl

@[simp] lemma source_append (ps qs : List Piece) : source (ps ++ qs) = source ps ++ source qs :=
  List.flatMap_append

/-- Pieces are read up to the quote behind them. -/
theorem body?_source {ps : List Piece} (h : ∀ p ∈ ps, p.IsInner) (rest : List Char) :
    body? (source ps ++ '"' :: rest) = some (ps, rest) := by
  induction ps with
  | nil => rfl
  | cons p ps ih =>
    have ih := ih fun q hq => h q (List.mem_cons_of_mem _ hq)
    have hp : p.IsInner := h p List.mem_cons_self
    cases p with
    | escaped c => simp [Piece.source, body?, ih]
    | plain c =>
      have hq : c ≠ '"' := fun hc => hp.1 (congrArg Piece.plain hc)
      have hb : c ≠ '\\' := fun hc => hp.2 (congrArg Piece.plain hc)
      simp [Piece.source, body?, ih, hb]

lemma source_piecesOf (s : String) : source (piecesOf s.toList) = (escaped s).toList := by
  unfold piecesOf source escaped backslashed
  rw [List.flatMap_map, String.toList_ofList]
  congr 1
  funext c
  split <;> rfl

@[simp] lemma decode_piecesOf (cs : List Char) : decode (piecesOf cs) = cs := by
  unfold piecesOf decode
  rw [List.map_map]
  refine (List.map_congr_left fun c _ => ?_).trans (List.map_id cs)
  simp only [Function.comp_apply]
  split <;> rfl

lemma isInner_of_mem_piecesOf {cs : List Char} {p : Piece} (h : p ∈ piecesOf cs) :
    p.IsInner ∧ p.isSeparator = false := by
  obtain ⟨c, -, rfl⟩ := List.mem_map.1 h
  unfold Piece.IsInner Piece.isSeparator
  by_cases hs : isSpecial c
  · simp [hs]
  · simp only [isSpecial, Bool.or_eq_true, decide_eq_true_eq, not_or] at hs
    simp [isSpecial, hs]

lemma isInner_of_mem_referencePieces {r : Reference} {p : Piece} (h : p ∈ referencePieces r) : p.IsInner := by
  unfold referencePieces at h
  obtain h | h := List.mem_append.1 h
  · exact (isInner_of_mem_piecesOf h).1
  · split at h
    · cases h
    · obtain rfl | h := List.mem_cons.1 h
      · exact ⟨by simp, by simp⟩
      · exact (isInner_of_mem_piecesOf h).1

lemma separator_not_mem_piecesOf (cs : List Char) : .plain ':' ∉ piecesOf cs := by
  intro h
  have hs := (isInner_of_mem_piecesOf h).2
  simp [Piece.isSeparator] at hs

section

variable {ps qs : List Piece}

lemma isSeparator_eq_false {p : Piece} (hs : .plain ':' ∉ ps) (hp : p ∈ ps) : p.isSeparator = false := by
  have hne : p ≠ .plain ':' := fun h => hs (h ▸ hp)
  simpa [Piece.isSeparator] using hne

/-- The first bare colon ends the tag, and the path is behind it. -/
lemma namePieces_append (hs : .plain ':' ∉ qs) (rs : List Piece) : namePieces (qs ++ .plain ':' :: rs) = qs := by
  rw [namePieces, List.takeWhile_append_of_pos fun p hp => by simp [isSeparator_eq_false hs hp]]
  simp [Piece.isSeparator]

lemma pathPieces?_append (hs : .plain ':' ∉ qs) (rs : List Piece) :
    pathPieces? (qs ++ .plain ':' :: rs) = some rs := by
  rw [pathPieces?, List.dropWhile_append_of_pos fun p hp => by simp [isSeparator_eq_false hs hp]]
  simp [Piece.isSeparator]

lemma namePieces_of_not_mem (hs : .plain ':' ∉ ps) : namePieces ps = ps := by
  rw [namePieces, List.takeWhile_eq_self_iff]
  exact fun p hp => by simp [isSeparator_eq_false hs hp]

lemma pathPieces?_of_not_mem (hs : .plain ':' ∉ ps) : pathPieces? ps = none := by
  have hd : ps.dropWhile (!·.isSeparator) = [] := by
    rw [List.dropWhile_eq_nil_iff]
    exact fun p hp => by simp [isSeparator_eq_false hs hp]
  rw [pathPieces?, hd]

end

lemma namePieces_referencePieces (r : Reference) : namePieces (referencePieces r) = piecesOf r.name.toList := by
  unfold referencePieces
  split
  · rw [List.append_nil, namePieces_of_not_mem (separator_not_mem_piecesOf _)]
  · exact namePieces_append (separator_not_mem_piecesOf _) _

lemma pathPieces?_referencePieces (r : Reference) :
    pathPieces? (referencePieces r) = if r.scope = "" then none else some (piecesOf r.scope.toList) := by
  unfold referencePieces
  split
  · rw [List.append_nil, pathPieces?_of_not_mem (separator_not_mem_piecesOf _)]
  · exact pathPieces?_append (separator_not_mem_piecesOf _) _

lemma toList_written (r : Reference) : r.written.toList = '"' :: (source (referencePieces r) ++ ['"']) := by
  unfold Reference.written referencePieces
  split
  · simp [source_piecesOf]
  · simp [source_piecesOf, Piece.source]

end Literal
namespace Feed

/-- A feed with more tokens in front. -/
def prepend (ts : List Token) (f : Feed) : Feed := { f with items := ts.map .ok ++ f.items }

lemma prepend_prepend (ts us : List Token) (f : Feed) : (f.prepend us).prepend ts = f.prepend (ts ++ us) := by
  simp [prepend]

lemma scan_nil (caseSensitive : Bool) (position : Nat) : scan caseSensitive [] position = ⟨[], .eof position⟩ := by
  rw [scan, if_neg (by simp [Scan.head])]
  rfl

lemma scan_of_head {caseSensitive : Bool} {cs rest : List Char} {position after : Nat} {t : Token} {held : Option Token}
    (h : Scan.head caseSensitive cs position = ⟨.ok (t, held), rest, after⟩) (ha : after ≠ position) :
    scan caseSensitive cs position = (scan caseSensitive rest after).prepend (t :: held.toList) := by
  rw [scan, h, if_pos ha]
  cases held <;> rfl

end Feed
namespace Scan

/-- A literal is scanned up to the quote behind its pieces. -/
lemma head_literal {ps : List Literal.Piece} (hp : ∀ p ∈ ps, p.IsInner) (caseSensitive : Bool) (rest : List Char)
    (position : Nat) :
    head caseSensitive ('"' :: (Literal.source ps ++ '"' :: rest)) position = literal ps rest position := by
  have hq : isBlank '"' = false := rfl
  simp [head, hq, Literal.body?_source hp rest]

/-- What a written literal is scanned as. -/
lemma literal_referencePieces {r : Reference} (h : r.IsWritable) (rest : List Char) (position : Nat) :
    ∃ start : Int, literal (Literal.referencePieces r) rest position =
      ⟨.ok (⟨.tag, r.name, position⟩, if r.scope = "" then none else some ⟨.fieldPath, r.scope, start⟩), rest,
        position + r.written.toList.length⟩ := by
  have hl : r.written.toList.length = (Literal.source (Literal.referencePieces r)).length + 2 := by
    rw [Literal.toList_written, List.length_cons, List.length_append]
    rfl
  have hn : r.name.toList.isEmpty = false := by simpa [List.isEmpty_eq_false_iff] using h.named
  unfold literal
  simp only [Literal.namePieces_referencePieces, Literal.pathPieces?_referencePieces, Literal.decode_piecesOf, hn,
    String.ofList_toList, hl]
  by_cases hs : r.scope = ""
  · exact ⟨0, by simp [hs, Nat.add_assoc]⟩
  · have hv : Literal.validPath r.scope.toList = true := by
      simpa [Literal.validPath] using h.placed.resolve_left hs
    exact ⟨_, by simp [hs, hv, Nat.add_assoc]; rfl⟩

end Scan
end TagRules
