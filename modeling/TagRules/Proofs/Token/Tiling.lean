import TagRules.Proofs.Token.Written
import Mathlib.Data.List.Chain
import Mathlib.Data.List.TakeWhile

/-!
How the tokens of a text lie in it. A text that can be read is cut into stretches, one behind the other and with nothing
between them; each gives one token at its beginning, and a literal with a path a second one inside it. Blanks and words
are taken as far as they go.
-/
namespace TagRules
namespace Literal

/-- A quote ends a literal, and a backslash takes the next character with it. -/
lemma isInner_of_body? {cs rest : List Char} {ps : List Piece} (h : body? cs = some (ps, rest)) :
    ∀ p ∈ ps, p.IsInner := by
  induction cs using body?.induct generalizing ps rest with
  | case1 => simp [body?] at h
  | case2 =>
    simp only [body?, Option.some.injEq, Prod.mk.injEq] at h
    simp [← h.1]
  | case3 c r ih =>
    simp only [body?, Option.map_eq_some_iff, Prod.exists, Prod.mk.injEq] at h
    obtain ⟨qs, after, hb, rfl, rfl⟩ := h
    exact List.forall_mem_cons.2 ⟨by simp [Piece.IsInner], ih hb⟩
  | case4 c r hq hb ih =>
    rw [body?] at h <;> try assumption
    simp only [Option.map_eq_some_iff, Prod.exists, Prod.mk.injEq] at h
    obtain ⟨qs, after, hr, rfl, rfl⟩ := h
    refine List.forall_mem_cons.2 ⟨⟨fun he => hq ?_, fun he => ?_⟩, ih hr⟩
    · exact Piece.plain.inj he
    · -- A backslash at the end of the text would leave the literal open.
      obtain rfl := Piece.plain.inj he
      cases r with
      | nil => simp [body?] at hr
      | cons c r => exact hb c r rfl rfl

/-- The tag, the colon and the path make up a literal with a path. -/
lemma length_source_of_pathPieces? {ps path : List Piece} (h : pathPieces? ps = some path) :
    (source ps).length = (source (namePieces ps)).length + 1 + (source path).length := by
  by_cases hs : .plain ':' ∈ ps
  · obtain ⟨qs, rs, rfl, hq⟩ := List.eq_append_cons_of_mem hs
    rw [pathPieces?_append hq] at h
    obtain rfl := Option.some.inj h
    rw [namePieces_append hq, source_append, source_cons]
    simp only [List.length_append, Piece.source, List.length_singleton]
    omega
  · rw [pathPieces?_of_not_mem hs] at h
    cases h

/-- A path is not empty. -/
lemma source_pos_of_validPath {path : List Piece} (h : validPath (decode path) = true) : 0 < (source path).length := by
  cases path with
  | nil => simp [validPath, decode] at h
  | cons p path => cases p <;> simp [Piece.source]

end Literal

namespace Scan

lemma not_whitespace_of_keyword? {caseSensitive : Bool} {word : List Char} {kind : Token.Kind}
    (h : keyword? caseSensitive word = some kind) : kind ≠ .whitespace := by
  rintro rfl
  unfold keyword? at h
  grind

end Scan

/-- A stretch of a text that is read at once: its characters, its token, and the token of a path in it. -/
structure Tile where
  text : List Char
  token : Token
  path : Option Token

namespace Tile

def tokens (t : Tile) : List Token := t.token :: t.path.toList

/-- The text that some stretches make up. -/
def spelled (tiles : List Tile) : List Char := tiles.flatMap Tile.text

/-- What a stretch is that begins at a position, with some text behind it. -/
inductive Fits (caseSensitive : Bool) (start : Nat) : Tile → List Char → Prop
  | blank {text behind} : text ≠ [] → (∀ c ∈ text, isBlank c) → (∀ c ∈ behind.head?, ¬ isBlank c) →
      Fits caseSensitive start ⟨text, ⟨.whitespace, .ofList text, start⟩, none⟩ behind
  | lparen {behind} : Fits caseSensitive start ⟨['('], ⟨.lparen, "(", start⟩, none⟩ behind
  | rparen {behind} : Fits caseSensitive start ⟨[')'], ⟨.rparen, ")", start⟩, none⟩ behind
  | word {kind text behind} : Scan.keyword? caseSensitive text = some kind → text ≠ [] →
      (∀ c ∈ text, Scan.isWordPart c) → (∀ c ∈ behind.head?, ¬ Scan.isWordPart c) →
      Fits caseSensitive start ⟨text, ⟨kind, .ofList text, start⟩, none⟩ behind
  | literal {name ps behind} {path : Option Token} : (∀ p ∈ ps, p.IsInner) →
      (∀ u ∈ path, u.kind = .fieldPath ∧ (start : Int) < u.position ∧
        u.position < start + 1 + (Literal.source ps).length) →
      Fits caseSensitive start ⟨'"' :: (Literal.source ps ++ ['"']), ⟨.tag, name, start⟩, path⟩ behind

/-- Every stretch begins where the one before ends. -/
def Tiled (caseSensitive : Bool) : Nat → List Tile → Prop
  | _, [] => True
  | start, t :: tiles => t.Fits caseSensitive start (spelled tiles) ∧ Tiled caseSensitive (start + t.text.length) tiles

/-- Every stretch is what is scanned where the one before ends. -/
def Scanned (caseSensitive : Bool) : Nat → List Tile → Prop
  | _, [] => True
  | start, t :: tiles => t.text ≠ [] ∧ Scan.head caseSensitive (t.text ++ spelled tiles) start =
      ⟨.ok (t.token, t.path), spelled tiles, start + t.text.length⟩ ∧
      Scanned caseSensitive (start + t.text.length) tiles

variable {caseSensitive : Bool} {start : Nat} {t : Tile} {tiles : List Tile} {behind : List Char}

@[simp] lemma spelled_cons (t : Tile) (tiles : List Tile) : spelled (t :: tiles) = t.text ++ spelled tiles := rfl

namespace Fits

lemma position_eq (h : t.Fits caseSensitive start behind) : t.token.position = start := by cases h <;> rfl

lemma length_pos (h : t.Fits caseSensitive start behind) : 0 < t.text.length := by
  cases h with
  | blank ht | word _ ht => exact List.length_pos_iff.2 ht
  | _ => simp

lemma path_inside (h : t.Fits caseSensitive start behind) : ∀ u ∈ t.path,
    u.kind = .fieldPath ∧ (start : Int) < u.position ∧ u.position + 1 < start + t.text.length := by
  cases h with
  | literal _ hp =>
    intro u hu
    have ⟨hk, hl, hr⟩ := hp u hu
    refine ⟨hk, hl, ?_⟩
    simp only [List.length_cons, List.length_append, List.length_nil]
    omega
  | _ => simp

lemma length_tokens_le (h : t.Fits caseSensitive start behind) : t.tokens.length ≤ t.text.length := by
  have hp := h.length_pos
  cases hu : t.path with
  | none =>
    simp only [tokens, hu, Option.toList_none, List.length_singleton]
    omega
  | some u =>
    have ⟨_, hl, hr⟩ := h.path_inside u hu
    simp only [tokens, hu, Option.toList_some, List.length_cons, List.length_nil]
    omega

/-- The tokens of a stretch are in it, one behind the other. -/
lemma position_mem (h : t.Fits caseSensitive start behind) : ∀ u ∈ t.tokens,
    (start : Int) ≤ u.position ∧ u.position < start + t.text.length := by
  have hp := h.length_pos
  refine List.forall_mem_cons.2 ⟨?_, fun u hu => ?_⟩
  · rw [h.position_eq]
    omega
  · have ⟨_, hl, hr⟩ := h.path_inside u (by simpa using hu)
    omega

lemma pairwise_position (h : t.Fits caseSensitive start behind) : t.tokens.Pairwise (·.position < ·.position) := by
  refine List.pairwise_cons.2 ⟨fun u hu => ?_, ?_⟩
  · rw [h.position_eq]
    exact (h.path_inside u (by simpa using hu)).2.1
  · cases t.path <;> simp

/-- A stretch whose token is a blank one is made of blanks, and none is behind it. -/
lemma blank_of_kind (h : t.Fits caseSensitive start behind) (hk : t.token.kind = .whitespace) :
    (∀ c ∈ t.text, isBlank c) ∧ ∀ c ∈ behind.head?, ¬ isBlank c := by
  cases h with
  | blank _ ht hb => exact ⟨ht, hb⟩
  | word hw => exact absurd hk (Scan.not_whitespace_of_keyword? hw)
  | _ => cases hk

/-- Only the last token of a stretch can be a blank one, and it is the only one then. -/
lemma eq_token_of_getLast? (h : t.Fits caseSensitive start behind) {u : Token} (hu : u ∈ t.tokens.getLast?)
    (hk : u.kind = .whitespace) : u = t.token := by
  cases hp : t.path with
  | none => simpa [tokens, hp, eq_comm] using hu
  | some w =>
    obtain rfl : w = u := by simpa [tokens, hp] using hu
    rw [(h.path_inside w hp).1] at hk
    cases hk

lemma isChain_kind (h : t.Fits caseSensitive start behind) :
    t.tokens.IsChain fun t u : Token => ¬ (t.kind = .whitespace ∧ u.kind = .whitespace) := by
  cases hp : t.path with
  | none => simp [tokens, hp]
  | some w => simp [tokens, hp, (h.path_inside w hp).1]

end Fits
namespace Tiled

lemma length_tokens_le (h : Tiled caseSensitive start tiles) :
    (tiles.flatMap tokens).length ≤ (spelled tiles).length := by
  induction tiles generalizing start with
  | nil => exact Nat.le_refl _
  | cons t tiles ih =>
    have ht := h.1.length_tokens_le
    have hr := ih h.2
    simp only [List.flatMap_cons, spelled_cons, List.length_append]
    omega

lemma position_mem (h : Tiled caseSensitive start tiles) : ∀ u ∈ tiles.flatMap tokens,
    (start : Int) ≤ u.position ∧ u.position < start + (spelled tiles).length := by
  induction tiles generalizing start with
  | nil => simp
  | cons t tiles ih =>
    intro u hu
    rw [List.flatMap_cons, List.mem_append] at hu
    rw [spelled_cons, List.length_append]
    obtain hu | hu := hu
    · have := h.1.position_mem u hu
      omega
    · have := ih h.2 u hu
      omega

/-- The tokens of one stretch come before those of the next. -/
theorem pairwise_position (h : Tiled caseSensitive start tiles) :
    (tiles.flatMap tokens).Pairwise (·.position < ·.position) := by
  induction tiles generalizing start with
  | nil => exact .nil
  | cons t tiles ih =>
    rw [List.flatMap_cons, List.pairwise_append]
    refine ⟨h.1.pairwise_position, ih h.2, fun u hu w hw => ?_⟩
    have hl := h.1.position_mem u hu
    have hr := position_mem h.2 w hw
    omega

/-- No stretch of blanks comes behind another. -/
theorem isChain_kind (h : Tiled caseSensitive start tiles) (position : Int) :
    (tiles.flatMap tokens ++ [Token.eof position]).IsChain fun t u : Token =>
      ¬ (t.kind = .whitespace ∧ u.kind = .whitespace) := by
  induction tiles generalizing start with
  | nil => exact .singleton _
  | cons t tiles ih =>
    rw [List.flatMap_cons, List.append_assoc, List.isChain_append]
    refine ⟨h.1.isChain_kind, ih h.2, ?_⟩
    rintro u hu w hw ⟨hk, hkw⟩
    obtain rfl := h.1.eq_token_of_getLast? hu hk
    have hb := (h.1.blank_of_kind hk).2
    cases tiles with
    | nil =>
      obtain rfl : Token.eof position = w := by simpa using hw
      cases hkw
    | cons t' tiles =>
      obtain rfl : t'.token = w := by simpa [tokens] using hw
      obtain ⟨c, text, ht⟩ := List.exists_cons_of_length_pos h.2.1.length_pos
      have hc : isBlank c = true := (h.2.1.blank_of_kind hkw).1 c (by simp [ht])
      exact hb c (by simp [ht]) hc

end Tiled
end Tile

namespace Scan

variable {caseSensitive : Bool} {start : Nat}

/-- A scan of a text takes a stretch of it unless it fails. -/
def Takes (caseSensitive : Bool) (start : Nat) (cs : List Char) (s : Scan) : Prop :=
  ∀ t path, s.result = .ok (t, path) → ∃ text, cs = text ++ s.rest ∧ s.position = start + text.length ∧
    Tile.Fits caseSensitive start ⟨text, t, path⟩ s.rest

lemma takes_stuck (cause : LexError.Cause) (fragment cs : List Char) :
    Takes caseSensitive start cs (stuck cause fragment cs start) := fun _ _ h => nomatch h

lemma takes_single {kind : Token.Kind} {taken rest : List Char}
    (h : Tile.Fits caseSensitive start ⟨taken, ⟨kind, .ofList taken, start⟩, none⟩ rest) :
    Takes caseSensitive start (taken ++ rest) (single kind taken rest start) := by
  intro t path hs
  cases hs
  exact ⟨taken, rfl, rfl, h⟩

lemma not_of_head?_dropWhile (p : Char → Bool) (cs : List Char) : ∀ c ∈ (cs.dropWhile p).head?, ¬ p c := by
  intro c hc
  have h := List.head?_dropWhile_not p cs
  rw [hc] at h
  simpa using h

lemma takes_run {p : Char → Bool} {c : Char} {rest : List Char} {kind : Token.Kind} (hc : p c = true)
    (h : ∀ {text behind}, text = (c :: rest).takeWhile p → text ≠ [] → (∀ d ∈ text, p d) → (∀ d ∈ behind.head?, ¬ p d) →
      Tile.Fits caseSensitive start ⟨text, ⟨kind, .ofList text, start⟩, none⟩ behind) :
    Takes caseSensitive start (c :: rest)
      (single kind ((c :: rest).takeWhile p) ((c :: rest).dropWhile p) start) := by
  have hn : (c :: rest).takeWhile p ≠ [] := by simp [hc]
  have ht := takes_single (h rfl hn (fun _ hd => List.mem_takeWhile_imp hd)
    (not_of_head?_dropWhile p (c :: rest)))
  rwa [List.takeWhile_append_dropWhile] at ht

lemma position_literal (ps : List Literal.Piece) (rest : List Char) (position : Nat) :
    (literal ps rest position).position = position + (Literal.source ps).length + 2 := by
  simp only [literal]
  repeat' split <;> try rfl

/-- The path of a literal begins behind the colon and ends before the quote. -/
lemma fits_literal {ps : List Literal.Piece} (hp : ∀ p ∈ ps, p.IsInner) {rest : List Char} {t : Token}
    {path : Option Token} (h : (literal ps rest start).result = .ok (t, path)) :
    Tile.Fits caseSensitive start ⟨'"' :: (Literal.source ps ++ ['"']), t, path⟩ rest := by
  simp only [literal] at h
  split at h
  · cases h
  split at h
  · cases h
    exact .literal hp (by simp)
  next qs hqs =>
    split at h
    next hv =>
      cases h
      refine .literal hp fun u hu => ?_
      obtain rfl := Option.mem_some_iff.1 hu
      have hq : 0 < (Literal.source qs).length := Literal.source_pos_of_validPath hv
      have hl := Literal.length_source_of_pathPieces? hqs
      refine ⟨rfl, ?_, ?_⟩ <;> dsimp only <;> omega
    · cases h

/-- A literal is taken from its opening to its closing quote. -/
lemma takes_literal {ps : List Literal.Piece} (hp : ∀ p ∈ ps, p.IsInner) (rest : List Char) :
    Takes caseSensitive start ('"' :: (Literal.source ps ++ '"' :: rest)) (literal ps rest start) := by
  intro t path h
  rw [rest_literal, position_literal]
  refine ⟨'"' :: (Literal.source ps ++ ['"']), by simp, ?_, fits_literal hp h⟩
  simp only [List.length_cons, List.length_append, List.length_nil]
  omega

/-- What is scanned at the head of a text is a stretch of it. -/
theorem takes_head {cs : List Char} (hc : cs ≠ []) :
    Takes caseSensitive start cs (head caseSensitive cs start) := by
  obtain ⟨c, rest, rfl⟩ := List.exists_cons_of_ne_nil hc
  simp only [head]
  split
  next hb => exact takes_run hb fun _ => .blank
  split
  next hl =>
    subst hl
    exact @takes_single _ _ _ ['('] rest .lparen
  split
  next hr =>
    subst hr
    exact @takes_single _ _ _ [')'] rest .rparen
  split
  next hq =>
    subst hq
    split
    · exact takes_stuck _ _ _
    next ps after hps =>
      rw [← Literal.source_of_body? hps]
      exact takes_literal (Literal.isInner_of_body? hps) after
  split
  next hw =>
    split
    next kind hk => exact takes_run (isWordPart_of_isWordStart hw) fun ht => .word (ht ▸ hk)
    · exact takes_stuck _ _ _
  · exact takes_stuck _ _ _

/-- A scan that succeeds but does not go on has come to the end of the text. -/
lemma eq_nil_of_position_eq {cs : List Char} {r : Token × Option Token}
    (h : (head caseSensitive cs start).result = .ok r) (hp : (head caseSensitive cs start).position = start) :
    cs = [] := by
  by_contra hc
  obtain ⟨text, -, ht, hf⟩ := takes_head hc r.1 r.2 h
  have hl : 0 < text.length := hf.length_pos
  omega

end Scan
namespace Tile

/-- What is scanned one behind the other are stretches that make up the text. -/
theorem Scanned.tiled {caseSensitive : Bool} {start : Nat} {tiles : List Tile}
    (h : Scanned caseSensitive start tiles) : Tiled caseSensitive start tiles := by
  induction tiles generalizing start with
  | nil => trivial
  | cons t tiles ih =>
    obtain ⟨hne, hh, ht⟩ := h
    have hc : t.text ++ spelled tiles ≠ [] := List.append_ne_nil_of_left_ne_nil hne _
    obtain ⟨text, hcs, -, hf⟩ := Scan.takes_head hc t.token t.path (by rw [hh])
    rw [hh] at hcs hf
    obtain rfl : t.text = text := List.append_cancel_right hcs
    exact ⟨hf, ih ht⟩

end Tile
namespace Feed

lemma itemsOf_ok (t : Token) (path : Option Token) : itemsOf (.ok (t, path)) = (t :: path.toList).map .ok := by
  cases path <;> rfl

lemma map_ok_inj {us vs : List Token} : us.map (Except.ok (ε := LexError)) = vs.map .ok ↔ us = vs :=
  List.map_inj_right fun _ _ => Except.ok.inj

/-- A feed without an error gives the tokens of what is scanned one behind the other, and ends where the text ends. -/
theorem exists_scanned {caseSensitive : Bool} {cs : List Char} {start : Nat} {position : Int}
    (he : (scan caseSensitive cs start).ending = .eof position) {us : List Token}
    (hi : (scan caseSensitive cs start).items = us.map .ok) :
    ∃ tiles, Tile.spelled tiles = cs ∧ us = tiles.flatMap Tile.tokens ∧ Tile.Scanned caseSensitive start tiles ∧
      position = ↑(start + cs.length) := by
  induction cs, start using scan.induct caseSensitive generalizing us with
  | case1 cs start s hs ih =>
    rw [scan, if_pos hs] at hi he
    have hc : cs ≠ [] := by
      rintro rfl
      exact hs rfl
    obtain ⟨vs, ws, rfl, hv, hw⟩ := List.append_eq_map_iff.1 hi
    cases hr : (Scan.head caseSensitive cs start).result with
    | error e =>
      rw [hr] at hv
      cases vs <;> cases hv
    | ok r =>
      obtain ⟨t, path⟩ := r
      obtain ⟨text, hcs, hp, hf⟩ := Scan.takes_head hc t path hr
      obtain ⟨tiles, ht, rfl, htd, rfl⟩ := ih he hw.symm
      rw [hr, itemsOf_ok, map_ok_inj] at hv
      rw [hp] at htd
      have hh : Scan.head caseSensitive (text ++ Tile.spelled tiles) start =
          ⟨.ok (t, path), Tile.spelled tiles, start + text.length⟩ := by
        rw [ht, ← hcs, ← hr, ← hp]
      refine ⟨⟨text, t, path⟩ :: tiles, ?_, ?_, ⟨List.ne_nil_of_length_pos hf.length_pos, hh, htd⟩, ?_⟩
      · rw [Tile.spelled_cons, ht, ← hcs]
      · rw [hv]
        rfl
      · have hl := congrArg List.length hcs
        rw [List.length_append] at hl
        rw [hp, hl, Nat.add_assoc]
  | case2 cs start s hs r hr =>
    obtain rfl : cs = [] := Scan.eq_nil_of_position_eq hr (Decidable.of_not_not hs)
    rw [scan_nil] at hi he
    cases he
    obtain rfl : us = [] := List.map_eq_nil_iff.1 hi.symm
    exact ⟨[], rfl, rfl, trivial, rfl⟩
  | case3 cs start s hs e hr =>
    rw [scan, if_neg hs] at he
    simp only [s] at hr
    simp [hr] at he

/-- So it gives the tokens of stretches that make up its text. -/
theorem exists_tiled {caseSensitive : Bool} {cs : List Char} {start : Nat} {position : Int}
    (he : (scan caseSensitive cs start).ending = .eof position) {us : List Token}
    (hi : (scan caseSensitive cs start).items = us.map .ok) :
    ∃ tiles, Tile.spelled tiles = cs ∧ us = tiles.flatMap Tile.tokens ∧ Tile.Tiled caseSensitive start tiles ∧
      position = ↑(start + cs.length) := by
  obtain ⟨tiles, hs, hu, ht, hp⟩ := exists_scanned he hi
  exact ⟨tiles, hs, hu, ht.tiled, hp⟩

/-- What is scanned one behind the other is what the feed gives. -/
theorem scan_of_scanned {caseSensitive : Bool} {start : Nat} {tiles : List Tile}
    (h : Tile.Scanned caseSensitive start tiles) : scan caseSensitive (Tile.spelled tiles) start =
      ⟨(tiles.flatMap Tile.tokens).map .ok, .eof ↑(start + (Tile.spelled tiles).length)⟩ := by
  induction tiles generalizing start with
  | nil => exact scan_nil caseSensitive start
  | cons t tiles ih =>
    obtain ⟨hne, hh, ht⟩ := h
    have hpos : 0 < t.text.length := List.length_pos_iff.2 hne
    have hs := scan_of_head hh (by omega)
    rw [Tile.spelled_cons, hs, ih ht, prepend, List.flatMap_cons, List.map_append, List.length_append, Nat.add_assoc]
    rfl

end Feed

/-- The tokens of a text lie in it without a gap: it is cut into stretches, each behind the other, that give the tokens
in their order, and the end follows behind the last. Blanks do not come behind blanks, every token is behind those
before it, and there are no more of them than places in the text. -/
theorem tokens_tile_source {source : String} {caseSensitive : Bool} {ts : List Token}
    (h : tokenize source caseSensitive = .ok ts) :
    (∃ tiles, Tile.spelled tiles = source.toList ∧ ts = tiles.flatMap Tile.tokens ++ [.eof source.length] ∧
      Tile.Tiled caseSensitive 0 tiles) ∧
    (ts.IsChain fun t u => ¬ (t.kind = .whitespace ∧ u.kind = .whitespace)) ∧
    ts.Pairwise (·.position < ·.position) ∧ ts.length ≤ source.length + 1 := by
  obtain ⟨us, position, hi, he, rfl⟩ := tokenize_eq_ok.1 h
  obtain ⟨tiles, hs, rfl, ht, rfl⟩ := Feed.exists_tiled he hi
  have hl : (Tile.spelled tiles).length = source.length := by rw [hs, String.length_toList]
  rw [String.length_toList, Nat.zero_add]
  refine ⟨⟨tiles, hs, rfl, ht⟩, ht.isChain_kind _, ?_, ?_⟩
  · rw [List.pairwise_append]
    refine ⟨ht.pairwise_position, List.pairwise_singleton _ _, fun t hm u hu => ?_⟩
    obtain rfl := List.mem_singleton.1 hu
    have hp := (ht.position_mem t hm).2
    rw [hl] at hp
    simpa [Token.eof] using hp
  · have hn := ht.length_tokens_le
    rw [List.length_append, List.length_singleton]
    omega

theorem tokens_tile_source_escaped :
    let source := " (\"a\\\":b\"OR not\"c\")"
    let ts : List Token := [⟨.whitespace, " ", 0⟩, ⟨.lparen, "(", 1⟩, ⟨.tag, "a\"", 2⟩, ⟨.fieldPath, "b", 7⟩,
      ⟨.or, "OR", 9⟩, ⟨.whitespace, " ", 11⟩, ⟨.not, "not", 12⟩, ⟨.tag, "c", 15⟩, ⟨.rparen, ")", 18⟩, ⟨.eof, "", 19⟩]
    tokenize source false = .ok ts ∧
    (∃ tiles, Tile.spelled tiles = source.toList ∧ ts = tiles.flatMap Tile.tokens ++ [.eof source.length] ∧
      Tile.Tiled false 0 tiles) ∧
    ts.Pairwise (·.position < ·.position) ∧ ts.length ≤ source.length + 1 := by
  intro source ts
  have h : tokenize source false = .ok ts := by decide +kernel
  obtain ⟨ht, -, hp, hl⟩ := tokens_tile_source h
  exact ⟨h, ht, hp, hl⟩

end TagRules
