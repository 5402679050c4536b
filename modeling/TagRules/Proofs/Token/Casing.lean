import TagRules.Proofs.Token.Concatenation

/-!
Texts with their words in another case. Only the words for connectives and negation have a case: they can be rewritten
where they stand, character by character, and the text is cut into the same stretches. So a text that can be read in one
mode can be read in the other, if its words are ones that the other mode knows.
-/
namespace TagRules

/-- The kinds that are written as words. -/
def Token.Kind.isWord (k : Token.Kind) : Bool := k = .and || k = .or || k = .not

/-- The same token with each character of its word rewritten, if it is a word. -/
def Token.recased (f : Char → Char) (t : Token) : Token :=
  if t.kind.isWord then { t with value := .ofList (t.value.toList.map f) } else t

/-- A text with other characters in place of as many of its own. -/
def overwritten (cs : List Char) (position : Nat) (text : List Char) : List Char :=
  cs.take position ++ text ++ cs.drop (position + text.length)

/-- A text in which the word of a token, if it is one, is rewritten where it stands. -/
def recasedAt (f : Char → Char) (cs : List Char) (t : Token) : List Char :=
  if t.kind.isWord then overwritten cs t.position.toNat (t.recased f).value.toList else cs

/-- A text in which the words of some tokens are rewritten where they stand. -/
def recasedText (f : Char → Char) (ts : List Token) (cs : List Char) : List Char := ts.foldl (recasedAt f) cs

lemma Token.recased_id (t : Token) : t.recased id = t := by
  unfold recased
  split
  · rw [List.map_id, String.ofList_toList]
  · rfl

lemma recasedText_append (f : Char → Char) (ts us : List Token) (cs : List Char) :
    recasedText f (ts ++ us) cs = recasedText f us (recasedText f ts cs) := List.foldl_append

lemma overwritten_append {pre text behind new : List Char} {position : Nat} (hp : pre.length = position)
    (hn : new.length = text.length) : overwritten (pre ++ (text ++ behind)) position new = pre ++ (new ++ behind) := by
  subst hp
  rw [overwritten, List.take_left, ← List.drop_drop, List.drop_left, hn, List.drop_left, List.append_assoc]

namespace Scan

/-- Characters can be rewritten so that the words of one mode are words of the other: none becomes or ceases to be a
blank or a part of a word. -/
structure Recases (f : Char → Char) (caseSensitive caseSensitive' : Bool) : Prop where
  blank : ∀ c, isBlank (f c) = isBlank c
  part : ∀ c, isWordPart (f c) = isWordPart c
  keyword : ∀ {word kind}, keyword? caseSensitive word = some kind → keyword? caseSensitive' (word.map f) = some kind

/-- The words that name an operator. -/
def keywords : List (List Char) := [['a', 'n', 'd'], ['o', 'r'], ['n', 'o', 't']]

lemma mem_keywords {caseSensitive : Bool} {word : List Char} {kind : Token.Kind}
    (h : keyword? caseSensitive word = some kind) :
    (if caseSensitive then word else word.map Char.toLower) ∈ keywords := by
  unfold keyword? at h
  grind [keywords]

/-- The words of the strict mode are words of the other one as they are. -/
lemma recases_id : Recases id true false where
  blank _ := rfl
  part _ := rfl
  keyword {word kind} h := by
    have hlower : ∀ w ∈ keywords, w.map Char.toLower = w := by decide
    rw [List.map_id]
    change keyword? true (word.map Char.toLower) = some kind
    rw [hlower word (mem_keywords h), h]

/-- Lower case leaves a character as it is or makes a letter of a letter. -/
lemma toLower_cases (c : Char) : c.toLower = c ∨ c.isAlpha = true ∧ c.toLower.isAlpha = true := by
  by_cases hu : 'A'.val ≤ c.val ∧ c.val ≤ 'Z'.val
  · have hn : 65 ≤ c.toNat ∧ c.toNat ≤ 90 := by simpa [UInt32.le_iff_toNat_le] using hu
    have hl : c.toLower.toNat = (c.toNat + 32) % 2 ^ 32 :=
      (congrArg Char.toNat (dif_pos hu : c.toLower = _)).trans (UInt32.toNat_add _ _)
    have hlower : c.toLower.isLower = true := Bool.and_eq_true_iff.2
      ⟨decide_eq_true (UInt32.le_iff_toNat_le.2 (by change 97 ≤ c.toLower.toNat; omega)),
        decide_eq_true (UInt32.le_iff_toNat_le.2 (by change c.toLower.toNat ≤ 122; omega))⟩
    exact .inr ⟨Bool.or_eq_true_iff.2 (.inl (decide_eq_true hu)), Bool.or_eq_true_iff.2 (.inr hlower)⟩
  · exact .inl (dif_neg hu)

/-- So it changes nothing about a character that is told by its being a letter. -/
lemma toLower_of_letters {p : Char → Bool} {b : Bool} (h : ∀ c : Char, c.isAlpha = true → p c = b) (c : Char) :
    p c.toLower = p c := by
  obtain he | ⟨hc, hl⟩ := toLower_cases c
  · rw [he]
  · rw [h c hc, h c.toLower hl]

/-- The words of the other mode are words of the strict one in lower case. -/
lemma recases_toLower : Recases Char.toLower false true where
  blank := toLower_of_letters fun c hc => Bool.eq_false_iff.2 (not_isBlank_of_isWordStart (by simp [isWordStart, hc]))
  part := toLower_of_letters fun c hc => isWordPart_of_isWordStart (by simp [isWordStart, hc])
  keyword h := h

lemma isWord_of_keyword? {caseSensitive : Bool} {word : List Char} {kind : Token.Kind}
    (h : keyword? caseSensitive word = some kind) : kind.isWord = true := by
  unfold keyword? at h
  grind [Token.Kind.isWord]

lemma isWordStart_of_keyword? {caseSensitive : Bool} {c : Char} {word : List Char} {kind : Token.Kind}
    (h : keyword? caseSensitive (c :: word) = some kind) : isWordStart c = true := by
  have hletter : ∀ w ∈ keywords, w.head?.all Char.isAlpha = true := by decide
  have hc : c.isAlpha = true := by
    cases caseSensitive with
    | true => exact hletter _ (mem_keywords h)
    | false =>
      have hl : c.toLower.isAlpha = true := hletter _ (mem_keywords h)
      obtain he | ⟨hc, -⟩ := toLower_cases c
      · rwa [he] at hl
      · exact hc
  simp [isWordStart, hc]

variable {caseSensitive caseSensitive' : Bool} {start : Nat}

/-- Blanks are read up to the first character that is none. -/
lemma head_blanks {text behind : List Char} (hne : text ≠ []) (ht : ∀ c ∈ text, isBlank c)
    (hb : ∀ c ∈ behind.head?, ¬ isBlank c) :
    head caseSensitive (text ++ behind) start = single .whitespace text behind start := by
  obtain ⟨c, text, rfl⟩ := List.exists_cons_of_ne_nil hne
  have htake := takeWhile_run ht hb
  have hdrop := dropWhile_run ht hb
  rw [List.cons_append] at htake hdrop ⊢
  simp only [head]
  rw [if_pos (ht c List.mem_cons_self), htake, hdrop]

/-- What a literal gives does not depend on what is behind it. -/
lemma literal_behind (ps : List Literal.Piece) (rest rest' : List Char) (position : Nat) :
    literal ps rest' position = { literal ps rest position with rest := rest' } := by
  simp only [literal]
  repeat' split <;> try rfl

end Scan
namespace Tile

variable {caseSensitive caseSensitive' : Bool} {f : Char → Char} {start : Nat} {t : Tile} {tiles : List Tile}

/-- The same stretch with its word rewritten. -/
def recased (f : Char → Char) (t : Tile) : Tile :=
  ⟨if t.token.kind.isWord then t.text.map f else t.text, t.token.recased f, t.path⟩

lemma recased_id (t : Tile) : t.recased id = t := by
  simp [recased, Token.recased_id]

lemma length_text_recased (f : Char → Char) (t : Tile) : (t.recased f).text.length = t.text.length := by
  simp only [recased]
  split <;> simp

lemma Fits.tokens_recased {behind : List Char} (h : t.Fits caseSensitive start behind) :
    (t.recased f).tokens = t.tokens.map (Token.recased f) := by
  have hp : ∀ u ∈ t.path, u.recased f = u := by
    intro u hu
    rw [Token.recased, (h.path_inside u hu).1]
    rfl
  cases hu : t.path with
  | none => simp [tokens, recased, hu]
  | some u => simp [tokens, recased, hu, hp u hu]

/-- What is not told from a character before and after it is rewritten is told from the text behind as well. -/
lemma not_of_head?_recased {p : Char → Bool} (hp : ∀ c, p (f c) = p c) (ht : ∀ t ∈ tiles, t.text ≠ [])
    (h : ∀ c ∈ (spelled tiles).head?, ¬ p c) : ∀ c ∈ (spelled (tiles.map (recased f))).head?, ¬ p c := by
  cases tiles with
  | nil => exact h
  | cons t tiles =>
    obtain ⟨c, text, hc⟩ := List.exists_cons_of_ne_nil (ht t List.mem_cons_self)
    rw [spelled_cons, hc] at h
    have hpc : ¬ p c := h c rfl
    rw [List.map_cons, spelled_cons, recased, hc]
    split
    · simpa [hp] using hpc
    · simpa using hpc

lemma Scanned.text_ne_nil (h : Scanned caseSensitive start tiles) : ∀ t ∈ tiles, t.text ≠ [] := by
  induction tiles generalizing start with
  | nil => simp
  | cons t tiles ih => exact List.forall_mem_cons.2 ⟨h.1, ih h.2.2⟩

/-- The stretches of a text are those of the text with its words rewritten. -/
theorem Scanned.recased (hf : Scan.Recases f caseSensitive caseSensitive') (h : Scanned caseSensitive start tiles) :
    Scanned caseSensitive' start (tiles.map (Tile.recased f)) := by
  induction tiles generalizing start with
  | nil => trivial
  | cons t tiles ih =>
    have hfits : t.Fits caseSensitive start (spelled tiles) := h.tiled.1
    obtain ⟨hne, hh, ht⟩ := h
    have hbehind {p : Char → Bool} (hp : ∀ c, p (f c) = p c) := not_of_head?_recased hp ht.text_ne_nil
    have hl : (t.recased f).text.length = t.text.length := length_text_recased f t
    refine ⟨List.ne_nil_of_length_pos (hl ▸ List.length_pos_iff.2 hne), ?_, hl ▸ ih ht⟩
    cases hfits with
    | blank _ hb hend => exact Scan.head_blanks hne hb (hbehind hf.blank hend)
    | lparen => rfl
    | rparen => rfl
    | @word kind text _ hk _ hpart hend =>
      obtain ⟨c, word, rfl⟩ := List.exists_cons_of_ne_nil hne
      have hw : kind.isWord = true := Scan.isWord_of_keyword? hk
      have hk' := hf.keyword hk
      have hpart' : ∀ d ∈ word.map f, Scan.isWordPart d := by
        intro d hd
        obtain ⟨e, he, rfl⟩ := List.mem_map.1 hd
        rw [hf.part]
        exact hpart e (List.mem_cons_of_mem c he)
      have hhead := Scan.head_word (Scan.isWordStart_of_keyword? hk') hpart' hk' (hbehind hf.part hend) start
      simpa [Tile.recased, Token.recased, hw, Scan.single] using hhead
    | @literal name ps _ path hin hp =>
      have hlit := (Scan.head_literal hin caseSensitive (spelled tiles) start).symm.trans (by simpa using hh)
      have hhead := Scan.head_literal hin caseSensitive' (spelled (tiles.map (Tile.recased f))) start
      rw [Scan.literal_behind ps (spelled tiles), hlit] at hhead
      have hw : Token.Kind.tag.isWord = false := rfl
      simpa [Tile.recased, Token.recased, hw] using hhead

lemma Fits.text_eq_of_isWord {behind : List Char} (h : t.Fits caseSensitive start behind)
    (hw : t.token.kind.isWord = true) : t.text = t.token.value.toList := by
  cases h with
  | word => exact String.toList_ofList.symm
  | _ => cases hw

/-- The word of a stretch is rewritten where it stands. -/
lemma Fits.recasedText_eq {behind : List Char} (h : t.Fits caseSensitive start behind) {pre : List Char}
    (hp : pre.length = start) :
    recasedText f t.tokens (pre ++ (t.text ++ behind)) = pre ++ ((t.recased f).text ++ behind) := by
  have htoken : recasedAt f (pre ++ (t.text ++ behind)) t.token = pre ++ ((t.recased f).text ++ behind) := by
    rw [recasedAt]
    split
    next hw =>
      have htext : (t.recased f).text = (t.token.recased f).value.toList := by
        simp [Tile.recased, Token.recased, hw, h.text_eq_of_isWord hw]
      rw [htext, h.position_eq, Int.toNat_natCast, overwritten_append hp (by rw [← htext, length_text_recased])]
    next hw => simp [Tile.recased, hw]
  rw [tokens, recasedText, List.foldl_cons, htoken]
  cases hu : t.path with
  | none => rfl
  | some u =>
    have hw : u.kind.isWord = false := by
      rw [(h.path_inside u hu).1]
      rfl
    simp [recasedAt, hw]

/-- The words of a text are rewritten where they stand. -/
theorem Tiled.recasedText_eq (h : Tiled caseSensitive start tiles) {pre : List Char} (hp : pre.length = start) :
    recasedText f (tiles.flatMap tokens) (pre ++ spelled tiles) = pre ++ spelled (tiles.map (recased f)) := by
  induction tiles generalizing start pre with
  | nil => rfl
  | cons t tiles ih =>
    obtain ⟨hfits, ht⟩ := h
    have hl : (pre ++ (t.recased f).text).length = start + t.text.length := by
      rw [List.length_append, hp, length_text_recased]
    rw [List.flatMap_cons, recasedText_append, spelled_cons, hfits.recasedText_eq hp, List.map_cons, spelled_cons,
      ← List.append_assoc, ← List.append_assoc, ih ht hl]

lemma Tiled.tokens_recased (h : Tiled caseSensitive start tiles) :
    (tiles.map (recased f)).flatMap tokens = (tiles.flatMap tokens).map (Token.recased f) := by
  induction tiles generalizing start with
  | nil => rfl
  | cons t tiles ih =>
    rw [List.map_cons, List.flatMap_cons, h.1.tokens_recased, ih h.2, List.flatMap_cons, List.map_append]

lemma length_spelled_recased (f : Char → Char) (tiles : List Tile) :
    (spelled (tiles.map (recased f))).length = (spelled tiles).length := by
  induction tiles with
  | nil => rfl
  | cons t tiles ih => simp [length_text_recased, ih]

end Tile
namespace Feed

variable {f : Char → Char} {caseSensitive caseSensitive' : Bool}

/-- A feed without an error is, in the other mode and with the words rewritten, the same feed with its words
rewritten. -/
theorem ofSource_recased (hf : Scan.Recases f caseSensitive caseSensitive') {source : String} {us : List Token}
    {position : Int} (hi : (ofSource source caseSensitive).items = us.map .ok)
    (he : (ofSource source caseSensitive).ending = .eof position) :
    ofSource (.ofList (recasedText f us source.toList)) caseSensitive' =
      ⟨(us.map (Token.recased f)).map .ok, .eof position⟩ := by
  obtain ⟨tiles, hs, rfl, ht, rfl⟩ := exists_scanned he hi
  have htext := ht.tiled.recasedText_eq (f := f) List.length_nil
  rw [List.nil_append, List.nil_append, hs] at htext
  rw [ofSource, htext, String.toList_ofList, scan_of_scanned (ht.recased hf), ht.tiled.tokens_recased,
    Tile.length_spelled_recased, hs]

/-- What the strict mode can read, the other one reads as it is. -/
theorem ofSource_of_strict {source : String} {us : List Token} {position : Int}
    (hi : (ofSource source true).items = us.map .ok) (he : (ofSource source true).ending = .eof position) :
    ofSource source false = ofSource source true := by
  obtain ⟨tiles, hs, rfl, ht, rfl⟩ := exists_scanned he hi
  have hsame : tiles.map (Tile.recased id) = tiles := by
    rw [List.map_congr_left fun t _ => t.recased_id, List.map_id']
  have ht' : Tile.Scanned false 0 tiles := hsame ▸ ht.recased Scan.recases_id
  rw [ofSource, ofSource, ← hs, scan_of_scanned ht, scan_of_scanned ht']

/-- What the other mode can read, the strict one reads in lower case. -/
theorem ofSource_lowered {source : String} {us : List Token} {position : Int}
    (hi : (ofSource source false).items = us.map .ok) (he : (ofSource source false).ending = .eof position) :
    ofSource (.ofList (recasedText Char.toLower (us ++ [.eof position]) source.toList)) true =
      ⟨(us.map (Token.recased Char.toLower)).map .ok, .eof position⟩ := by
  have heof : recasedText Char.toLower (us ++ [.eof position]) source.toList =
      recasedText Char.toLower us source.toList := recasedText_append _ _ _ _
  rw [heof]
  exact ofSource_recased Scan.recases_toLower hi he

end Feed
end TagRules
