import TagRules.Proofs.Grammar.Basic
import TagRules.Proofs.Token.Tiling

/-!
What a text says, and that texts one behind the other say what each of them says. A text is read one blank, one
parenthesis, one word or one literal at a time, and blanks are passed over; so blanks on both sides of a seam do no
harm, and a text may go on behind another one unless it begins with a part of a word.
-/
namespace TagRules
namespace Token

abbrev Content := Kind × String

/-- What a token says, wherever it stands. -/
def content (t : Token) : Content := (t.kind, t.value)

/-- What some tokens say that the grammar speaks about. -/
def contents (ts : List Token) : List Content := (ts.filter isSignificant).map content

lemma contents_append (ts us : List Token) : contents (ts ++ us) = contents ts ++ contents us := by
  simp [contents]

end Token
open Token (Content contents)

/-- A scan that can be read, and what its tokens say. -/
def Scan.Says (s : Scan) (said : List Content) : Prop :=
  ∃ t path, s.result = .ok (t, path) ∧ contents (t :: path.toList) = said

/-- A feed that comes to the end of its text without an error, and what its tokens say. -/
def Feed.Says (f : Feed) (said : List Content) : Prop :=
  ∃ us position, f.items = us.map .ok ∧ f.ending = .eof position ∧ contents us = said

/-- What a text says, read from its beginning on. A run of blanks is one token, but blanks are passed over one by one
here, so that two runs may meet at a seam; a word ends where no part of a word is behind it. -/
inductive Reads (caseSensitive : Bool) : List Char → List Content → Prop
  | nil : Reads caseSensitive [] []
  | blank {c cs said} : isBlank c → Reads caseSensitive cs said → Reads caseSensitive (c :: cs) said
  | lparen {cs said} : Reads caseSensitive cs said → Reads caseSensitive ('(' :: cs) ((.lparen, "(") :: said)
  | rparen {cs said} : Reads caseSensitive cs said → Reads caseSensitive (')' :: cs) ((.rparen, ")") :: said)
  | word {c word kind cs said} : Scan.isWordStart c → (∀ d ∈ word, Scan.isWordPart d) →
      Scan.keyword? caseSensitive (c :: word) = some kind → (∀ d ∈ cs.head?, ¬ Scan.isWordPart d) →
      Reads caseSensitive cs said → Reads caseSensitive (c :: word ++ cs) ((kind, .ofList (c :: word)) :: said)
  | literal {ps said cs more} : (∀ p ∈ ps, p.IsInner) →
      (∀ rest position, (Scan.literal ps rest position).Says said) → Reads caseSensitive cs more →
      Reads caseSensitive ('"' :: (Literal.source ps ++ '"' :: cs)) (said ++ more)

namespace Reads

variable {caseSensitive : Bool} {cs ds : List Char} {said more : List Content}

lemma blanks {text : List Char} (ht : ∀ c ∈ text, isBlank c) (h : Reads caseSensitive cs said) :
    Reads caseSensitive (text ++ cs) said := by
  induction text with
  | nil => exact h
  | cons c text ih =>
    obtain ⟨hc, ht⟩ := List.forall_mem_cons.1 ht
    exact .blank hc (ih ht)

/-- A text behind another one is read on its own unless it goes on with a word. -/
theorem append (h : Reads caseSensitive cs said) (h' : Reads caseSensitive ds more)
    (hd : ∀ d ∈ ds.head?, ¬ Scan.isWordPart d) : Reads caseSensitive (cs ++ ds) (said ++ more) := by
  induction h with
  | nil => exact h'
  | blank hc _ ih => exact .blank hc ih
  | lparen _ ih => exact .lparen ih
  | rparen _ ih => exact .rparen ih
  | @word c word kind cs said hc hw hk hb _ ih =>
    have hb' : ∀ d ∈ (cs ++ ds).head?, ¬ Scan.isWordPart d := by
      cases cs with
      | nil => exact hd
      | cons => exact hb
    rw [List.append_assoc]
    exact .word hc hw hk hb' ih
  | @literal ps said cs more hp hs _ ih =>
    rw [List.append_assoc, List.cons_append, List.append_assoc, List.cons_append]
    exact .literal hp hs ih

end Reads
namespace Scan

variable {caseSensitive : Bool}

lemma says_single {kind : Token.Kind} {taken rest : List Char} {position : Nat} :
    (single kind taken rest position).Says (contents [⟨kind, .ofList taken, position⟩]) :=
  ⟨_, _, rfl, rfl⟩

lemma contents_keyword {word : List Char} {kind : Token.Kind} (h : keyword? caseSensitive word = some kind)
    (value : String) (position : Int) : contents [⟨kind, value, position⟩] = [(kind, value)] := by
  have hsimple : kind.isSimple = true := isSimple_of_keyword? h
  have hblank : kind ≠ .whitespace := not_whitespace_of_keyword? h
  simp only [Token.Kind.isSimple, Bool.and_eq_true, decide_eq_true_eq] at hsimple
  simp [contents, Token.content, Token.isSignificant, hblank, hsimple.2]

/-- What a literal says does not depend on its place. -/
lemma Says.literal {ps : List Literal.Piece} {rest : List Char} {position : Nat} {said : List Content}
    (h : (literal ps rest position).Says said) (rest' : List Char) (position' : Nat) :
    (literal ps rest' position').Says said := by
  obtain ⟨t, path, hr, rfl⟩ := h
  unfold Says
  simp only [Scan.literal] at hr ⊢
  split at hr
  · cases hr
  next hn =>
    rw [if_neg hn]
    cases hp : Literal.pathPieces? ps with
    | none =>
      rw [hp] at hr
      cases hr
      exact ⟨_, _, rfl, rfl⟩
    | some qs =>
      simp only [hp] at hr ⊢
      split at hr
      next hv =>
        cases hr
        rw [if_pos hv]
        exact ⟨_, _, rfl, rfl⟩
      · cases hr

/-- What a scan says, with what the text behind it says, is what the whole text says. -/
def Leads (caseSensitive : Bool) (cs : List Char) (s : Scan) : Prop :=
  ∀ said more, s.Says said → Reads caseSensitive s.rest more → Reads caseSensitive cs (said ++ more)

lemma leads_stuck (cause : LexError.Cause) (fragment cs : List Char) (position : Nat) :
    Leads caseSensitive cs (stuck cause fragment cs position) := fun _ _ ⟨_, _, h, _⟩ => nomatch h

lemma leads_single {kind : Token.Kind} {taken rest cs : List Char} {position : Nat}
    (h : ∀ more, Reads caseSensitive rest more →
      Reads caseSensitive cs (contents [⟨kind, .ofList taken, position⟩] ++ more)) :
    Leads caseSensitive cs (single kind taken rest position) := by
  rintro said more ⟨t, path, hr, rfl⟩
  cases hr
  exact h more

/-- What is scanned at the head of a text leads to what the text says. -/
theorem leads_head {cs : List Char} (hc : cs ≠ []) (position : Nat) :
    Leads caseSensitive cs (head caseSensitive cs position) := by
  obtain ⟨c, rest, rfl⟩ := List.exists_cons_of_ne_nil hc
  simp only [head]
  split
  next hb =>
    refine leads_single fun more h => ?_
    have hr : Reads caseSensitive ((c :: rest).takeWhile isBlank ++ (c :: rest).dropWhile isBlank) more :=
      h.blanks fun _ hd => List.mem_takeWhile_imp hd
    rwa [List.takeWhile_append_dropWhile] at hr
  split
  next hl =>
    subst hl
    exact leads_single fun _ => .lparen
  split
  next hr =>
    subst hr
    exact leads_single fun _ => .rparen
  split
  next hq =>
    subst hq
    split
    · exact leads_stuck _ _ _ _
    next ps after hps =>
      rw [← Literal.source_of_body? hps]
      intro said more hs hm
      rw [rest_literal] at hm
      exact .literal (Literal.isInner_of_body? hps) hs.literal hm
  split
  next hw =>
    have hw' : isWordPart c = true := isWordPart_of_isWordStart hw
    rw [List.takeWhile_cons_of_pos hw', List.dropWhile_cons_of_pos hw']
    split
    next kind hk =>
      refine leads_single fun more h => ?_
      have hr := Reads.word hw (fun _ hd => List.mem_takeWhile_imp hd) hk (not_of_head?_dropWhile isWordPart rest) h
      rw [List.cons_append, List.takeWhile_append_dropWhile] at hr
      rwa [contents_keyword hk]
    · exact leads_stuck _ _ _ _
  · exact leads_stuck _ _ _ _

end Scan

/-- What is scanned one behind the other says what the text says that it makes up. -/
theorem Tile.Scanned.reads {caseSensitive : Bool} {start : Nat} {tiles : List Tile}
    (h : Scanned caseSensitive start tiles) :
    Reads caseSensitive (spelled tiles) (contents (tiles.flatMap tokens)) := by
  induction tiles generalizing start with
  | nil => exact .nil
  | cons t tiles ih =>
    obtain ⟨hne, hh, ht⟩ := h
    have hc : t.text ++ spelled tiles ≠ [] := List.append_ne_nil_of_left_ne_nil hne _
    have hleads : Scan.Leads caseSensitive (t.text ++ spelled tiles) _ := Scan.leads_head hc start
    rw [hh] at hleads
    rw [spelled_cons, List.flatMap_cons, Token.contents_append]
    exact hleads _ _ ⟨t.token, t.path, rfl, rfl⟩ (ih ht)

namespace Feed

variable {caseSensitive : Bool} {cs : List Char} {position : Nat} {said more : List Content}

/-- A scan that goes on says something in front of all that comes behind it. -/
lemma Says.of_head {s : Scan} (hh : Scan.head caseSensitive cs position = s) (hs : s.Says said)
    (hp : s.position ≠ position) (hm : (scan caseSensitive s.rest s.position).Says more) :
    (scan caseSensitive cs position).Says (said ++ more) := by
  subst hh
  obtain ⟨t, path, hr, rfl⟩ := hs
  obtain ⟨us, ending, hi, he, rfl⟩ := hm
  rw [scan, if_pos hp]
  refine ⟨t :: path.toList ++ us, ending, ?_, he, Token.contents_append _ _⟩
  dsimp only
  rw [hr, itemsOf_ok, hi, List.map_append]

/-- A feed without an error says what its text says. -/
theorem reads_of_items {cs : List Char} {start : Nat} {ending : Int}
    (he : (scan caseSensitive cs start).ending = .eof ending) {us : List Token}
    (hi : (scan caseSensitive cs start).items = us.map .ok) : Reads caseSensitive cs (contents us) := by
  obtain ⟨tiles, rfl, rfl, ht, -⟩ := exists_scanned he hi
  exact ht.reads

/-- Blanks in front of a text say nothing. -/
lemma Says.of_dropWhile (h : ∀ position, (scan caseSensitive (cs.dropWhile isBlank) position).Says said)
    (position : Nat) : (scan caseSensitive cs position).Says said := by
  cases cs with
  | nil => exact h position
  | cons c cs =>
    by_cases hc : isBlank c = true
    · have hh : Scan.head caseSensitive (c :: cs) position =
          Scan.single .whitespace ((c :: cs).takeWhile isBlank) ((c :: cs).dropWhile isBlank) position := if_pos hc
      have hl : ((c :: cs).takeWhile isBlank).length ≠ 0 := by simp [hc]
      exact .of_head hh Scan.says_single (by simp only [Scan.single]; omega) (h _)
    · rw [List.dropWhile_cons_of_neg hc] at h
      exact h position

end Feed
namespace Scan

variable {caseSensitive : Bool}

lemma not_isBlank_of_isWordStart {c : Char} (h : isWordStart c = true) : ¬ isBlank c := by
  have hc : 65 ≤ c.toNat ∧ c.toNat ≤ 122 := by
    obtain h | h := Bool.or_eq_true_iff.1 h
    · obtain h | h := Bool.or_eq_true_iff.1 h
      · have ⟨hl, hr⟩ : 65 ≤ c.toNat ∧ c.toNat ≤ 90 := of_decide_eq_true h
        omega
      · have ⟨hl, hr⟩ := Bool.and_eq_true_iff.1 h
        have hl : 97 ≤ c.toNat := of_decide_eq_true hl
        have hr : c.toNat ≤ 122 := of_decide_eq_true hr
        omega
    · obtain rfl := eq_of_beq h
      decide
  unfold isBlank
  grind

/-- A run of characters is taken up to the first character behind it that is none of them. -/
lemma takeWhile_run {p : Char → Bool} {text behind : List Char} (ht : ∀ c ∈ text, p c)
    (hb : ∀ c ∈ behind.head?, ¬ p c) : (text ++ behind).takeWhile p = text := by
  rw [List.takeWhile_append_of_pos ht]
  cases behind with
  | nil => simp
  | cons c behind => simp [List.takeWhile_cons_of_neg (hb c rfl)]

lemma dropWhile_run {p : Char → Bool} {text behind : List Char} (ht : ∀ c ∈ text, p c)
    (hb : ∀ c ∈ behind.head?, ¬ p c) : (text ++ behind).dropWhile p = behind := by
  rw [List.dropWhile_append_of_pos ht]
  cases behind with
  | nil => rfl
  | cons c behind => exact List.dropWhile_cons_of_neg (hb c rfl)

/-- A keyword is read up to the first character that is no part of a word. -/
lemma head_word {c : Char} {word cs : List Char} {kind : Token.Kind} (hc : isWordStart c = true)
    (hw : ∀ d ∈ word, isWordPart d) (hk : keyword? caseSensitive (c :: word) = some kind)
    (hb : ∀ d ∈ cs.head?, ¬ isWordPart d) (position : Nat) :
    head caseSensitive (c :: word ++ cs) position = single kind (c :: word) cs position := by
  have hall : ∀ d ∈ c :: word, isWordPart d := List.forall_mem_cons.2 ⟨isWordPart_of_isWordStart hc, hw⟩
  have ht : (c :: word ++ cs).takeWhile isWordPart = c :: word := takeWhile_run hall hb
  have hd : (c :: word ++ cs).dropWhile isWordPart = cs := dropWhile_run hall hb
  have hne (d : Char) (h : isWordStart d = false) : c ≠ d := by
    rintro rfl
    rw [hc] at h
    cases h
  rw [List.cons_append] at ht hd ⊢
  simp only [head]
  rw [if_neg (not_isBlank_of_isWordStart hc), if_neg (hne '(' rfl), if_neg (hne ')' rfl), if_neg (hne '"' rfl),
    if_pos hc, ht, hd, hk]

end Scan

/-- What a text says its feed says too, wherever it begins. -/
theorem Reads.says {caseSensitive : Bool} {cs : List Char} {said : List Content} (h : Reads caseSensitive cs said) :
    ∀ position, (Feed.scan caseSensitive cs position).Says said := by
  -- Blanks are scanned as one run, so the induction is about the text behind them.
  refine Feed.Says.of_dropWhile ?_
  induction h with
  | nil =>
    intro position
    rw [List.dropWhile_nil, Feed.scan_nil]
    exact ⟨[], _, rfl, rfl, rfl⟩
  | blank hc _ ih => rwa [List.dropWhile_cons_of_pos hc]
  | @lparen cs _ _ ih =>
    intro position
    have hh : Scan.head caseSensitive ('(' :: cs) position = Scan.single .lparen ['('] cs position := rfl
    have hs : (Scan.single .lparen ['('] cs position).Says [(.lparen, "(")] := Scan.says_single
    exact .of_head hh hs (Nat.succ_ne_self _) (.of_dropWhile ih _)
  | @rparen cs _ _ ih =>
    intro position
    have hh : Scan.head caseSensitive (')' :: cs) position = Scan.single .rparen [')'] cs position := rfl
    have hs : (Scan.single .rparen [')'] cs position).Says [(.rparen, ")")] := Scan.says_single
    exact .of_head hh hs (Nat.succ_ne_self _) (.of_dropWhile ih _)
  | @word c word kind cs said hc hw hk hb _ ih =>
    intro position
    rw [List.cons_append, List.dropWhile_cons_of_neg (Scan.not_isBlank_of_isWordStart hc), ← List.cons_append]
    have hs : (Scan.single kind (c :: word) cs position).Says [(kind, .ofList (c :: word))] := by
      rw [← Scan.contents_keyword hk]
      exact Scan.says_single
    exact .of_head (Scan.head_word hc hw hk hb position) hs (by simp [Scan.single]) (.of_dropWhile ih _)
  | @literal ps said cs more hp hs _ ih =>
    intro position
    rw [List.dropWhile_cons_of_neg (by decide)]
    refine .of_head (Scan.head_literal hp caseSensitive cs position) (hs cs position) ?_ ?_
    · rw [Scan.position_literal]
      omega
    · rw [Scan.rest_literal]
      exact .of_dropWhile ih _

end TagRules
