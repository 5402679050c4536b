import TagRules.Proofs.Token.Encoded
import Mathlib.Order.Monotone.Basic

/-!
How a reader goes on, whatever its calls give. `Lexer.Call` lists what one call can do; from it follows what any number
of them do. A reader never goes back. It stays at a word, a character or an open literal that it cannot read; a literal
that it refuses is left out as a whole, and what is read behind it is what a new reader reads there.
-/
namespace TagRules

/-- The same token further on in a text. -/
def Token.shifted (d : Nat) (t : Token) : Token := { t with position := t.position + d }

/-- The same error further on in a text. -/
def LexError.shifted (d : Nat) (e : LexError) : LexError := { e with position := e.position + d }

/-- The causes for which a reader stays where it is. -/
def LexError.staying : List LexError.Cause := [.unterminatedLiteral, .unexpectedWord, .unexpectedCharacter]

/-- The causes for which a reader leaves a literal out. -/
def LexError.leaving : List LexError.Cause := [.emptyName, .invalidPath]

lemma Tile.Fits.kind_ne_eof {caseSensitive : Bool} {start : Nat} {t : Tile} {behind : List Char}
    (h : t.Fits caseSensitive start behind) : t.token.kind ≠ .eof := by
  cases h with
  | word hk =>
    rintro rfl
    exact absurd (Scan.isSimple_of_keyword? hk) (by decide)
  | _ => simp

namespace Scan

/-- The same scan further on in a text. -/
def shifted (d : Nat) (s : Scan) : Scan :=
  ⟨(s.result.map fun r => (r.1.shifted d, r.2.map (Token.shifted d))).mapError (LexError.shifted d), s.rest,
    s.position + d⟩

lemma shifted_single (kind : Token.Kind) (taken rest : List Char) (position d : Nat) :
    single kind taken rest (position + d) = (single kind taken rest position).shifted d := by
  simp [single, shifted, Except.map, Except.mapError, Token.shifted, Nat.add_right_comm]

lemma shifted_stuck (cause : LexError.Cause) (fragment cs : List Char) (position d : Nat) :
    stuck cause fragment cs (position + d) = (stuck cause fragment cs position).shifted d := rfl

lemma shifted_literal (ps : List Literal.Piece) (rest : List Char) (position d : Nat) :
    literal ps rest (position + d) = (literal ps rest position).shifted d := by
  have hafter : position + d + (Literal.source ps).length + 2 = position + (Literal.source ps).length + 2 + d := by
    omega
  simp only [literal, hafter]
  split
  · rfl
  · split
    · rfl
    · split
      · simp only [shifted, Except.map, Except.mapError, Option.map_some, Token.shifted]
        congr 5
        push_cast
        omega
      · rfl

/-- What is scanned does not depend on where it stands. -/
theorem head_shifted (caseSensitive : Bool) (cs : List Char) (position d : Nat) :
    head caseSensitive cs (position + d) = (head caseSensitive cs position).shifted d := by
  cases cs with
  | nil => rfl
  | cons c rest =>
    simp only [head]
    split
    · exact shifted_single _ _ _ _ _
    split
    · exact shifted_single _ _ _ _ _
    split
    · exact shifted_single _ _ _ _ _
    split
    · split
      · exact shifted_stuck _ _ _ _ _
      · exact shifted_literal _ _ _ _
    split
    · split
      · exact shifted_single _ _ _ _ _
      · exact shifted_stuck _ _ _ _ _
    · exact shifted_stuck _ _ _ _ _

open Literal

variable {caseSensitive : Bool} {position : Nat}

/-- An error at which a scan stays. -/
def StaysAt (cs : List Char) (e : LexError) (s : Scan) : Prop :=
  e.cause ∈ LexError.staying ∧ cs ≠ [] ∧ s.rest = cs ∧ s.position = e.position

/-- An error behind whose literal a scan goes on: the literal ends at the first quote that is free. -/
def GoesOnBehind (cs : List Char) (e : LexError) (s : Scan) : Prop :=
  e.cause ∈ LexError.leaving ∧ ∃ behind n, cs = '"' :: behind ∧ StandsFirst behind '"' n ∧
    s.rest = behind.drop (n + 1) ∧ s.position = e.position + n + 2

/-- A scan of a text fails where it begins, and stays there or leaves a literal out, if it fails at all. -/
def Misses (position : Nat) (cs : List Char) (s : Scan) : Prop :=
  ∀ e, s.result = .error e → e.position = position ∧ (StaysAt cs e s ∨ GoesOnBehind cs e s)

lemma misses_single (kind : Token.Kind) (taken rest cs : List Char) :
    Misses position cs (single kind taken rest position) := fun _ h => nomatch h

lemma misses_stuck {cause : LexError.Cause} (h : cause ∈ LexError.staying) (fragment : List Char) {cs : List Char}
    (hc : cs ≠ []) : Misses position cs (stuck cause fragment cs position) := by
  intro e he
  cases he
  exact ⟨rfl, .inl ⟨h, hc, rfl, rfl⟩⟩

/-- A literal that is closed ends at the first free quote, whatever is wrong with it. -/
lemma misses_literal {behind rest : List Char} {ps : List Piece} (hb : body? behind = some (ps, rest)) :
    Misses position ('"' :: behind) (literal ps rest position) := by
  intro e he
  obtain ⟨hs, hback⟩ := standsFirst_of_body? hb
  have hrest : rest = behind.drop ((source ps).length + 1) := by
    rw [← source_of_body? hb, List.drop_length_add_append]
    rfl
  have hcause : e.position = position ∧ e.cause ∈ LexError.leaving := by
    rw [literal_of_splits hback (splits_source hback)] at he
    dsimp only at he
    split at he
    · cases he
      exact ⟨rfl, List.mem_cons_self⟩
    · split at he <;> cases he
      exact ⟨rfl, List.mem_cons_of_mem _ List.mem_cons_self⟩
  refine ⟨hcause.1, .inr ⟨hcause.2, behind, (source ps).length, rfl, hs, ?_, ?_⟩⟩
  · rw [rest_literal, hrest]
  · rw [position_literal, hcause.1]

theorem misses_head (cs : List Char) : Misses position cs (head caseSensitive cs position) := by
  cases cs with
  | nil => exact fun _ h => nomatch h
  | cons c rest =>
    have hc : c :: rest ≠ [] := List.cons_ne_nil c rest
    simp only [head]
    split
    · exact misses_single _ _ _ _
    split
    · exact misses_single _ _ _ _
    split
    · exact misses_single _ _ _ _
    split
    next hq =>
      subst hq
      split
      · exact misses_stuck (by decide) _ hc
      next ps after hb => exact misses_literal hb
    split
    · split
      · exact misses_single _ _ _ _
      · exact misses_stuck (by decide) _ hc
    · exact misses_stuck (by decide) _ hc

end Scan
namespace Lexer

open Literal

/-- What a call of a reader can do: it gives the token held back, or the end of the text, or what stands at the head of
the text; or it fails and stays, or fails and goes on behind a literal. -/
inductive Call (l : Lexer) : Except LexError Token → Lexer → Prop
  | held {t : Token} : l.held = some t → Call l (.ok t) { l with held := none }
  | eof : l.held = none → l.rest = [] → Call l (.ok (.eof l.position)) l
  | token {text rest : List Char} {t : Token} {path : Option Token} : l.held = none → l.rest = text ++ rest →
      Tile.Fits l.caseSensitive l.position ⟨text, t, path⟩ rest →
      Call l (.ok t) ⟨l.caseSensitive, rest, l.position + text.length, path⟩
  | stays {e : LexError} : l.held = none → l.rest ≠ [] → e.cause ∈ LexError.staying → e.position = l.position →
      Call l (.error e) l
  | leaves {e : LexError} {behind : List Char} {n : Nat} : l.held = none → l.rest = '"' :: behind →
      StandsFirst behind '"' n → e.cause ∈ LexError.leaving → e.position = l.position →
      Call l (.error e) ⟨l.caseSensitive, behind.drop (n + 1), l.position + n + 2, none⟩

/-- And nothing else. -/
theorem call_next (l : Lexer) : l.Call l.next.1 l.next.2 := by
  obtain ⟨caseSensitive, rest, position, held⟩ := l
  cases held with
  | some t => exact .held rfl
  | none =>
    simp only [next]
    cases hr : (Scan.head caseSensitive rest position).result with
    | ok r =>
      obtain ⟨t, path⟩ := r
      by_cases hc : rest = []
      · subst hc
        cases hr
        exact .eof rfl rfl
      · obtain ⟨text, hrest, hp, hf⟩ := Scan.takes_head hc t path hr
        dsimp only
        rw [hp]
        exact .token rfl hrest hf
    | error e =>
      obtain ⟨he, ⟨hs, hc, hrest, hp⟩ | ⟨hl, behind, n, hb, hn, hrest, hp⟩⟩ := Scan.misses_head rest e hr
      · dsimp only
        rw [hrest, hp, he]
        exact .stays rfl hc hs he
      · dsimp only
        rw [hrest, hp, he]
        exact .leaves rfl hb hn hl he

/-- A reader that was asked some times. -/
def asked (l : Lexer) : Nat → Lexer
  | 0 => l
  | n + 1 => (l.asked n).next.2

/-- What a reader gives when it was asked some times before. -/
def answer (l : Lexer) (n : Nat) : Except LexError Token := (l.asked n).next.1

lemma call_answer (l : Lexer) (n : Nat) : (l.asked n).Call (l.answer n) (l.asked (n + 1)) := call_next _

lemma asked_add (l : Lexer) (m n : Nat) : l.asked (m + n) = (l.asked m).asked n := by
  induction n with
  | zero => rfl
  | succ n ih => rw [← Nat.add_assoc, asked, ih, asked]

/-- A reader that a call leaves as it is gives the same for ever. -/
lemma answer_forever {l : Lexer} {n : Nat} (h : l.asked (n + 1) = l.asked n) (k : Nat) :
    l.answer (n + k) = l.answer n := by
  have hk : l.asked (n + k) = l.asked n := by
    induction k with
    | zero => rfl
    | succ k ih => rw [← Nat.add_assoc, asked, ih, ← asked, h]
  rw [answer, hk, answer]

/-- The same reader further on in a text. -/
def shifted (d : Nat) (l : Lexer) : Lexer :=
  { l with position := l.position + d, held := l.held.map (Token.shifted d) }

/-- The same answer further on in a text. -/
def shiftedAnswer (d : Nat) (r : Except LexError Token) : Except LexError Token :=
  (r.map (Token.shifted d)).mapError (LexError.shifted d)

lemma ok_of_shiftedAnswer {d : Nat} {r : Except LexError Token} {t : Token} (h : shiftedAnswer d r = .ok t) :
    ∃ t', r = .ok t' ∧ t = t'.shifted d := by
  cases r with
  | error e => cases h
  | ok t' =>
    cases h
    exact ⟨t', rfl, rfl⟩

lemma next_shifted (d : Nat) (l : Lexer) :
    (l.shifted d).next = (shiftedAnswer d l.next.1, l.next.2.shifted d) := by
  obtain ⟨caseSensitive, rest, position, held⟩ := l
  cases held with
  | some t => rfl
  | none =>
    simp only [next, shifted, Option.map_none, Scan.head_shifted]
    cases hr : (Scan.head caseSensitive rest position).result with
    | error e => simp [Scan.shifted, hr, Except.map, Except.mapError, shiftedAnswer]
    | ok r => simp [Scan.shifted, hr, Except.map, Except.mapError, shiftedAnswer]

lemma asked_shifted (d : Nat) (l : Lexer) (n : Nat) : (l.shifted d).asked n = (l.asked n).shifted d := by
  induction n with
  | zero => rfl
  | succ n ih => rw [asked, ih, next_shifted, asked]

/-- What a reader gives does not depend on where its text stands. -/
theorem answer_shifted (d : Nat) (l : Lexer) (n : Nat) :
    (l.shifted d).answer n = shiftedAnswer d (l.answer n) := by
  rw [answer, asked_shifted, next_shifted, answer]

/-- Where a reader can stand in a text: what is ahead is the text behind its place, and a token held back is the path of
a literal before it. -/
structure StandsIn (source : String) (caseSensitive : Bool) (l : Lexer) : Prop where
  case_eq : l.caseSensitive = caseSensitive
  rest_eq : l.rest = source.toList.drop l.position
  position_le : l.position ≤ source.length
  held_before : ∀ t ∈ l.held, t.kind = .fieldPath ∧ 0 ≤ t.position ∧ t.position < l.position

namespace StandsIn

variable {source : String} {caseSensitive : Bool} {l l' : Lexer} {r : Except LexError Token}

lemma of_source (source : String) (caseSensitive : Bool) :
    (ofSource source caseSensitive).StandsIn source caseSensitive :=
  ⟨rfl, rfl, Nat.zero_le _, by simp [ofSource]⟩

/-- Behind some characters ahead there is still the text, and it is behind them. -/
lemma behind (h : l.StandsIn source caseSensitive) {n : Nat} (hn : n ≤ l.rest.length) :
    l.rest.drop n = source.toList.drop (l.position + n) ∧ l.position + n ≤ source.length := by
  have hl := h.position_le
  rw [h.rest_eq, List.length_drop, String.length_toList] at hn
  rw [h.rest_eq, List.drop_drop]
  exact ⟨rfl, by omega⟩

/-- No call leads out of the text or back in it. -/
theorem call (h : l.StandsIn source caseSensitive) (hc : l.Call r l') :
    l'.StandsIn source caseSensitive ∧ l.position ≤ l'.position := by
  cases hc with
  | held ht => exact ⟨⟨h.case_eq, h.rest_eq, h.position_le, by simp⟩, Nat.le_refl _⟩
  | eof | stays => exact ⟨h, Nat.le_refl _⟩
  | @token text rest t path hh hr hf =>
    obtain ⟨hdrop, hle⟩ := h.behind (n := text.length) (by simp [hr])
    rw [hr, List.drop_left] at hdrop
    refine ⟨⟨h.case_eq, hdrop, hle, fun u hu => ?_⟩, Nat.le_add_right _ _⟩
    have ⟨hk, hl, hlt⟩ := hf.path_inside u hu
    dsimp only at hlt ⊢
    exact ⟨hk, by omega, by omega⟩
  | @leaves e behind n hh hr hn =>
    have hlt : n < behind.length := (List.getElem?_eq_some_iff.1 hn.free.1).1
    obtain ⟨hdrop, hle⟩ := h.behind (n := n + 2) (by rw [hr, List.length_cons]; omega)
    rw [hr, List.drop_succ_cons] at hdrop
    exact ⟨⟨h.case_eq, hdrop, hle, by simp⟩, Nat.le_add_right _ (n + 2)⟩

theorem asked (h : l.StandsIn source caseSensitive) (n : Nat) : (l.asked n).StandsIn source caseSensitive := by
  induction n with
  | zero => exact h
  | succ n ih => exact (ih.call (call_next _)).1

/-- What is known of a token that a call gives. -/
theorem token (h : l.StandsIn source caseSensitive) {t : Token} (hc : l.Call (.ok t) l') :
    (t = .eof source.length ∧ l' = l) ∨
    (t.kind = .fieldPath ∧ l.held = some t ∧ 0 ≤ t.position ∧ t.position < l'.position) ∨
    (t.kind ≠ .eof ∧ t.position = l.position ∧ l.position < l'.position) := by
  cases hc with
  | held ht =>
    obtain ⟨hk, hp, hlt⟩ := h.held_before t ht
    exact .inr (.inl ⟨hk, ht, hp, hlt⟩)
  | eof hh hr =>
    have hl := h.position_le
    rw [h.rest_eq, List.drop_eq_nil_iff, String.length_toList] at hr
    have heq : l.position = source.length := by omega
    exact .inl ⟨by rw [heq], rfl⟩
  | token hh hr hf =>
    have hpos := hf.length_pos
    exact .inr (.inr ⟨hf.kind_ne_eof, hf.position_eq, by dsimp only at hpos ⊢; omega⟩)

/-- What is known of a reader that fails: it stays, or it is behind the quote that closes a literal. -/
theorem error (h : l.StandsIn source caseSensitive) {e : LexError} (hc : l.Call (.error e) l') :
    (e.cause ∈ LexError.staying ∧ l' = l) ∨
    (e.cause ∈ LexError.leaving ∧ l'.held = none ∧ source.toList[l.position]? = some '"' ∧
      ∃ i, StandsFirst (source.toList.drop (l.position + 1)) '"' i ∧ l'.position = l.position + i + 2) := by
  cases hc with
  | stays hh hr hs => exact .inl ⟨hs, rfl⟩
  | @leaves e behind n hh hr hn hl =>
    rw [h.rest_eq] at hr
    have hq : source.toList[l.position]? = some '"' := by
      rw [← List.head?_drop, hr]
      rfl
    have hb : source.toList.drop (l.position + 1) = behind := by
      rw [List.drop_add_one_eq_tail_drop, hr, List.tail_cons]
    exact .inr ⟨hl, rfl, hq, n, hb ▸ hn, rfl⟩

lemma position_mono (h : l.StandsIn source caseSensitive) : Monotone fun n => (l.asked n).position :=
  monotone_nat_of_le_succ fun n => ((h.asked n).call (l.call_answer n)).2

lemma token_of_answer (h : l.StandsIn source caseSensitive) {n : Nat} {t : Token} (ha : l.answer n = .ok t) :
    (t = .eof source.length ∧ l.asked (n + 1) = l.asked n) ∨
    (t.kind = .fieldPath ∧ (l.asked n).held = some t ∧ 0 ≤ t.position ∧ t.position < (l.asked (n + 1)).position) ∨
    (t.kind ≠ .eof ∧ t.position = (l.asked n).position ∧ (l.asked n).position < (l.asked (n + 1)).position) :=
  (h.asked n).token (ha ▸ l.call_answer n)

lemma zero_le_of_answer (h : l.StandsIn source caseSensitive) {n : Nat} {t : Token} (ha : l.answer n = .ok t) :
    0 ≤ t.position := by
  obtain ⟨rfl, -⟩ | ⟨-, -, hp, -⟩ | ⟨-, hp, -⟩ := h.token_of_answer ha
  · exact Int.natCast_nonneg _
  · exact hp
  · omega

/-- A token that was given before an error is a token before it. -/
lemma position_lt_of_lt (h : l.StandsIn source caseSensitive) {m n : Nat} (hmn : m < n) {t : Token} {e : LexError}
    (ha : l.answer m = .ok t) (he : l.answer n = .error e) : t.position < (l.asked n).position := by
  have hle : (l.asked (m + 1)).position ≤ (l.asked n).position := h.position_mono hmn
  obtain ⟨-, hl⟩ | ⟨-, -, -, hp⟩ | ⟨-, hp, hlt⟩ := h.token_of_answer ha
  · -- The end of the text would be given instead of the error.
    have hn := answer_forever hl (n - m)
    rw [Nat.add_sub_cancel' hmn.le, ha, he] at hn
    cases hn
  · omega
  · omega

/-- A reader that holds nothing back is a new one for the text ahead, moved to its place. -/
lemma eq_shifted (h : l.StandsIn source caseSensitive) (hh : l.held = none) :
    l = (ofSource (.ofList (source.toList.drop l.position)) caseSensitive).shifted l.position := by
  have hs := h.rest_eq
  have hc := h.case_eq
  obtain ⟨cs, rest, position, held⟩ := l
  dsimp only at hs hc hh
  simp [shifted, ofSource, hs, hc, hh]

/-- So it gives what a new one gives there. -/
lemma answer_behind (h : l.StandsIn source caseSensitive) {n : Nat} (hh : (l.asked n).held = none) (k : Nat) :
    l.answer (n + k) = shiftedAnswer (l.asked n).position
      ((ofSource (.ofList (source.toList.drop (l.asked n).position)) caseSensitive).answer k) := by
  rw [answer, asked_add, ← answer, ← answer_shifted, ← (h.asked n).eq_shifted hh]

lemma le_position_of_answer (h : l.StandsIn source caseSensitive) {n : Nat} (hh : (l.asked n).held = none) {k : Nat}
    {t : Token} (ha : l.answer (n + k) = .ok t) : (l.asked n).position ≤ t.position := by
  rw [h.answer_behind hh] at ha
  obtain ⟨t', ha', rfl⟩ := ok_of_shiftedAnswer ha
  have hnew := of_source (.ofList (source.toList.drop (l.asked n).position)) caseSensitive
  have hz : 0 ≤ t'.position := hnew.zero_le_of_answer ha'
  simp only [Token.shifted]
  omega

end StandsIn

/-- What a reader gives whatever it gave before, errors included. It never goes back and never leaves the text, and each
token but the end and a path held back takes it further. The end is given for ever, and so is an error at a word, a
character or an open literal, where the reader stays. A literal whose name is empty or whose path is none is left behind
with its closing quote; no token lies in it, before or after, and all that follows is what a new reader gives for the
text behind it. -/
theorem answers_of_reader (source : String) (caseSensitive : Bool) :
    let l := ofSource source caseSensitive
    (∀ m n, m ≤ n → (l.asked m).position ≤ (l.asked n).position) ∧ (∀ n, (l.asked n).position ≤ source.length) ∧
    ∀ n, let here := (l.asked n).position
      let there := (l.asked (n + 1)).position
      (∀ t, l.answer n = .ok t →
        t.kind = .eof ∨ (t.kind = .fieldPath ∧ (l.asked n).held = some t) ∨ here < there) ∧
      (∀ t, l.answer n = .ok t → t.kind = .eof → ∀ k, l.answer (n + k) = .ok t) ∧
      ∀ e, l.answer n = .error e →
        (e.cause ∈ LexError.staying ∧ there = here ∧ ∀ k, l.answer (n + k) = .error e) ∨
        (e.cause ∈ LexError.leaving ∧ source.toList[here]? = some '"' ∧
          (∃ i, StandsFirst (source.toList.drop (here + 1)) '"' i ∧ there = here + i + 2) ∧
          (∀ k t, l.answer k = .ok t → t.position < here ∨ there ≤ t.position) ∧
          ∀ k, l.answer (n + 1 + k) =
            shiftedAnswer there ((ofSource (.ofList (source.toList.drop there)) caseSensitive).answer k)) := by
  intro l
  have h : l.StandsIn source caseSensitive := .of_source source caseSensitive
  refine ⟨fun m n hmn => h.position_mono hmn, fun n => (h.asked n).position_le, fun n => ⟨?_, ?_, ?_⟩⟩
  · intro t ha
    obtain ⟨rfl, -⟩ | ⟨hk, hh, -⟩ | ⟨-, -, hlt⟩ := h.token_of_answer ha
    · exact .inl rfl
    · exact .inr (.inl ⟨hk, hh⟩)
    · exact .inr (.inr hlt)
  · intro t ha hk k
    obtain ⟨-, hl⟩ | ⟨hk', -⟩ | ⟨hk', -⟩ := h.token_of_answer ha
    · rw [answer_forever hl, ha]
    · rw [hk'] at hk
      cases hk
    · exact absurd hk hk'
  · intro e he
    obtain ⟨hs, hl⟩ | ⟨hl, hh, hq, i, hi, hp⟩ := (h.asked n).error (he ▸ l.call_answer n)
    · exact .inl ⟨hs, congrArg position hl, fun k => by rw [answer_forever hl, he]⟩
    · refine .inr ⟨hl, hq, ⟨i, hi, hp⟩, fun k t ha => ?_, h.answer_behind hh⟩
      obtain hk | rfl | hk := Nat.lt_trichotomy k n
      · exact .inl (h.position_lt_of_lt hk ha he)
      · rw [he] at ha
        cases ha
      · obtain ⟨k, rfl⟩ := Nat.exists_eq_add_of_le hk
        exact .inr (h.le_position_of_answer hh ha)

/-- A literal without a path behind its colon is left out, the next one is read with its path, and the word behind them
is an error for ever. -/
example : (List.range 5).map (ofSource "\"a:\"\"b:c\"x" false).answer =
    [.error ⟨.invalidPath, "\"a:\"", 0⟩, .ok ⟨.tag, "b", 4⟩, .ok ⟨.fieldPath, "c", 7⟩,
      .error ⟨.unexpectedWord, "x", 9⟩, .error ⟨.unexpectedWord, "x", 9⟩] := by
  decide +kernel

end Lexer
end TagRules
