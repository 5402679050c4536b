import TagRules.Token.Lexer
import Mathlib.Tactic.Lemma

/-!
The tokens that a text can give. `Scan.IsHead` lists what may stand at the head of a text; a feed made of
such scans holds tokens of the language only, with nothing empty in a literal, and its end marks the
end of the text.
-/
namespace TagRules

/-- Tokens as they are read from a text: of a kind of the language, before its end, and nothing in a literal
is empty, nor is anything between the dots of a path. -/
structure Token.IsLexical (t : Token) : Prop where
  known : t.kind ≠ .unknown
  inside : t.kind ≠ .eof
  named : t.kind = .tag ∨ t.kind = .fieldPath → t.value ≠ ""
  placed : t.kind = .fieldPath → [] ∉ t.value.toList.splitOn '.'

/-- The kinds that are read as one run of characters. -/
def Token.Kind.isSimple (k : Token.Kind) : Bool :=
  k ≠ .tag && k ≠ .fieldPath && k ≠ .unknown && k ≠ .eof

namespace Scan

/-- The scans that a text can begin with. -/
inductive IsHead : List Char → Nat → Scan → Prop
  | eof {position} : IsHead [] position ⟨.ok (.eof position, none), [], position⟩
  | single {kind taken rest position} : kind.isSimple = true → taken ≠ [] →
      IsHead (taken ++ rest) position (single kind taken rest position)
  | literal {ps rest position} : IsHead ('"' :: (Literal.source ps ++ '"' :: rest)) position (literal ps rest position)
  | stuck {cause fragment cs position} : IsHead cs position (stuck cause fragment cs position)

lemma isSimple_of_keyword? {caseSensitive : Bool} {word : List Char} {kind : Token.Kind}
    (h : keyword? caseSensitive word = some kind) : kind.isSimple = true := by
  unfold keyword? at h
  grind [Token.Kind.isSimple]

/-- A run of characters that begins with one of them is a token by itself. -/
lemma isHead_run {p : Char → Bool} {c : Char} (rest : List Char) (position : Nat) {kind : Token.Kind}
    (hc : p c = true) (hk : kind.isSimple = true) :
    IsHead (c :: rest) position
      (single kind ((c :: rest).takeWhile p) ((c :: rest).dropWhile p) position) := by
  have ht : (c :: rest).takeWhile p ≠ [] := by simp [hc]
  have h := @IsHead.single _ _ ((c :: rest).dropWhile p) position hk ht
  rwa [List.takeWhile_append_dropWhile] at h

theorem isHead_head (caseSensitive : Bool) (cs : List Char) (position : Nat) :
    IsHead cs position (head caseSensitive cs position) := by
  cases cs with
  | nil => exact .eof
  | cons c rest =>
    simp only [head]
    split
    next hb => exact isHead_run rest position hb rfl
    split
    next => exact @IsHead.single _ [c] _ _ rfl (by simp)
    split
    next => exact @IsHead.single _ [c] _ _ rfl (by simp)
    split
    next hq =>
      subst hq
      split
      · exact .stuck
      next ps after hl =>
        rw [← Literal.source_of_body? hl]
        exact .literal
    split
    next hw =>
      split
      next kind hk => exact isHead_run rest position (isWordPart_of_isWordStart hw) (isSimple_of_keyword? hk)
      · exact .stuck
    · exact .stuck

/-- A literal that can be read has a name and, if it has a path, one that is not empty. -/
lemma literal_ok {ps : List Literal.Piece} {rest : List Char} {position : Nat} {t : Token} {held : Option Token}
    (h : (literal ps rest position).result = .ok (t, held)) : ∀ u ∈ t :: held.toList, u.IsLexical := by
  simp only [literal] at h
  split at h
  · cases h
  next hn =>
    have hname : String.ofList (Literal.decode (Literal.namePieces ps)) ≠ "" := by
      simpa [← String.toList_inj] using hn
    split at h
    · cases h
      simpa using ⟨by simp, by simp, fun _ => hname, by simp⟩
    next path _ =>
      split at h
      next hv =>
        cases h
        have hpath : String.ofList (Literal.decode path) ≠ "" := by
          intro he
          have hd : Literal.decode path = [] := by simpa [← String.toList_inj] using he
          simp [hd, Literal.validPath] at hv
        simp only [Option.toList_some, List.mem_cons, List.not_mem_nil, or_false, forall_eq_or_imp, forall_eq]
        refine ⟨⟨by simp, by simp, fun _ => hname, by simp⟩, ⟨by simp, by simp, fun _ => hpath, fun _ => ?_⟩⟩
        simpa [Literal.validPath] using hv
      · cases h

/-- A scan that goes on gives tokens of the language. -/
lemma IsHead.isLexical {cs : List Char} {position : Nat} {s : Scan} (hs : IsHead cs position s)
    (hp : s.position ≠ position) {t : Token} (ht : .ok t ∈ Feed.itemsOf s.result) : t.IsLexical := by
  cases hs with
  | eof => exact absurd rfl hp
  | stuck => exact absurd rfl hp
  | @single kind taken rest position hk _ =>
    simp only [Scan.single, Feed.itemsOf, Option.map_none, Option.toList_none, List.mem_singleton,
      Except.ok.injEq] at ht
    subst ht
    simp only [Token.Kind.isSimple, Bool.and_eq_true, decide_eq_true_eq] at hk
    exact ⟨hk.1.2, hk.2, fun h => h.elim (absurd · hk.1.1.1) (absurd · hk.1.1.2), fun h => absurd h hk.1.1.2⟩
  | @literal ps rest position =>
    cases hr : (Scan.literal ps rest position).result with
    | error e => simp [hr, Feed.itemsOf] at ht
    | ok r =>
      apply literal_ok hr
      simpa [hr, Feed.itemsOf, eq_comm] using ht

end Scan
namespace Feed

/-- All tokens of a feed are tokens of the language, before the end of the text. -/
theorem isLexical_of_mem {caseSensitive : Bool} {cs : List Char} {position : Nat} {t : Token}
    (h : .ok t ∈ (scan caseSensitive cs position).items) : t.IsLexical := by
  induction cs, position using scan.induct caseSensitive with
  | case1 cs position s hs ih =>
    rw [scan, if_pos hs] at h
    simp only [List.mem_append] at h
    exact h.elim ((Scan.isHead_head caseSensitive cs position).isLexical hs) ih
  | case2 cs position s hs r hr | case3 cs position s hs e hr =>
    rw [scan, if_neg hs] at h
    simp only [s] at hr
    simp [hr] at h

lemma tokens_go_eq {f : Feed} {items : List (Except LexError Token)} {ts : List Token} :
    tokens.go f items = (ts, none) ↔
      ∃ us position, items = us.map .ok ∧ f.ending = .eof position ∧ ts = us ++ [.eof position] := by
  induction items generalizing ts with
  | nil => cases h : f.ending <;> simp [tokens.go, h, eq_comm]
  | cons item items ih =>
    cases item with
    | error e =>
      simp only [tokens.go, Prod.mk.injEq, reduceCtorEq, and_false, false_iff]
      rintro ⟨us, position, h, -⟩
      cases us <;> cases h
    | ok t =>
      simp only [tokens.go, Prod.mk.injEq]
      constructor
      · rintro ⟨rfl, h⟩
        obtain ⟨us, position, hi, he, hg⟩ := ih.1 (Prod.ext rfl h)
        exact ⟨t :: us, position, by simp [hi], he, by simp [hg]⟩
      · rintro ⟨us, position, hi, he, rfl⟩
        cases us with
        | nil => cases hi
        | cons u us =>
          simp only [List.map_cons, List.cons.injEq, Except.ok.injEq] at hi
          obtain ⟨rfl, hi⟩ := hi
          have hg := ih.2 ⟨us, position, hi, he, rfl⟩
          simp [hg]

end Feed

/-- A text can be read as tokens when its feed has no error and comes to the end of the text. -/
theorem tokenize_eq_ok {source : String} {caseSensitive : Bool} {ts : List Token} :
    tokenize source caseSensitive = .ok ts ↔ ∃ us position, (Feed.ofSource source caseSensitive).items = us.map .ok ∧
      (Feed.ofSource source caseSensitive).ending = .eof position ∧ ts = us ++ [.eof position] := by
  rw [← Feed.tokens_go_eq, tokenize, Feed.tokens]
  cases h : Feed.tokens.go (Feed.ofSource source caseSensitive) (Feed.ofSource source caseSensitive).items with
  | mk us e => cases e <;> simp

end TagRules
