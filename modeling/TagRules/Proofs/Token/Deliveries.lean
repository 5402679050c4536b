import TagRules.Proofs.Token.Recovery

/-!
A feed against a reader of the same text. The feed has all at once what the reader gives call by call: its items are the
answers to the first calls, and its ending is what every later call gives.
-/
namespace TagRules
namespace Feed

/-- What is given for ever at an ending. -/
def Ending.answer : Ending → Except LexError Token
  | .eof position => .ok (.eof position)
  | .stuck e => .error e

/-- What a feed gives when it was asked some times before. -/
def answer (f : Feed) (n : Nat) : Except LexError Token := f.items.getD n f.ending.answer

/-- The tokens of a feed are what it gives first, and the error, if there is one, is what it gives next. -/
lemma answer_of_tokens (f : Feed) :
    (∀ i t, f.tokens.1[i]? = some t → f.answer i = .ok t) ∧
      ∀ e, f.tokens.2 = some e → f.answer f.tokens.1.length = .error e := by
  unfold tokens answer
  induction f.items with
  | nil =>
    unfold tokens.go
    cases f.ending with
    | eof position => simp [List.getElem?_singleton, Ending.answer]
    | stuck e => simp [Ending.answer]
  | cons r items ih =>
    cases r with
    | error e => simp [tokens.go]
    | ok u =>
      refine ⟨fun i t ht => ?_, fun e he => ih.2 e he⟩
      cases i with
      | zero => exact congrArg Except.ok (Option.some.inj ht)
      | succ i => exact ih.1 i t ht

lemma scan_of_moved {caseSensitive : Bool} {cs : List Char} {position : Nat} {s : Scan}
    (hs : Scan.head caseSensitive cs position = s) (hp : s.position ≠ position) :
    scan caseSensitive cs position =
      ⟨itemsOf s.result ++ (scan caseSensitive s.rest s.position).items,
        (scan caseSensitive s.rest s.position).ending⟩ := by
  subst hs
  rw [scan, if_pos hp]

lemma scan_of_stopped {caseSensitive : Bool} {cs : List Char} {position : Nat} {s : Scan}
    (hs : Scan.head caseSensitive cs position = s) (hp : s.position = position) :
    scan caseSensitive cs position = match s.result with
      | .ok _ => ⟨[], .eof position⟩
      | .error e => ⟨[], .stuck e⟩ := by
  subst hs
  rw [scan]
  cases (Scan.head caseSensitive cs position).result <;> exact if_neg (not_ne_iff.2 hp)

end Feed
namespace Lexer

/-- What is ahead of a reader, all at once. -/
def feed (l : Lexer) : Feed :=
  let more := Feed.scan l.caseSensitive l.rest l.position
  { more with items := (l.held.map Except.ok).toList ++ more.items }

lemma feed_ofSource (source : String) (caseSensitive : Bool) :
    (ofSource source caseSensitive).feed = Feed.ofSource source caseSensitive := rfl

/-- A reader that makes no way and holds nothing back is at the end of the text or at what it cannot read, and is left
as it was. -/
lemma next_of_stopped {l : Lexer} (hh : l.held = none) (hp : l.next.2.position = l.position) :
    l.next.2 = l ∧ ∀ t, l.next.1 = .ok t → t = .eof l.position := by
  have hc := l.call_next
  generalize l.next.1 = r, l.next.2 = l' at hp hc
  cases hc with
  | held ht =>
    rw [hh] at ht
    cases ht
  | eof => exact ⟨rfl, fun t ht => (Except.ok.inj ht).symm⟩
  | token _ _ hf =>
    have := hf.length_pos
    dsimp only at hp this
    omega
  | stays => exact ⟨rfl, fun t ht => nomatch ht⟩
  | leaves =>
    dsimp only at hp
    omega

/-- One call takes the first thing off what is ahead; at an ending there is always one more. -/
theorem feed_answer_step (l : Lexer) :
    l.feed.answer 0 = l.next.1 ∧ ∀ n, l.feed.answer (n + 1) = l.next.2.feed.answer n := by
  obtain ⟨caseSensitive, rest, position, held⟩ := l
  cases held with
  | some t => exact ⟨rfl, fun n => rfl⟩
  | none =>
    have hstop := @next_of_stopped ⟨caseSensitive, rest, position, none⟩ rfl
    have hfeed : feed ⟨caseSensitive, rest, position, none⟩ = Feed.scan caseSensitive rest position := rfl
    generalize hs : Scan.head caseSensitive rest position = s
    by_cases hp : s.position = position
    · rw [hfeed, Feed.scan_of_stopped hs hp]
      simp only [next, hs] at hstop ⊢
      cases hr : s.result with
      | error e =>
        simp only [hr] at hstop ⊢
        rw [(hstop hp).1, hfeed, Feed.scan_of_stopped hs hp, hr]
        exact ⟨rfl, fun n => rfl⟩
      | ok r =>
        obtain ⟨t, path⟩ := r
        simp only [hr] at hstop ⊢
        rw [(hstop hp).1, hfeed, Feed.scan_of_stopped hs hp, hr, (hstop hp).2 t rfl]
        exact ⟨rfl, fun n => rfl⟩
    · rw [hfeed, Feed.scan_of_moved hs hp]
      simp only [next, hs]
      cases s.result with
      | error e => exact ⟨rfl, fun n => rfl⟩
      | ok r => exact ⟨rfl, fun n => rfl⟩

/-- What a reader gives call by call is what is ahead of it. -/
theorem feed_answer (l : Lexer) (n : Nat) : l.feed.answer n = l.answer n := by
  induction n generalizing l with
  | zero => exact l.feed_answer_step.1
  | succ n ih =>
    rw [l.feed_answer_step.2, ih, answer, answer, Nat.add_comm, asked_add]
    rfl

/-- The tokens of a text are what a reader gives from the first call on; if it has none, its error is the first error that
a reader gives. -/
theorem answers_of_tokenize (source : String) (caseSensitive : Bool) :
    (∀ ts, tokenize source caseSensitive = .ok ts →
      ∀ i t, ts[i]? = some t → (ofSource source caseSensitive).answer i = .ok t) ∧
    ∀ e, tokenize source caseSensitive = .error e →
      ∃ n, (ofSource source caseSensitive).answer n = .error e ∧
        ∀ m < n, ∃ t, (ofSource source caseSensitive).answer m = .ok t := by
  simp only [← feed_answer, feed_ofSource, tokenize]
  obtain ⟨htokens, herror⟩ := (Feed.ofSource source caseSensitive).answer_of_tokens
  generalize (Feed.ofSource source caseSensitive).tokens = p at htokens herror ⊢
  obtain ⟨us, x⟩ := p
  cases x with
  | none =>
    refine ⟨fun ts h => ?_, fun e h => ?_⟩
    · cases h
      exact htokens
    · cases h
  | some x =>
    refine ⟨fun ts h => ?_, fun e h => ?_⟩
    · cases h
    · cases h
      exact ⟨us.length, herror x rfl, fun m hm => ⟨us[m], htokens m _ (List.getElem?_eq_getElem hm)⟩⟩

end Lexer
end TagRules
