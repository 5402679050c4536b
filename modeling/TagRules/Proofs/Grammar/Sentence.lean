import TagRules.Proofs.Grammar.Complete
import TagRules.Proofs.Grammar.Sound

/-!
The parser decides the grammar. A source is read as a tree exactly when its tokens derive that tree, so that
no source has two trees; any other source is refused with an error about the text.
-/
namespace TagRules
open Grammar

lemma isSignificant_eof (position : Int) : (Token.eof position).isSignificant = false := by
  simp [Token.isSignificant, Token.eof]

lemma sentence_iff {source : String} {caseSensitive : Bool} {e : Expr} :
    Sentence source caseSensitive e ↔ ∃ (us : List Token) (position : Int),
      (Feed.ofSource source caseSensitive).items = us.map .ok ∧
      (Feed.ofSource source caseSensitive).ending = .eof position ∧
      Derives .expression (us.filter Token.isSignificant) e := by
  constructor
  · rintro ⟨ts, ht, he⟩
    obtain ⟨us, position, hi, hp, rfl⟩ := tokenize_eq_ok.1 ht
    exact ⟨us, position, hi, hp, by simpa [List.filter_append, isSignificant_eof] using he⟩
  · rintro ⟨us, position, hi, hp, he⟩
    exact ⟨_, tokenize_eq_ok.2 ⟨us, position, hi, hp, rfl⟩, by simpa [List.filter_append, isSignificant_eof] using he⟩

/-- A sentence is read as its tree, and its references are what the parser remembers. -/
theorem Grammar.Sentence.parse {source : String} {caseSensitive : Bool} {e : Expr}
    (h : Sentence source caseSensitive e) : ∃ p, (Parser.ofSource source caseSensitive).parse = (.ok e, p) ∧
      p.memory = Parser.Memory.collect ⟨0, [], []⟩ e ∧ p.feed.items = [] := by
  obtain ⟨us, position, hi, hp, he⟩ := sentence_iff.1 h
  have ht : ∀ t ∈ us, t.IsLexical := by
    intro t ht
    have hm : .ok t ∈ (Feed.ofSource source caseSensitive).items := by simpa [hi] using ht
    exact Feed.isLexical_of_mem hm
  have hr := Parser.run_of_derives ⟨0, [], []⟩ position (Int.le_refl 0) he ht
  refine ⟨⟨⟨[], .eof position⟩, Parser.Memory.collect ⟨0, [], []⟩ e⟩, ?_, rfl, rfl⟩
  simp [Parser.parse, Parser.ofSource, Parser.ofFeed, hi, hp, hr]

theorem sentence_or_report (source : String) (caseSensitive : Bool) :
    (∃ x, parse source caseSensitive = .error x ∧ x.IsReport) ∨
    ∃ e, parse source caseSensitive = .ok e ∧ Sentence source caseSensitive e := by
  obtain hx | ⟨e, us, position, hr, hi, hp, he⟩ := Parser.State.readFrom_init.run
    (Feed.ofSource source caseSensitive).ending fun t => Feed.isLexical_of_mem
  · exact .inl hx
  · exact .inr ⟨e, hr, sentence_iff.2 ⟨us, position, hi, hp, he⟩⟩

theorem parse_eq_ok_iff {source : String} {caseSensitive : Bool} {e : Expr} :
    parse source caseSensitive = .ok e ↔ Sentence source caseSensitive e := by
  constructor
  · intro h
    obtain ⟨x, hx, -⟩ | ⟨e', he', hs⟩ := sentence_or_report source caseSensitive
    · rw [h] at hx
      cases hx
    · rw [h] at he'
      cases he'
      exact hs
  · intro h
    obtain ⟨p, hp, -⟩ := h.parse
    rw [parse, hp]

/-- The parser accepts the sentences of the grammar and gives each its one tree; all other sources are refused with
an error about the text. -/
theorem parse_decides_grammar (source : String) (caseSensitive : Bool) :
    (∀ e, parse source caseSensitive = .ok e ↔ Sentence source caseSensitive e) ∧
    (∀ e e', Sentence source caseSensitive e → Sentence source caseSensitive e' → e = e') ∧
    ((¬ ∃ e, Sentence source caseSensitive e) → ∃ x, parse source caseSensitive = .error x ∧ x.IsReport) := by
  refine ⟨fun e => parse_eq_ok_iff, ?_, ?_⟩
  · intro e e' h h'
    have he := parse_eq_ok_iff.2 h
    rw [parse_eq_ok_iff.2 h'] at he
    cases he
    rfl
  · intro h
    obtain hx | ⟨e, -, he⟩ := sentence_or_report source caseSensitive
    · exact hx
    · exact absurd ⟨e, he⟩ h

end TagRules
