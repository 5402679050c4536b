import TagRules.Proofs.Distinct
import TagRules.Proofs.Grammar.References
import TagRules.Proofs.Grammar.Sentence
import TagRules.Proofs.Grammar.Writable
import TagRules.Rule.Store
import Mathlib.Data.List.Induction

/-!
What a parser has collected. While it reads tokens it remembers the parts of each literal, a name at the end of the
names and each name once; of an expression it has then the names in the order in which the tree refers to them, and
whatever it is given to read no name is there twice.
-/
namespace TagRules
namespace Parser

lemma remember_eq_addNew : remember = addNew := rfl

namespace Memory

/-- No name is remembered twice. -/
structure IsDistinct (m : Memory) : Prop where
  tags : m.tags.Nodup
  fieldPaths : m.fieldPaths.Nodup

/-- Two memories hold the same names, at whatever depth. -/
def SameNames (m m' : Memory) : Prop := m.tags = m'.tags ∧ m.fieldPaths = m'.fieldPaths

lemma IsDistinct.congr {m m' : Memory} (h : m.IsDistinct) (hn : m'.SameNames m) : m'.IsDistinct :=
  ⟨hn.1 ▸ h.tags, hn.2 ▸ h.fieldPaths⟩

lemma IsDistinct.record {m : Memory} (h : m.IsDistinct) (l : PartialLiteral) : (m.record l).IsDistinct where
  tags := nodup_remember h.tags _
  fieldPaths := by
    unfold Memory.record
    dsimp only
    split
    · exact h.fieldPaths
    · exact nodup_remember h.fieldPaths _

end Memory

/-- What is remembered after a step. -/
def Step.memory : Step → Memory
  | .next s => s.memory
  | .stop x => x.memory

namespace State

variable (s : State)

lemma sameNames_proceed (r : Except ParseError Pending) : (s.proceed r).memory.SameNames s.memory := by
  cases r <;> exact ⟨rfl, rfl⟩

lemma sameNames_readPart (l : PartialLiteral) (t : Token) : (s.readPart l t).memory.SameNames s.memory := by
  unfold readPart
  split
  · split <;> exact ⟨rfl, rfl⟩
  · split
    · exact ⟨rfl, rfl⟩
    · split <;> exact ⟨rfl, rfl⟩

lemma sameNames_close (t : Token) : (s.close t).memory.SameNames s.memory := by
  unfold close
  split
  · exact ⟨rfl, rfl⟩
  · split
    · exact ⟨rfl, rfl⟩
    · split
      · exact ⟨rfl, rfl⟩
      · split
        · exact ⟨rfl, rfl⟩
        · exact sameNames_proceed _ _

lemma sameNames_stepReady (t : Token) : (s.stepReady t).memory.SameNames s.memory := by
  unfold stepReady
  cases t.kind with
  | lparen | not | whitespace | unknown => exact ⟨rfl, rfl⟩
  | tag | fieldPath => exact s.sameNames_readPart _ t
  | and | or => exact s.sameNames_proceed _
  | rparen => exact sameNames_close { s with memory.depth := s.memory.depth - 1 } t
  | eof => exact s.sameNames_close t

lemma sameNames_stepNegated (n t : Token) : (s.stepNegated n t).memory.SameNames s.memory := by
  unfold stepNegated
  split
  · exact s.sameNames_readPart _ t
  · exact s.sameNames_readPart _ t
  · exact ⟨rfl, rfl⟩
  · exact ⟨rfl, rfl⟩
  · split
    · exact ⟨rfl, rfl⟩
    · split <;> exact ⟨rfl, rfl⟩

/-- A token behind a part of a literal belongs to it, or all of the literal is remembered. -/
lemma names_stepLiteral (l : PartialLiteral) (t : Token) :
    (s.stepLiteral l t).memory.SameNames s.memory ∨ (s.stepLiteral l t).memory.SameNames (s.memory.record l) := by
  unfold stepLiteral
  split
  · exact .inl (s.sameNames_readPart l t)
  · exact .inl (s.sameNames_readPart l t)
  · exact .inl ⟨rfl, rfl⟩
  · refine .inr ?_
    dsimp only
    split
    · exact ⟨rfl, rfl⟩
    · exact sameNames_stepReady _ t

/-- No step remembers a name twice. -/
theorem isDistinct_step {s : State} (h : s.memory.IsDistinct) (t : Token) : (s.step t).memory.IsDistinct := by
  unfold step
  split
  · exact h.congr (s.sameNames_stepReady t)
  next n _ => exact h.congr (s.sameNames_stepNegated n t)
  next l _ =>
    obtain hn | hn := s.names_stepLiteral l t
    · exact h.congr hn
    · exact (h.record l).congr hn

end State

/-- So it is at the end of a run, however it ends. -/
theorem isDistinct_run (ending : Feed.Ending) {s : State} (h : s.memory.IsDistinct)
    (items : List (Except LexError Token)) : (run ending s items).memory.IsDistinct := by
  induction items generalizing s with
  | nil =>
    cases ending with
    | stuck x => exact h
    | eof position =>
      have hstep := State.isDistinct_step h (.eof position)
      rw [run]
      split
      next x hx =>
        rw [hx] at hstep
        exact hstep
      next s' hs' =>
        rw [hs'] at hstep
        exact hstep
  | cons item items ih =>
    cases item with
    | error x => exact h
    | ok t =>
      have hstep := State.isDistinct_step h t
      rw [run]
      split
      next s' hs' =>
        rw [hs'] at hstep
        exact ih hstep
      next x hx =>
        rw [hx] at hstep
        exact hstep

lemma isDistinct_asked {p : Parser} (h : p.memory.IsDistinct) (n : Nat) : (p.asked n).memory.IsDistinct := by
  induction n with
  | zero => exact h
  | succ n ih => exact isDistinct_run _ ih _

end Parser

/-- What is collected of a sentence are its names and its scopes, in the order in which they come first. -/
lemma Grammar.Sentence.collected {source : String} {caseSensitive : Bool} {e : Expr}
    (h : Sentence source caseSensitive e) : ∃ p, (Parser.ofSource source caseSensitive).parse = (.ok e, p) ∧
      p.memory.tags = e.names.eraseDups ∧ p.memory.fieldPaths = e.scopes.eraseDups := by
  obtain ⟨p, hp, hm, -⟩ := h.parse
  refine ⟨p, hp, ?_, ?_⟩
  · rw [hm, Parser.Memory.tags_collect, Parser.remember_eq_addNew, foldl_addNew_nil]
  · rw [hm, Parser.Memory.fieldPaths_collect, Parser.remember_eq_addNew, foldl_addNew_nil]

/-- What a parser has collected of a source that can be parsed are the tags that the expression refers to and the scopes
that are not empty, in the order of its references and each where it comes first; the compiled expression has the same.
And whatever a parser reads, however often it is asked and whether it fails or not, no name is collected twice. -/
theorem collected_names (source : String) (caseSensitive : Bool) :
    (∀ e, parse source caseSensitive = .ok e →
      let m := (Parser.ofSource source caseSensitive).parse.2.memory
      m.tags = (e.references.map (·.name)).eraseDups ∧
      m.fieldPaths = ((e.references.map (·.scope)).filter (!·.isEmpty)).eraseDups ∧
      ∃ c, Compiled.ofSource caseSensitive source = .ok c ∧ c.expr = e ∧ c.tags = m.tags ∧
        c.fieldPaths = m.fieldPaths) ∧
    ∀ (feed : Feed) (n : Nat), ((Parser.ofFeed feed).asked n).memory.IsDistinct := by
  constructor
  · intro e he
    obtain ⟨p, hp, ht, hf⟩ := (parse_eq_ok_iff.1 he).collected
    dsimp only
    rw [Compiled.ofSource, hp]
    exact ⟨ht, hf, _, rfl, rfl, rfl, rfl⟩
  · exact fun feed => Parser.isDistinct_asked ⟨List.nodup_nil, List.nodup_nil⟩

theorem collected_names_repeated :
    let source := "not (\"b:y\" or \"a\") and (\"b:x\" or \"a:y\")"
    let e : Expr := .binary .and (.not (.binary .or (.unit ⟨"b", "y"⟩) (.unit ⟨"a", ""⟩)))
      (.binary .or (.unit ⟨"b", "x"⟩) (.unit ⟨"a", "y"⟩))
    parse source true = .ok e ∧
    (Parser.ofSource source true).parse.2.memory.tags = ["b", "a"] ∧
    (Parser.ofSource source true).parse.2.memory.fieldPaths = ["y", "x"] := by
  intro source e
  have he : parse source true = .ok e := by decide +kernel
  obtain ⟨ht, hf, -⟩ := (collected_names source true).1 e he
  refine ⟨he, ht.trans ?_, hf.trans ?_⟩
  · simp [e]
    rfl
  · simp [e]
    rfl

end TagRules
