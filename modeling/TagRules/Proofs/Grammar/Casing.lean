import TagRules.Proofs.Grammar.Sentence
import TagRules.Proofs.Token.Casing

/-!
Parsing with words in another case. The parser tells words by their kinds and keeps no more of them than where they
stand, so it takes the same steps whatever the case of the words is: it gives the same tree, or fails at the same place.
-/
namespace TagRules

/-- The kind and the position of the token at which a parse fails. -/
def ParseError.place (e : ParseError) : Token.Kind × Int := (e.token.kind, e.token.position)

namespace Token

variable (f : Char → Char) (t : Token)

@[simp] lemma kind_recased : (t.recased f).kind = t.kind := by
  unfold recased
  split <;> rfl

@[simp] lemma position_recased : (t.recased f).position = t.position := by
  unfold recased
  split <;> rfl

lemma isEmpty_value_recased : (t.recased f).value.isEmpty = t.value.isEmpty := by
  unfold recased
  split
  · rw [Bool.eq_iff_iff, String.isEmpty_iff, String.isEmpty_iff, ← String.toList_eq_nil_iff, ← String.toList_eq_nil_iff,
      String.toList_ofList, List.map_eq_nil_iff]
  · rfl

@[simp] lemma place_recased (cause cause' : ParseError.Cause) :
    ParseError.place ⟨cause', t.recased f⟩ = ParseError.place ⟨cause, t⟩ := by simp [ParseError.place]

lemma recased_of_not_isWord {t : Token} (h : t.kind.isWord = false) : t.recased f = t := if_neg (by simp [h])

end Token
namespace Parser

variable (f : Char → Char)

/-- The same frame with its words rewritten. -/
def Frame.recased (w : Frame) : Frame :=
  { w with lparen := w.lparen.recased f, negation := w.negation.map (Token.recased f) }

def PartialLiteral.recased (l : PartialLiteral) : PartialLiteral := { l with anchor := l.anchor.recased f }

def Mode.recased : Mode → Mode
  | .ready => .ready
  | .negated token => .negated (token.recased f)
  | .literal l => .literal (l.recased f)

/-- The same state with the words that it keeps rewritten. -/
def State.recased (s : State) : State :=
  { s with frames := s.frames.map (Frame.recased f), mode := s.mode.recased f }

/-- The same result, or errors at the same place. -/
inductive AgreeUpToPlace {α : Type} : Except ParseError α → Except ParseError α → Prop
  | ok (a : α) : AgreeUpToPlace (.ok a) (.ok a)
  | error {x y : ParseError} : y.place = x.place → AgreeUpToPlace (.error x) (.error y)

/-- Two steps that go on with the same state but for the case of words, or that end the parse alike. -/
inductive Step.Recases : Step → Step → Prop
  | next (s : State) : Recases (.next s) (.next (s.recased f))
  | stop {x y : Stop} : y.memory = x.memory → AgreeUpToPlace x.result y.result → Recases (.stop x) (.stop y)

namespace Pending

variable {f} (p : Pending)

lemma attach_recased (e : Expr) (t : Token) : AgreeUpToPlace (p.attach e t) (p.attach e (t.recased f)) := by
  unfold attach
  split
  · exact .ok _
  · exact .ok _
  · exact .error (t.place_recased f _ _)

lemma connect_recased (op : Connective) (t : Token) :
    AgreeUpToPlace (p.connect op t) (p.connect op (t.recased f)) := by
  unfold connect
  split
  · exact .error (t.place_recased f _ _)
  · exact .ok _
  · exact .error (t.place_recased f _ _)
  · exact .ok _

lemma finalize_recased (t : Token) : AgreeUpToPlace (p.finalize t) (p.finalize (t.recased f)) := by
  unfold finalize
  split
  · exact .error (t.place_recased f _ _)
  · exact .ok _
  · exact .error (t.place_recased f _ _)
  · exact .ok _

end Pending
namespace State

variable {f} (s : State)

lemma recases_fail (cause cause' : ParseError.Cause) (t : Token) :
    Step.Recases f (s.fail cause t) ((s.recased f).fail cause' (t.recased f)) :=
  .stop rfl (.error (t.place_recased f _ _))

lemma recases_proceed {r r' : Except ParseError Pending} (h : AgreeUpToPlace r r') :
    Step.Recases f (s.proceed r) ((s.recased f).proceed r') := by
  cases h with
  | ok p => exact .next _
  | error h => exact .stop rfl (.error h)

lemma recases_openGroup (t : Token) (negation : Option Token) :
    Step.Recases f (s.openGroup t negation)
      ((s.recased f).openGroup (t.recased f) (negation.map (Token.recased f))) := .next _

lemma recases_readPart (l : PartialLiteral) {t : Token} (ht : t.kind.isWord = false) :
    Step.Recases f (s.readPart l t) ((s.recased f).readPart (l.recased f) (t.recased f)) := by
  have hname : (l.recased f).name = l.name := rfl
  have hscope : (l.recased f).scope = l.scope := rfl
  rw [Token.recased_of_not_isWord f ht]
  unfold readPart
  rw [hname, hscope]
  split
  · split
    · exact .next _
    · exact .stop rfl (.error rfl)
  · split
    · exact .stop rfl (.error rfl)
    · split
      · exact .stop rfl (.error rfl)
      · exact .next _

lemma recases_startLiteral (anchor : Token) (negated : Bool) {t : Token} (ht : t.kind.isWord = false) :
    Step.Recases f (s.startLiteral anchor negated t)
      ((s.recased f).startLiteral (anchor.recased f) negated (t.recased f)) :=
  s.recases_readPart ⟨anchor, negated, "", ""⟩ ht

lemma recases_close (t : Token) : Step.Recases f (s.close t) ((s.recased f).close (t.recased f)) := by
  have hmemory : (s.recased f).memory = s.memory := rfl
  have hpending : (s.recased f).pending = s.pending := rfl
  have hframes : (s.recased f).frames = s.frames.map (Frame.recased f) := rfl
  have hfin := s.pending.finalize_recased (f := f) t
  unfold close
  rw [hmemory, hpending, hframes, Token.kind_recased]
  split
  · exact s.recases_fail _ _ t
  · generalize s.pending.finalize t = r, s.pending.finalize (t.recased f) = r' at hfin ⊢
    cases hfin with
    | error h => exact .stop rfl (.error h)
    | ok e =>
      cases s.frames with
      | nil => exact .stop rfl (.ok e)
      | cons w frames =>
        have hanchor : (w.recased f).negation.getD (w.recased f).lparen = (w.negation.getD w.lparen).recased f :=
          Option.getD_map ..
        have hnegated : (w.recased f).negation.isSome = w.negation.isSome := Option.isSome_map
        rw [List.map_cons]
        dsimp only
        rw [hanchor, hnegated]
        split
        · exact s.recases_fail _ _ w.lparen
        · exact recases_proceed { s with frames := frames } (w.pending.attach_recased _ _)

lemma recases_stepReady (t : Token) : Step.Recases f (s.stepReady t) ((s.recased f).stepReady (t.recased f)) := by
  unfold stepReady
  rw [Token.kind_recased]
  cases hk : t.kind
  case lparen => exact s.recases_openGroup t none
  case tag | fieldPath => exact s.recases_startLiteral t false (by simp [hk, Token.Kind.isWord])
  case and | or => exact s.recases_proceed (s.pending.connect_recased _ t)
  case not | whitespace => exact .next _
  case rparen => exact recases_close { s with memory.depth := s.memory.depth - 1 } t
  case eof => exact s.recases_close t
  case unknown => exact s.recases_fail _ _ t

lemma recases_stepNegated (n t : Token) :
    Step.Recases f (s.stepNegated n t) ((s.recased f).stepNegated (n.recased f) (t.recased f)) := by
  unfold stepNegated
  rw [Token.kind_recased]
  split
  next hk => exact s.recases_startLiteral n true (by simp [hk, Token.Kind.isWord])
  next hk => exact s.recases_startLiteral n true (by simp [hk, Token.Kind.isWord])
  next => exact s.recases_openGroup t (some n)
  next => exact .next _
  next =>
    -- The message may quote the word or name its kind; the place is the same.
    rw [Token.isEmpty_value_recased]
    split
    · exact s.recases_fail _ _ t
    · split <;> exact s.recases_fail _ _ t

lemma recases_stepLiteral (l : PartialLiteral) (t : Token) :
    Step.Recases f (s.stepLiteral l t) ((s.recased f).stepLiteral (l.recased f) (t.recased f)) := by
  have hrecord : (s.recased f).memory.record (l.recased f) = s.memory.record l := rfl
  have hattach : AgreeUpToPlace (s.pending.attach (negate l.negated (.unit ⟨l.name, l.scope⟩)) l.anchor)
      ((s.recased f).pending.attach (negate (l.recased f).negated (.unit ⟨(l.recased f).name, (l.recased f).scope⟩))
        (l.recased f).anchor) := s.pending.attach_recased _ _
  unfold stepLiteral
  rw [Token.kind_recased, hrecord]
  split
  next hk => exact s.recases_readPart l (by simp [hk, Token.Kind.isWord])
  next hk => exact s.recases_readPart l (by simp [hk, Token.Kind.isWord])
  next => exact .next _
  next =>
    dsimp only
    generalize s.pending.attach _ l.anchor = r, (s.recased f).pending.attach _ _ = r' at hattach ⊢
    cases hattach with
    | error h => exact .stop rfl (.error h)
    | ok p => exact recases_stepReady { s with memory := s.memory.record l, pending := p, mode := .ready } t

/-- A step is the same whatever the case of words, those that the parser keeps included. -/
theorem recases_step (t : Token) : Step.Recases f (s.step t) ((s.recased f).step (t.recased f)) := by
  have hmode : (s.recased f).mode = s.mode.recased f := rfl
  unfold step
  rw [hmode]
  cases s.mode with
  | ready => exact s.recases_stepReady t
  | negated n => exact s.recases_stepNegated n t
  | literal l => exact s.recases_stepLiteral l t

/-- So is a whole run. -/
theorem recases_run (position : Int) (us : List Token) :
    let r := run (.eof position) s (us.map .ok)
    let r' := run (.eof position) (s.recased f) ((us.map (Token.recased f)).map .ok)
    r'.memory = r.memory ∧
      ∃ x y, r.result = x.mapError .parse ∧ r'.result = y.mapError .parse ∧ AgreeUpToPlace x y := by
  induction us generalizing s with
  | nil =>
    have hstep := s.recases_step (f := f) (.eof position)
    rw [Token.recased_of_not_isWord f (t := .eof position) rfl] at hstep
    simp only [List.map_nil, run]
    generalize s.step (.eof position) = r, (s.recased f).step (.eof position) = r' at hstep ⊢
    cases hstep with
    | next s => exact ⟨rfl, .error ⟨.emptyExpression, .eof position⟩, _, rfl, rfl, .error rfl⟩
    | stop hm hr => exact ⟨hm, _, _, rfl, rfl, hr⟩
  | cons t us ih =>
    have hstep := s.recases_step (f := f) t
    simp only [List.map_cons, run]
    generalize s.step t = r, (s.recased f).step (t.recased f) = r' at hstep ⊢
    cases hstep with
    | next s => exact ih s
    | stop hm hr => exact ⟨hm, _, _, rfl, rfl, hr⟩

end State
end Parser

/-- Two outcomes with the same tree, or with errors about the text at tokens of the same kind and position. -/
inductive SameOutcome : Except SyntaxError Expr → Except SyntaxError Expr → Prop
  | tree (e : Expr) : SameOutcome (.ok e) (.ok e)
  | error {x y : ParseError} : SyntaxError.IsReport (.parse x) → SyntaxError.IsReport (.parse y) →
      y.token.kind = x.token.kind → y.token.position = x.token.position →
      SameOutcome (.error (.parse x)) (.error (.parse y))

/-- An error that a source is refused with is one about the text. -/
lemma isReport_of_parse {source : String} {caseSensitive : Bool} {x : SyntaxError}
    (h : parse source caseSensitive = .error x) : x.IsReport := by
  obtain ⟨x', hx, hr⟩ | ⟨e, he, -⟩ := sentence_or_report source caseSensitive
  · rw [h] at hx
    cases hx
    exact hr
  · rw [h] at he
    cases he

/-- Sources that are read as the same tokens but for the case of words have the same outcome. -/
theorem sameOutcome_of_feed {f : Char → Char} {source source' : String} {caseSensitive caseSensitive' : Bool}
    {us : List Token} {position : Int} (h : Feed.ofSource source caseSensitive = ⟨us.map .ok, .eof position⟩)
    (h' : Feed.ofSource source' caseSensitive' = ⟨(us.map (Token.recased f)).map .ok, .eof position⟩) :
    SameOutcome (parse source caseSensitive) (parse source' caseSensitive') := by
  obtain ⟨-, r, r', hr, hr', hagree⟩ := Parser.State.recases_run (f := f) ⟨⟨0, [], []⟩, .empty, [], .ready⟩ position us
  have hp : parse source caseSensitive = r.mapError .parse := by
    rw [← hr, parse, Parser.ofSource, h]
    rfl
  have hp' : parse source' caseSensitive' = r'.mapError .parse := by
    rw [← hr', parse, Parser.ofSource, h']
    rfl
  cases hagree with
  | ok e =>
    rw [hp, hp']
    exact .tree e
  | error hplace =>
    have hx := isReport_of_parse hp
    have hy := isReport_of_parse hp'
    rw [hp, hp']
    obtain ⟨hkind, hposition⟩ := Prod.mk.inj hplace
    exact .error hx hy hkind hposition

end TagRules
