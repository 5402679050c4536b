import TagRules.Expr.Parser
import TagRules.Proofs.Grammar.Basic
import TagRules.Proofs.Token.Lexical

/-!
The account that the parser's machine keeps of the tokens it has read. In every state they divide into
those before each open parenthesis, those of the node being built, and those of an operand that is not
complete yet; what is built so far is derived from its own part. Each step keeps the account.
-/
namespace TagRules

namespace Parser
open Grammar

/-- The tokens that a node being built was read from. -/
inductive Pending.ReadFrom : Pending → List Token → Prop
  | empty : ReadFrom .empty []
  | single {e ts} : Derives .expression ts e → ReadFrom ⟨none, some e, none⟩ ts
  | dangling {e ts o} (op : Connective) : Derives .expression ts e → o.kind = op.tokenKind →
      ReadFrom ⟨some op, some e, none⟩ (ts ++ [o])
  | pair {op a b ts} : Derives .expression ts (.binary op a b) → ReadFrom ⟨some op, some a, some b⟩ ts

/-- The tokens up to the innermost open parenthesis. -/
inductive Opened : List Frame → List Token → Prop
  | nil : Opened [] []
  | group {fs ts us l} {p : Pending} : Opened fs ts → p.ReadFrom us → l.kind = .lparen →
      Opened (⟨p, l, none⟩ :: fs) (ts ++ us ++ [l])
  | notGroup {fs ts us n l} {p : Pending} : Opened fs ts → p.ReadFrom us → n.kind = .not → l.kind = .lparen →
      Opened (⟨p, l, some n⟩ :: fs) (ts ++ us ++ [n, l])

/-- The tokens of a literal under way. -/
inductive PartialLiteral.ReadFrom : PartialLiteral → List Token → Prop
  | tag {anchor negated t} : t.kind = .tag → t.value ≠ "" → ReadFrom ⟨anchor, negated, t.value, ""⟩ [t]
  | path {anchor negated t p} : t.kind = .tag → t.value ≠ "" → p.kind = .fieldPath → p.value ≠ "" →
      ReadFrom ⟨anchor, negated, t.value, p.value⟩ [t, p]

/-- The tokens of an operand that is not complete yet. -/
inductive Mode.ReadFrom : Mode → List Token → Prop
  | ready : ReadFrom .ready []
  | negated {n} : n.kind = .not → ReadFrom (.negated n) [n]
  | literal {l ts} : l.negated = false → l.ReadFrom ts → ReadFrom (.literal l) ts
  | negatedLiteral {l ts n} : l.negated = true → n.kind = .not → l.ReadFrom ts → ReadFrom (.literal l) (n :: ts)

/-- The tokens that a state was reached by. The depth counts the open parentheses. -/
structure State.ReadFrom (s : State) (ts : List Token) : Prop where
  depth_eq : s.memory.depth = s.frames.length
  split : ∃ before current last, ts = before ++ current ++ last ∧
    Opened s.frames before ∧ s.pending.ReadFrom current ∧ s.mode.ReadFrom last

namespace Pending

lemma ReadFrom.attach {p p' : Pending} {ts us : List Token} {e : Expr} {token : Token} (hp : p.ReadFrom ts)
    (he : Derives .operand us e) (h : p.attach e token = .ok p') : p'.ReadFrom (ts ++ us) := by
  cases hp with
  | empty =>
    cases h
    exact .single (.operand he)
  | single => simp [Pending.attach] at h
  | dangling op ha ho =>
    cases h
    simpa using ReadFrom.pair (.chain op ha ho he)
  | pair => simp [Pending.attach] at h

lemma ReadFrom.connect {p p' : Pending} {ts : List Token} {op : Connective} {token : Token} (hp : p.ReadFrom ts)
    (h : p.connect op token = .ok p') (ht : token.kind = op.tokenKind) : p'.ReadFrom (ts ++ [token]) := by
  cases hp with
  | empty => simp [Pending.connect, Pending.empty] at h
  | single he =>
    cases h
    exact .dangling op he ht
  | dangling => simp [Pending.connect] at h
  | pair he =>
    cases h
    exact .dangling op he ht

lemma ReadFrom.finalize {p : Pending} {ts : List Token} {e : Expr} {token : Token} (hp : p.ReadFrom ts)
    (h : p.finalize token = .ok e) : Derives .expression ts e := by
  cases hp with
  | empty => simp [Pending.finalize, Pending.empty] at h
  | single he =>
    cases h
    exact he
  | dangling => simp [Pending.finalize] at h
  | pair he =>
    cases h
    exact he

end Pending
namespace PartialLiteral

lemma ReadFrom.derives {l : PartialLiteral} {ts : List Token} (h : l.ReadFrom ts) :
    Derives .literal ts (.unit ⟨l.name, l.scope⟩) := by
  cases h with
  | tag ht => exact .anywhere ht
  | path ht _ hp => exact .under ht hp

end PartialLiteral
namespace State

lemma startLiteral_next {s s' : State} {anchor t : Token} {negated : Bool} (ht : t.IsLexical)
    (hk : t.kind = .tag ∨ t.kind = .fieldPath) (h : s.startLiteral anchor negated t = .next s') :
    ∃ l : PartialLiteral, s' = { s with mode := .literal l } ∧ l.negated = negated ∧ l.ReadFrom [t] := by
  rcases hk with hk | hk
  · simp [startLiteral, readPart, hk] at h
    exact ⟨_, h.symm, rfl, .tag hk (ht.named (.inl hk))⟩
  · simp [startLiteral, readPart, hk, fail] at h

lemma readPart_next {s s' : State} {l : PartialLiteral} {ts : List Token} {t : Token} (hl : l.ReadFrom ts)
    (ht : t.IsLexical) (hk : t.kind = .tag ∨ t.kind = .fieldPath) (h : s.readPart l t = .next s') :
    ∃ l' : PartialLiteral, s' = { s with mode := .literal l' } ∧ l'.negated = l.negated ∧
      l'.ReadFrom (ts ++ [t]) := by
  rcases hk with hk | hk
  · cases hl <;> simp_all [readPart, fail]
  · cases hl with
    | tag ha hn =>
      simp [readPart, hk, hn] at h
      exact ⟨_, h.symm, rfl, .path ha hn hk (ht.named (.inr hk))⟩
    | path _ _ _ hp => simp [readPart, hk, hp, fail] at h

lemma readFrom_init : (State.mk ⟨0, [], []⟩ .empty [] .ready).ReadFrom [] :=
  ⟨rfl, [], [], [], rfl, .nil, .empty, .ready⟩

/-- A literal taken as complete becomes an operand of the node. -/
lemma ReadFrom.literal {s : State} {ts : List Token} {l : PartialLiteral} {p : Pending} (hs : s.ReadFrom ts)
    (hm : s.mode = .literal l)
    (h : s.pending.attach (negate l.negated (.unit ⟨l.name, l.scope⟩)) l.anchor = .ok p) :
    State.ReadFrom { s with memory := s.memory.record l, pending := p, mode := .ready } ts := by
  obtain ⟨hd, before, current, last, rfl, ho, hp, hl⟩ := hs
  rw [hm] at hl
  have hd' : Derives .operand last (negate l.negated (.unit ⟨l.name, l.scope⟩)) := by
    cases hl with
    | literal hn hl => rw [hn]; exact .literal hl.derives
    | negatedLiteral hn hk hl => rw [hn]; exact .notLiteral hk hl.derives
  exact ⟨hd, before, current ++ last, [], by simp, ho, hp.attach hd' h, .ready⟩

lemma ReadFrom.openGroup {s s' : State} {ts : List Token} {l : Token} {negation : Option Token}
    (hd : s.memory.depth = s.frames.length) (ho : Opened (⟨s.pending, l, negation⟩ :: s.frames) ts)
    (h : s.openGroup l negation = .next s') : s'.ReadFrom ts := by
  cases h
  exact ⟨by simp [hd], ts, [], [], by simp, ho, .empty, .ready⟩

lemma proceed_next {s s' : State} {r : Except ParseError Pending} (h : s.proceed r = .next s') :
    ∃ p, r = .ok p ∧ s' = { s with pending := p, mode := .ready } := by
  cases r with
  | error e => cases h
  | ok p => exact ⟨p, rfl, by cases h; rfl⟩

/-- A production ends with the step on only where a group is closed. -/
lemma close_next {s s' : State} {t : Token} (h : s.close t = .next s') :
    ∃ e f frames p, s.frames = f :: frames ∧ s.pending.finalize t = .ok e ∧
      f.pending.attach (negate f.negation.isSome e) (f.negation.getD f.lparen) = .ok p ∧
      s' = { s with frames := frames, pending := p, mode := .ready } := by
  unfold close at h
  split at h
  · cases h
  · split at h
    · cases h
    next e he =>
      split at h
      · cases h
      next f frames hf =>
        split at h
        · cases h
        · obtain ⟨p, hp, rfl⟩ := proceed_next h
          exact ⟨e, f, frames, p, hf, he, hp, rfl⟩

/-- A closing parenthesis turns the node into an operand of the node before the group. -/
lemma ReadFrom.closeGroup {s s' : State} {ts : List Token} {r : Token} (hs : s.ReadFrom ts) (hm : s.mode = .ready)
    (hr : r.kind = .rparen) (h : close { s with memory.depth := s.memory.depth - 1 } r = .next s') :
    s'.ReadFrom (ts ++ [r]) := by
  obtain ⟨e, f, frames, p, hf, he, hp, rfl⟩ := close_next h
  obtain ⟨hd, before, current, last, rfl, ho, hc, hl⟩ := hs
  simp only at hf he
  rw [hm] at hl
  rw [hf] at ho hd
  cases hl
  have hd' : s.memory.depth - 1 = frames.length := by simp [hd]
  have hg := hc.finalize he
  cases ho with
  | @group _ bs us l q ho hq hl =>
    refine ⟨hd', bs, us ++ (l :: (current ++ [r])), [], by simp, ho, ?_, .ready⟩
    exact hq.attach (.group hl hg hr) hp
  | @notGroup _ bs us n l q ho hq hn hl =>
    refine ⟨hd', bs, us ++ (n :: l :: (current ++ [r])), [], by simp, ho, ?_, .ready⟩
    exact hq.attach (.notGroup hn hl hg hr) hp

lemma ReadFrom.stepReady {s s' : State} {ts : List Token} {t : Token} (hs : s.ReadFrom ts) (hm : s.mode = .ready)
    (ht : t.IsLexical) (hw : t.kind ≠ .whitespace) (h : s.stepReady t = .next s') : s'.ReadFrom (ts ++ [t]) := by
  obtain ⟨hd, before, current, last, rfl, ho, hp, hl⟩ := id hs
  rw [hm] at hl
  cases hl
  rw [State.stepReady] at h
  cases hk : t.kind <;> simp only [hk] at h
  case lparen =>
    refine ReadFrom.openGroup hd ?_ h
    simpa using ho.group hp hk
  case tag | fieldPath =>
    obtain ⟨l, rfl, hn, hl⟩ := startLiteral_next ht (by simp [hk]) h
    exact ⟨hd, before, current, [t], by simp, ho, hp, .literal hn hl⟩
  case and | or =>
    obtain ⟨p, hc, rfl⟩ := proceed_next h
    exact ⟨hd, before, current ++ [t], [], by simp, ho, hp.connect hc hk, .ready⟩
  case not =>
    cases h
    exact ⟨hd, before, current, [t], by simp, ho, hp, .negated hk⟩
  case rparen => exact hs.closeGroup hm hk h
  case whitespace => exact absurd hk hw
  case eof => exact absurd hk ht.inside
  case unknown => cases h

lemma ReadFrom.stepNegated {s s' : State} {ts : List Token} {n t : Token} (hs : s.ReadFrom ts)
    (hm : s.mode = .negated n) (ht : t.IsLexical) (hw : t.kind ≠ .whitespace) (h : s.stepNegated n t = .next s') :
    s'.ReadFrom (ts ++ [t]) := by
  obtain ⟨hd, before, current, last, rfl, ho, hp, hl⟩ := hs
  rw [hm] at hl
  cases hl with
  | negated hn =>
    rw [State.stepNegated] at h
    split at h
    case h_1 hk | h_2 hk =>
      obtain ⟨l, rfl, hneg, hl⟩ := startLiteral_next ht (by simp [hk]) h
      exact ⟨hd, before, current, [n, t], by simp, ho, hp, .negatedLiteral hneg hn hl⟩
    case h_3 hk =>
      refine ReadFrom.openGroup hd ?_ h
      simpa using ho.notGroup hp hn hk
    case h_4 hk => exact absurd hk hw
    case h_5 => split at h <;> first | cases h | (split at h <;> cases h)

/-- A token behind a part of a literal is a further part or comes after the whole literal. -/
lemma ReadFrom.stepLiteral {s s' : State} {ts : List Token} {l : PartialLiteral} {t : Token} (hs : s.ReadFrom ts)
    (hm : s.mode = .literal l) (ht : t.IsLexical) (hw : t.kind ≠ .whitespace) (h : s.stepLiteral l t = .next s') :
    s'.ReadFrom (ts ++ [t]) := by
  rw [State.stepLiteral] at h
  split at h
  case h_1 hk | h_2 hk =>
    obtain ⟨hd, before, current, last, rfl, ho, hp, hl⟩ := hs
    rw [hm] at hl
    cases hl with
    | literal hneg hl =>
      obtain ⟨l', rfl, hneg', hl'⟩ := readPart_next hl ht (by simp [hk]) h
      exact ⟨hd, before, current, last ++ [t], by simp, ho, hp, .literal (hneg'.trans hneg) hl'⟩
    | @negatedLiteral _ last n hneg hn hl =>
      obtain ⟨l', rfl, hneg', hl'⟩ := readPart_next hl ht (by simp [hk]) h
      exact ⟨hd, before, current, n :: (last ++ [t]), by simp, ho, hp, .negatedLiteral (hneg'.trans hneg) hn hl'⟩
  case h_3 hk => exact absurd hk hw
  case h_4 =>
    split at h
    · cases h
    next p hp => exact (hs.literal hm hp).stepReady rfl ht hw h

lemma step_of_whitespace (s : State) {t : Token} (ht : t.kind = .whitespace) : s.step t = .next s := by
  unfold State.step
  split <;> simp [State.stepReady, State.stepNegated, State.stepLiteral, ht]

/-- Every step keeps account of the tokens read. -/
theorem ReadFrom.step {s s' : State} {ts : List Token} {t : Token} (hs : s.ReadFrom ts) (ht : t.IsLexical)
    (h : s.step t = .next s') : s'.ReadFrom (ts ++ [t].filter Token.isSignificant) := by
  by_cases hw : t.kind = .whitespace
  · rw [step_of_whitespace s hw] at h
    cases h
    simpa [Token.isSignificant, hw] using hs
  · have hf : [t].filter Token.isSignificant = [t] := by simp [Token.isSignificant, hw, ht.inside]
    rw [hf]
    rw [State.step] at h
    split at h
    next hm => exact hs.stepReady hm ht hw h
    next n hm => exact hs.stepNegated hm ht hw h
    next l hm => exact hs.stepLiteral hm ht hw h

end State
end Parser
end TagRules
