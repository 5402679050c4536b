import TagRules.Proofs.Grammar.Reading

/-!
What the grammar derives is accepted by the parser. Tokens derived as an operand take the machine from a node
with a free place to the node with that place filled, whatever parentheses are open around it, and what is
remembered in between are the references of the operand. A literal at the end is filled in only when the
next token comes, so that states are compared once a literal under way is taken as complete.
-/
namespace TagRules.Parser
open Grammar

/-- What is remembered of a reference. -/
def Memory.add (m : Memory) (r : Reference) : Memory :=
  { m with
    tags := remember m.tags r.name
    fieldPaths := if r.scope.isEmpty then m.fieldPaths else remember m.fieldPaths r.scope }

lemma Memory.record_eq_add (m : Memory) (l : PartialLiteral) : m.record l = m.add ⟨l.name, l.scope⟩ := rfl

/-- What is remembered of an expression. -/
def Memory.collect (m : Memory) : Expr → Memory
  | .unit r => m.add r
  | .binary _ a b => (m.collect a).collect b
  | .not a => m.collect a
  | .hole | .unset => m

lemma Memory.collect_withDepth (m : Memory) (e : Expr) (depth : Int) :
    Memory.collect { m with depth := depth } e = { m.collect e with depth := depth } := by
  induction e generalizing m with
  | hole | unset | unit => rfl
  | binary op a b iha ihb => simp only [Memory.collect, iha, ihb]
  | not a ih => exact ih m

@[simp] lemma Memory.depth_collect (m : Memory) (e : Expr) : (m.collect e).depth = m.depth :=
  (congrArg Memory.depth (m.collect_withDepth e m.depth) :)

lemma Memory.depth_restored (m : Memory) (e : Expr) : { m.collect e with depth := m.depth } = m.collect e :=
  (m.collect_withDepth e m.depth).symm

/-- A node that is finished as it stands. -/
inductive Pending.Holds : Pending → Expr → Prop
  | single (e : Expr) : Holds ⟨none, some e, none⟩ e
  | pair (op : Connective) (a b : Expr) : Holds ⟨some op, some a, some b⟩ (.binary op a b)

lemma Pending.Holds.finalize {p : Pending} {e : Expr} (h : p.Holds e) (t : Token) : p.finalize t = .ok e := by
  cases h <;> rfl

lemma Pending.Holds.connect {p : Pending} {e : Expr} (h : p.Holds e) (op : Connective) (t : Token) :
    p.connect op t = .ok ⟨some op, some e, none⟩ := by
  cases h <;> rfl

namespace State

/-- The state after some tokens, unless one of them ends the parse. -/
def after (s : State) : List Token → Option State
  | [] => some s
  | t :: ts =>
    match s.step t with
    | .next s' => s'.after ts
    | .stop _ => none

lemma after_append {s s' : State} {ts : List Token} (us : List Token) (h : s.after ts = some s') :
    s.after (ts ++ us) = s'.after us := by
  induction ts generalizing s with
  | nil => cases h; rfl
  | cons t ts ih =>
    simp only [List.cons_append, after] at h ⊢
    cases hs : s.step t with
    | next s₁ =>
      simp only [hs] at h ⊢
      exact ih h
    | stop x => simp [hs] at h

lemma after_cons {s s' : State} {t : Token} (ts : List Token) (h : s.step t = .next s') :
    s.after (t :: ts) = s'.after ts := by simp [after, h]

/-- The state with a literal under way taken as complete. -/
def settled? (s : State) : Option State :=
  match s.mode with
  | .ready => some s
  | .negated _ => none
  | .literal l =>
    match s.pending.attach (negate l.negated (.unit ⟨l.name, l.scope⟩)) l.anchor with
    | .ok p => some { s with memory := s.memory.record l, pending := p, mode := .ready }
    | .error _ => none

/-- A token that is no part of a literal meets the settled state. -/
lemma step_of_settled {s s' : State} {t : Token} (h : s.settled? = some s') (ht : t.kind ≠ .tag)
    (hp : t.kind ≠ .fieldPath) (hw : t.kind ≠ .whitespace) : s.step t = s'.stepReady t := by
  unfold settled? at h
  split at h
  next hm =>
    cases h
    simp [step, hm]
  next => cases h
  next l hm =>
    simp only [step, hm, stepLiteral]
    split at h
    next p ha =>
      cases h
      cases hk : t.kind <;> simp_all
    next => cases h

end State

/-- What tokens derived as a phrase do to the machine. It is said for any memory, node and open groups, because the
phrase may stand behind a connective or inside other groups. -/
def Reads : Phrase → List Token → Expr → Prop
  | .literal, ts, e => ∃ r : Reference, e = .unit r ∧
      ∀ (m : Memory) (p : Pending) (frames : List Frame) (negation : Option Token),
        ∃ anchor, State.after ⟨m, p, frames, negation.elim .ready .negated⟩ ts =
          some ⟨m, p, frames, .literal ⟨anchor, negation.isSome, r.name, r.scope⟩⟩
  | .operand, ts, e => ∀ (m : Memory) (p p' : Pending) (frames : List Frame), 0 ≤ m.depth →
      (∀ t, p.attach e t = .ok p') →
        ∃ s, State.after ⟨m, p, frames, .ready⟩ ts = some s ∧ s.settled? = some ⟨m.collect e, p', frames, .ready⟩
  | .expression, ts, e => ∀ (m : Memory) (frames : List Frame), 0 ≤ m.depth →
      ∃ s p, State.after ⟨m, .empty, frames, .ready⟩ ts = some s ∧
        s.settled? = some ⟨m.collect e, p, frames, .ready⟩ ∧ p.Holds e

lemma reads_anywhere {t : Token} (hk : t.kind = .tag) :
    Reads .literal [t] (.unit ⟨t.value, ""⟩) := by
  refine ⟨_, rfl, fun m p frames negation => ?_⟩
  cases negation with
  | none =>
    exact ⟨t, by simp [State.after, State.step, State.stepReady, State.startLiteral, State.readPart, hk]⟩
  | some n =>
    exact ⟨n, by simp [State.after, State.step, State.stepNegated, State.startLiteral, State.readPart, hk]⟩

lemma reads_under {t u : Token} (ht : t.IsLexical) (hk : t.kind = .tag) (hu : u.kind = .fieldPath) :
    Reads .literal [t, u] (.unit ⟨t.value, u.value⟩) := by
  obtain ⟨r, hr, h⟩ := reads_anywhere hk
  cases hr
  refine ⟨_, rfl, fun m p frames negation => ?_⟩
  obtain ⟨anchor, ha⟩ := h m p frames negation
  refine ⟨anchor, (State.after_append [u] ha).trans ?_⟩
  simp [State.after, State.step, State.stepLiteral, State.readPart, hu, ht.named (.inl hk)]

lemma reads_literal {ts : List Token} {e : Expr} (h : Reads .literal ts e) : Reads .operand ts e := by
  obtain ⟨r, rfl, h⟩ := h
  intro m p p' frames _ hp
  obtain ⟨anchor, ha⟩ := h m p frames none
  exact ⟨_, ha, by simp [State.settled?, negate, hp, Memory.record_eq_add, Memory.collect]⟩

lemma reads_notLiteral {n : Token} {ts : List Token} {e : Expr} (hn : n.kind = .not) (h : Reads .literal ts e) :
    Reads .operand (n :: ts) (.not e) := by
  obtain ⟨r, rfl, h⟩ := h
  intro m p p' frames _ hp
  obtain ⟨anchor, ha⟩ := h m p frames (some n)
  have hs : State.step ⟨m, p, frames, .ready⟩ n = .next ⟨m, p, frames, .negated n⟩ := by
    simp [State.step, State.stepReady, hn]
  exact ⟨_, (State.after_cons ts hs).trans ha, by
    simp [State.settled?, negate, hp, Memory.record_eq_add, Memory.collect]⟩

/-- A group puts its tree into the node before it, under the negation it stands under. -/
lemma reads_inner {ts : List Token} {e : Expr} {r : Token} (h : Reads .expression ts e) (hr : r.kind = .rparen)
    (m : Memory) (p p' : Pending) (frames : List Frame) (l : Token) (negation : Option Token) (hm : 0 ≤ m.depth)
    (hp : ∀ t, p.attach (negate negation.isSome e) t = .ok p') :
    State.after ⟨{ m with depth := m.depth + 1 }, .empty, ⟨p, l, negation⟩ :: frames, .ready⟩ (ts ++ [r]) =
      some ⟨m.collect e, p', frames, .ready⟩ := by
  obtain ⟨s, q, hs, hq, hh⟩ := h { m with depth := m.depth + 1 } (⟨p, l, negation⟩ :: frames) (by simp; omega)
  rw [State.after_append [r] hs]
  have hstep := State.step_of_settled hq (t := r) (by simp [hr]) (by simp [hr]) (by simp [hr])
  have hd : ¬ m.depth < 0 := by omega
  simp [State.after, hstep, State.stepReady, hr, State.close, hh.finalize, State.proceed, hp,
    Memory.collect_withDepth, Memory.depth_restored, hd]

lemma reads_group {l r : Token} {ts : List Token} {e : Expr} (hl : l.kind = .lparen) (h : Reads .expression ts e)
    (hr : r.kind = .rparen) : Reads .operand (l :: (ts ++ [r])) e := by
  intro m p p' frames hm hp
  have hs : State.step ⟨m, p, frames, .ready⟩ l =
      .next ⟨{ m with depth := m.depth + 1 }, .empty, ⟨p, l, none⟩ :: frames, .ready⟩ := by
    simp [State.step, State.stepReady, State.openGroup, hl]
  exact ⟨_, (State.after_cons _ hs).trans (reads_inner h hr m p p' frames l none hm hp), rfl⟩

lemma reads_notGroup {n l r : Token} {ts : List Token} {e : Expr} (hn : n.kind = .not) (hl : l.kind = .lparen)
    (h : Reads .expression ts e) (hr : r.kind = .rparen) : Reads .operand (n :: l :: (ts ++ [r])) (.not e) := by
  intro m p p' frames hm hp
  have hs : State.step ⟨m, p, frames, .ready⟩ n = .next ⟨m, p, frames, .negated n⟩ := by
    simp [State.step, State.stepReady, hn]
  have hs' : State.step ⟨m, p, frames, .negated n⟩ l =
      .next ⟨{ m with depth := m.depth + 1 }, .empty, ⟨p, l, some n⟩ :: frames, .ready⟩ := by
    simp [State.step, State.stepNegated, State.openGroup, hl]
  refine ⟨⟨m.collect e, p', frames, .ready⟩, (State.after_cons _ hs).trans ((State.after_cons _ hs').trans ?_), rfl⟩
  exact reads_inner h hr m p p' frames l (some n) hm hp

lemma reads_operand {ts : List Token} {e : Expr} (h : Reads .operand ts e) : Reads .expression ts e := by
  intro m frames hm
  obtain ⟨s, hs, hq⟩ := h m .empty ⟨none, some e, none⟩ frames hm fun _ => rfl
  exact ⟨s, _, hs, hq, .single e⟩

lemma reads_chain {ts us : List Token} {o : Token} {a b : Expr} (op : Connective) (ha : Reads .expression ts a)
    (ho : o.kind = op.tokenKind) (hb : Reads .operand us b) : Reads .expression (ts ++ o :: us) (.binary op a b) := by
  intro m frames hm
  obtain ⟨s, p, hs, hp, hh⟩ := ha m frames hm
  have ho' : s.step o = .next ⟨m.collect a, ⟨some op, some a, none⟩, frames, .ready⟩ := by
    cases op <;> simp only [Connective.tokenKind] at ho <;>
      rw [State.step_of_settled hp (by simp [ho]) (by simp [ho]) (by simp [ho])] <;>
      simp [State.stepReady, State.proceed, ho, hh.connect]
  obtain ⟨s', hs', hp'⟩ := hb (m.collect a) ⟨some op, some a, none⟩ ⟨some op, some a, some b⟩ frames
    (by simpa using hm) fun _ => rfl
  exact ⟨s', _, (State.after_append _ hs).trans ((State.after_cons us ho').trans hs'), hp', .pair op a b⟩

/-- Derived tokens are read as what they are derived as. -/
theorem reads_of_derives {phrase : Phrase} {ts : List Token} {e : Expr} (h : Derives phrase ts e)
    (ht : ∀ t ∈ ts, t.IsLexical) : Reads phrase ts e := by
  induction h with
  | anywhere hk => exact reads_anywhere hk
  | under hk hu => exact reads_under (ht _ (by simp)) hk hu
  | literal _ ih => exact reads_literal (ih ht)
  | notLiteral hn _ ih => exact reads_notLiteral hn (ih fun t h => ht t (by simp [h]))
  | group hl _ hr ih => exact reads_group hl (ih fun t h => ht t (by simp [h])) hr
  | notGroup hn hl _ hr ih => exact reads_notGroup hn hl (ih fun t h => ht t (by simp [h])) hr
  | operand _ ih => exact reads_operand (ih ht)
  | chain op _ ho _ iha ihb =>
    exact reads_chain op (iha fun t h => ht t (by simp [h])) ho (ihb fun t h => ht t (by simp [h]))

/-- White space between tokens makes no difference to the machine. -/
lemma State.after_filter (s : State) {ts : List Token} (ht : ∀ t ∈ ts, t.kind ≠ .eof) :
    s.after (ts.filter Token.isSignificant) = s.after ts := by
  induction ts generalizing s with
  | nil => rfl
  | cons t ts ih =>
    have ih' (s : State) := ih s fun u hu => ht u (by simp [hu])
    by_cases hw : t.kind = .whitespace
    · rw [List.filter_cons_of_neg (by simp [Token.isSignificant, hw]), ih', after_cons ts (s.step_of_whitespace hw)]
    · rw [List.filter_cons_of_pos (by simp [Token.isSignificant, hw, ht t])]
      simp only [after, ih']

lemma run_of_after {s s' : State} (ending : Feed.Ending) {ts : List Token} (items : List (Except LexError Token))
    (h : s.after ts = some s') : run ending s (ts.map .ok ++ items) = run ending s' items := by
  induction ts generalizing s with
  | nil => cases h; rfl
  | cons t ts ih =>
    rw [State.after] at h
    rw [List.map_cons, List.cons_append, run]
    cases hs : s.step t with
    | next s₁ =>
      rw [hs] at h
      exact ih h
    | stop x =>
      rw [hs] at h
      cases h

/-- A text whose tokens are derived as an expression is read as that expression, and its references are all that
is remembered. -/
theorem run_of_derives {ts : List Token} {e : Expr} (m : Memory) (position : Int) (hm : 0 ≤ m.depth)
    (h : Derives .expression (ts.filter Token.isSignificant) e) (ht : ∀ t ∈ ts, t.IsLexical) :
    run (.eof position) ⟨m, .empty, [], .ready⟩ (ts.map .ok) = ⟨.ok e, m.collect e, []⟩ := by
  obtain ⟨s, p, hs, hp, hh⟩ := reads_of_derives h (fun t h => ht t (List.mem_filter.1 h).1) m [] hm
  rw [State.after_filter _ fun t h => (ht t h).inside] at hs
  have hr := run_of_after (.eof position) [] hs
  rw [List.append_nil] at hr
  have hstep : s.step (.eof position) = .stop ⟨.ok e, m.collect e, true⟩ := by
    rw [State.step_of_settled hp (by simp [Token.eof]) (by simp [Token.eof]) (by simp [Token.eof])]
    simp [State.stepReady, Token.eof, State.close, hh.finalize, Int.not_lt.2 hm]
  rw [hr, run, hstep]
  rfl

end TagRules.Parser
