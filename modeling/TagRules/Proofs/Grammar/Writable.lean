import TagRules.Proofs.Grammar.Print
import TagRules.Proofs.Outcome

/-!
The parser builds whole trees only. Whatever the tokens are and however deep the groups, the operands that the machine
holds have no part missing and references that can be written; a node is built only when it has both operands. So
every tree that a parser gives is one that can be printed, also when it is asked again after an error.
-/
namespace TagRules

/-- What stands for a part of a literal is not empty, nor is anything between the dots of a path. -/
structure Token.IsFilled (t : Token) : Prop where
  named : t.kind = .tag ∨ t.kind = .fieldPath → t.value ≠ ""
  placed : t.kind = .fieldPath → [] ∉ t.value.toList.splitOn '.'

lemma Token.IsLexical.isFilled {t : Token} (h : t.IsLexical) : t.IsFilled := ⟨h.named, h.placed⟩

lemma Token.isFilled_eof (position : Int) : (Token.eof position).IsFilled := ⟨by simp [eof], by simp [eof]⟩

namespace Parser

/-- The operands of a node being built can be written, and there is no right one without a left one. -/
structure Pending.IsSound (p : Pending) : Prop where
  left : ∀ e, p.left = some e → e.IsWritable
  right : ∀ e, p.right = some e → e.IsWritable
  order : p.left = none → p.right = none

/-- What a state holds can be written: the operands, those before open groups, and the literal that is read. -/
structure State.IsSound (s : State) : Prop where
  pending : s.pending.IsSound
  frames : ∀ f ∈ s.frames, f.pending.IsSound
  literal : ∀ l, s.mode = .literal l → Reference.IsWritable ⟨l.name, l.scope⟩

/-- A step that goes on does so with what can be written, and one that ends the parse with a tree gives such a tree. -/
def Step.IsSound : Step → Prop
  | .next s => s.IsSound
  | .stop x => ∀ e, x.result = .ok e → e.IsWritable

lemma isWritable_negate {e : Expr} (h : e.IsWritable) (negated : Bool) : (negate negated e).IsWritable := by
  cases negated <;> exact h

namespace Pending

variable {p p' : Pending}

lemma isSound_empty : Pending.empty.IsSound := ⟨by simp [empty], by simp [empty], fun _ => rfl⟩

lemma IsSound.attach (hp : p.IsSound) {e : Expr} (he : e.IsWritable) {token : Token}
    (h : p.attach e token = .ok p') : p'.IsSound := by
  unfold Pending.attach at h
  split at h
  · cases h
    exact ⟨by simpa using he, hp.right, by simp⟩
  next hl ho hr =>
    cases h
    exact ⟨hp.left, by simpa using he, by simp [hl]⟩
  · cases h

lemma IsSound.build (hp : p.IsSound) {a b : Expr} (ha : p.left = some a) (hb : p.right = some b) (op : Connective) :
    (p.build op).IsWritable := by
  rw [Pending.build, ha, hb]
  exact ⟨hp.left a ha, hp.right b hb⟩

lemma IsSound.connect (hp : p.IsSound) {op : Connective} {token : Token} (h : p.connect op token = .ok p') :
    p'.IsSound := by
  unfold Pending.connect at h
  split at h
  · cases h
  · cases h
    exact ⟨hp.left, hp.right, hp.order⟩
  · cases h
  next hl ho hr =>
    cases h
    exact ⟨by simpa using hp.build hl hr _, by simp, by simp⟩

lemma IsSound.finalize (hp : p.IsSound) {e : Expr} {token : Token} (h : p.finalize token = .ok e) :
    e.IsWritable := by
  unfold Pending.finalize at h
  split at h
  · cases h
  next hl =>
    cases h
    exact hp.left _ hl
  · cases h
  next ho hr =>
    cases h
    cases hl : p.left with
    | none => simp [hp.order hl] at hr
    | some a => exact hp.build hl hr _

end Pending
namespace State

variable {s : State}

lemma isSound_fail (s : State) (cause : ParseError.Cause) (token : Token) : (s.fail cause token).IsSound := by
  rintro e he
  cases he

lemma IsSound.proceed (hs : s.IsSound) {r : Except ParseError Pending} (hr : ∀ p, r = .ok p → p.IsSound) :
    (s.proceed r).IsSound := by
  cases r with
  | error e =>
    rintro e he
    cases he
  | ok p => exact ⟨hr p rfl, hs.frames, by simp⟩

lemma IsSound.openGroup (hs : s.IsSound) (lparen : Token) (negation : Option Token) :
    (s.openGroup lparen negation).IsSound :=
  ⟨Pending.isSound_empty, by simpa using ⟨hs.pending, hs.frames⟩, by simp⟩

/-- A part is read into a literal with a path that is valid if it has one. -/
lemma IsSound.readPart (hs : s.IsSound) {l : PartialLiteral} (hl : l.scope = "" ∨ [] ∉ l.scope.toList.splitOn '.')
    {t : Token} (ht : t.IsFilled) (hk : t.kind = .tag ∨ t.kind = .fieldPath) : (s.readPart l t).IsSound := by
  unfold State.readPart
  split
  · split
    · refine ⟨hs.pending, hs.frames, ?_⟩
      rintro l' ⟨⟩
      exact ⟨ht.named hk, hl⟩
    · exact isSound_fail s _ _
  next htag =>
    split
    · exact isSound_fail s _ _
    · split
      · exact isSound_fail s _ _
      next hn =>
        refine ⟨hs.pending, hs.frames, ?_⟩
        rintro l' ⟨⟩
        exact ⟨by simpa using hn, .inr (ht.placed (hk.resolve_left htag))⟩

lemma IsSound.startLiteral (hs : s.IsSound) (anchor : Token) (negated : Bool) {t : Token} (ht : t.IsFilled)
    (hk : t.kind = .tag ∨ t.kind = .fieldPath) : (s.startLiteral anchor negated t).IsSound :=
  hs.readPart (.inl rfl) ht hk

/-- Closing gives the whole tree, or an operand of the node before the group. -/
lemma IsSound.close (hs : s.IsSound) (t : Token) : (s.close t).IsSound := by
  unfold State.close
  split
  · exact isSound_fail s _ _
  · split
    · rintro e he
      cases he
    next e he =>
      have hw : e.IsWritable := hs.pending.finalize he
      split
      · rintro e' he'
        cases he'
        exact hw
      next f frames hf =>
        have hfs : ∀ f' ∈ f :: frames, f'.pending.IsSound := hf ▸ hs.frames
        split
        · exact isSound_fail s _ _
        · have hs' : IsSound { s with frames := frames } :=
            ⟨hs.pending, fun f' hm => hfs f' (List.mem_cons_of_mem _ hm), hs.literal⟩
          exact hs'.proceed fun p hp => (hfs f List.mem_cons_self).attach (isWritable_negate hw _) hp

lemma IsSound.stepReady (hs : s.IsSound) {t : Token} (ht : t.IsFilled) : (s.stepReady t).IsSound := by
  unfold State.stepReady
  split
  next => exact hs.openGroup _ _
  next hk => exact hs.startLiteral _ _ ht (.inl hk)
  next hk => exact hs.startLiteral _ _ ht (.inr hk)
  next => exact hs.proceed fun _ => hs.pending.connect
  next => exact hs.proceed fun _ => hs.pending.connect
  next => exact ⟨hs.pending, hs.frames, by simp⟩
  next =>
    have hs' : IsSound { s with memory.depth := s.memory.depth - 1 } := ⟨hs.pending, hs.frames, hs.literal⟩
    exact hs'.close t
  next => exact hs.close t
  next => exact hs
  next => exact isSound_fail s _ _

lemma IsSound.stepNegated (hs : s.IsSound) (n : Token) {t : Token} (ht : t.IsFilled) :
    (s.stepNegated n t).IsSound := by
  unfold State.stepNegated
  split
  next hk => exact hs.startLiteral _ _ ht (.inl hk)
  next hk => exact hs.startLiteral _ _ ht (.inr hk)
  next => exact hs.openGroup _ _
  next => exact hs
  next =>
    split
    · exact isSound_fail s _ _
    · split <;> exact isSound_fail s _ _

/-- A literal that ends becomes an operand before the token behind it is looked at. -/
lemma IsSound.stepLiteral (hs : s.IsSound) {l : PartialLiteral} (hl : Reference.IsWritable ⟨l.name, l.scope⟩)
    {t : Token} (ht : t.IsFilled) : (s.stepLiteral l t).IsSound := by
  unfold State.stepLiteral
  split
  next hk => exact hs.readPart hl.placed ht (.inl hk)
  next hk => exact hs.readPart hl.placed ht (.inr hk)
  next => exact hs
  next =>
    split
    · rintro e he
      cases he
    next p hp =>
      have hw : (Expr.unit ⟨l.name, l.scope⟩).IsWritable := hl
      have hs' : IsSound { s with memory := s.memory.record l, pending := p, mode := .ready } :=
        ⟨hs.pending.attach (isWritable_negate hw _) hp, hs.frames, by simp⟩
      exact hs'.stepReady ht

/-- No step lets go of it that all that is held can be written. -/
theorem IsSound.step (hs : s.IsSound) {t : Token} (ht : t.IsFilled) : (s.step t).IsSound := by
  unfold State.step
  split
  next => exact hs.stepReady ht
  next n _ => exact hs.stepNegated n ht
  next l hm => exact hs.stepLiteral (hs.literal l hm) ht

/-- A run gives a tree that can be written, if it gives one. -/
theorem IsSound.run (hs : s.IsSound) (ending : Feed.Ending) {items : List (Except LexError Token)}
    (hi : ∀ t, .ok t ∈ items → t.IsFilled) {e : Expr} (h : (run ending s items).result = .ok e) : e.IsWritable := by
  induction items generalizing s with
  | nil =>
    cases ending with
    | stuck x => cases h
    | eof position =>
      have hstep := hs.step (Token.isFilled_eof position)
      rw [Parser.run] at h
      split at h
      next x hx =>
        rw [hx] at hstep
        exact hstep e (ok_of_mapError h)
      next => cases h
  | cons item items ih =>
    cases item with
    | error x => cases h
    | ok t =>
      have hstep := hs.step (hi t List.mem_cons_self)
      rw [Parser.run] at h
      split at h
      next s' hs' =>
        rw [hs'] at hstep
        exact ih hstep (fun u hu => hi u (List.mem_cons_of_mem _ hu)) h
      next x hx =>
        rw [hx] at hstep
        exact hstep e (ok_of_mapError h)

lemma rest_run_subset (s : State) (ending : Feed.Ending) (items : List (Except LexError Token)) :
    (Parser.run ending s items).rest ⊆ items := by
  induction items generalizing s with
  | nil =>
    cases ending with
    | stuck x => exact List.Subset.refl _
    | eof position =>
      rw [Parser.run]
      split <;> exact List.Subset.refl _
  | cons item items ih =>
    cases item with
    | error x => exact List.subset_cons_self _ _
    | ok t =>
      rw [Parser.run]
      split
      next s' _ => exact List.Subset.trans (ih s') (List.subset_cons_self _ _)
      next x _ =>
        cases x.consumed
        · exact List.Subset.refl _
        · exact List.subset_cons_self _ _

end State

/-- The parser has only tokens ahead that texts are read as. -/
def IsFed (p : Parser) : Prop := ∀ t, .ok t ∈ p.feed.items → t.IsLexical

lemma isFed_ofSource (source : String) (caseSensitive : Bool) : (ofSource source caseSensitive).IsFed :=
  fun _ => Feed.isLexical_of_mem

lemma IsFed.parse {p : Parser} (hp : p.IsFed) : p.parse.2.IsFed :=
  fun t ht => hp t (State.rest_run_subset _ _ _ ht)

lemma IsFed.isWritable {p : Parser} (hp : p.IsFed) {e : Expr} (h : p.parse.1 = .ok e) : e.IsWritable := by
  have hs : State.IsSound ⟨p.memory, .empty, [], .ready⟩ := ⟨Pending.isSound_empty, by simp, by simp⟩
  exact hs.run p.feed.ending (fun t ht => (hp t ht).isFilled) h

/-- A parser that was asked some times. -/
def asked (p : Parser) : Nat → Parser
  | 0 => p
  | n + 1 => (p.asked n).parse.2

theorem isFed_asked {p : Parser} (hp : p.IsFed) (n : Nat) : (p.asked n).IsFed := by
  induction n with
  | zero => exact hp
  | succ n ih => exact ih.parse

end Parser
end TagRules
