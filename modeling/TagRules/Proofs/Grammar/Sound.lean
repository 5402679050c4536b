import TagRules.Proofs.Grammar.Reading

/-!
What the parser accepts is derived by the grammar, and what it refuses is refused with an error about the
text. A step ends the parse with a tree only at the end of the text, with no parenthesis open; the
account of the tokens read then belongs to the whole of them.
-/
namespace TagRules

/-- An error of the text: no token can be read, or one of the language does not fit. -/
def SyntaxError.IsReport : SyntaxError → Prop
  | .lex _ => True
  | .parse e => e.cause ≠ .namelessKind

namespace Parser
open Grammar

/-- A stop with an error about the text. -/
def Stop.IsReport (x : Stop) : Prop := ∃ e, x.result = .error e ∧ e.cause ≠ .namelessKind

/-- A step that ends the parse, if at all, with an error about the text. -/
def Step.MayReport (r : Step) : Prop := ∀ x, r = .stop x → x.IsReport

namespace Pending

lemma attach_error {p : Pending} {e : Expr} {t : Token} {x : ParseError} (h : p.attach e t = .error x) :
    x.cause ≠ .namelessKind := by
  unfold attach at h
  split at h <;> cases h
  simp

lemma connect_error {p : Pending} {op : Connective} {t : Token} {x : ParseError} (h : p.connect op t = .error x) :
    x.cause ≠ .namelessKind := by
  unfold connect at h
  split at h <;> cases h <;> simp

lemma finalize_error {p : Pending} {t : Token} {x : ParseError} (h : p.finalize t = .error x) :
    x.cause ≠ .namelessKind := by
  unfold finalize at h
  split at h <;> cases h <;> simp

end Pending
namespace State

@[simp] lemma mayReport_next (s : State) : (Step.next s).MayReport := by simp [Step.MayReport]

lemma mayReport_fail (s : State) {cause : ParseError.Cause} (t : Token) (h : cause ≠ .namelessKind) :
    (s.fail cause t).MayReport := by
  rintro x hx
  cases hx
  exact ⟨_, rfl, h⟩

lemma mayReport_proceed (s : State) {r : Except ParseError Pending}
    (h : ∀ e, r = .error e → e.cause ≠ .namelessKind) : (s.proceed r).MayReport := by
  cases r with
  | ok p => exact mayReport_next _
  | error e =>
    rintro x hx
    cases hx
    exact ⟨e, rfl, h e rfl⟩

lemma mayReport_readPart (s : State) (l : PartialLiteral) (t : Token) : (s.readPart l t).MayReport := by
  unfold readPart
  split
  · split
    · exact mayReport_next _
    · exact mayReport_fail s t (by simp)
  · split
    · exact mayReport_fail s t (by simp)
    · split
      · exact mayReport_fail s t (by simp)
      · exact mayReport_next _

/-- A production that ends the parse fails or has no open parenthesis left. -/
lemma close_stop {s : State} {t : Token} {x : Stop} (h : s.close t = .stop x) :
    x.IsReport ∨ ∃ e, x = ⟨.ok e, s.memory, true⟩ ∧ 0 ≤ s.memory.depth ∧ s.frames = [] ∧
      s.pending.finalize t = .ok e := by
  unfold close at h
  split at h
  · exact .inl (mayReport_fail s t (by simp) x h)
  next hd =>
    split at h
    next e he =>
      cases h
      exact .inl ⟨e, rfl, Pending.finalize_error he⟩
    next e he =>
      split at h
      next hf =>
        cases h
        exact .inr ⟨e, rfl, by omega, hf, he⟩
      · split at h
        · exact .inl (mayReport_fail s _ (by simp) x h)
        · exact .inl (mayReport_proceed _ (fun _ => Pending.attach_error) x h)

/-- The depth rules out that a closing parenthesis ends the parse with a tree. -/
lemma ReadFrom.stepReady_stop {s : State} {ts : List Token} {t : Token} {x : Stop} (hs : s.ReadFrom ts)
    (hm : s.mode = .ready) (h : s.stepReady t = .stop x) :
    x.IsReport ∨ ∃ e, x.result = .ok e ∧ t.kind = .eof ∧ Derives .expression ts e := by
  obtain ⟨hd, before, current, last, rfl, ho, hp, hl⟩ := hs
  rw [hm] at hl
  cases hl
  rw [State.stepReady] at h
  cases hk : t.kind <;> simp only [hk] at h
  case lparen | not | whitespace => cases h
  case tag | fieldPath => exact .inl (mayReport_readPart _ _ _ x h)
  case and | or => exact .inl (mayReport_proceed _ (fun _ => Pending.connect_error) x h)
  case unknown => exact .inl (mayReport_fail _ _ (by simp) x h)
  case rparen =>
    obtain hr | ⟨e, -, hd', hf, -⟩ := close_stop h
    · exact .inl hr
    · -- With no group open the parenthesis takes the depth below zero, and that was refused.
      simp only at hd' hf
      rw [hf, List.length_nil] at hd
      omega
  case eof =>
    obtain hr | ⟨e, hx, -, hf, he⟩ := close_stop h
    · exact .inl hr
    · rw [hf] at ho
      cases ho
      exact .inr ⟨e, congrArg Stop.result hx, rfl, by simpa using hp.finalize he⟩

/-- Only a token of no kind that has no text either cannot be named in a message. -/
lemma mayReport_stepNegated (s : State) (n : Token) {t : Token} (ht : t.kind = .unknown → t.value ≠ "") :
    (s.stepNegated n t).MayReport := by
  unfold stepNegated
  split
  · exact mayReport_readPart _ _ _
  · exact mayReport_readPart _ _ _
  · exact mayReport_next _
  · exact mayReport_next _
  · split
    · exact mayReport_fail s t (by simp)
    · split
      · exact mayReport_fail s t (by simp)
      next hn => cases hk : t.kind <;> simp_all [Token.Kind.name?]

theorem ReadFrom.step_stop {s : State} {ts : List Token} {t : Token} {x : Stop} (hs : s.ReadFrom ts)
    (ht : t.kind ≠ .unknown) (h : s.step t = .stop x) :
    x.IsReport ∨ ∃ e, x.result = .ok e ∧ t.kind = .eof ∧ Derives .expression ts e := by
  rw [State.step] at h
  split at h
  next hm => exact hs.stepReady_stop hm h
  next n hm => exact .inl (mayReport_stepNegated s n (fun hk => absurd hk ht) x h)
  next l hm =>
    rw [State.stepLiteral] at h
    split at h
    · exact .inl (mayReport_readPart _ _ _ x h)
    · exact .inl (mayReport_readPart _ _ _ x h)
    · cases h
    · split at h
      next e he =>
        cases h
        exact .inl ⟨e, rfl, Pending.attach_error he⟩
      next p hp => exact (hs.literal hm hp).stepReady_stop rfl h

end State

lemma Stop.IsReport.syntaxError {x : Stop} (h : x.IsReport) :
    ∃ e, x.result.mapError SyntaxError.parse = .error e ∧ e.IsReport := by
  obtain ⟨e, he, hc⟩ := h
  exact ⟨.parse e, by rw [he]; rfl, hc⟩

/-- A run ends with an error about the text, or with a tree derived from all tokens, those read before included. -/
theorem State.ReadFrom.run {s : State} {ts : List Token} (ending : Feed.Ending)
    {items : List (Except LexError Token)} (hs : s.ReadFrom ts) (hi : ∀ t, .ok t ∈ items → t.IsLexical) :
    (∃ x, (run ending s items).result = .error x ∧ x.IsReport) ∨
    ∃ (e : Expr) (us : List Token) (position : Int), (run ending s items).result = .ok e ∧ items = us.map .ok ∧
      ending = .eof position ∧ Derives .expression (ts ++ us.filter Token.isSignificant) e := by
  induction items generalizing s ts with
  | nil =>
    cases ending with
    | stuck e => exact .inl ⟨.lex e, rfl, trivial⟩
    | eof position =>
      cases h : s.step (.eof position) with
      | next s' =>
        refine .inl ⟨.parse ⟨.emptyExpression, .eof position⟩, ?_, by simp [SyntaxError.IsReport]⟩
        simp [Parser.run, h]
      | stop x =>
        have hr : (Parser.run (.eof position) s []).result = x.result.mapError .parse := by simp [Parser.run, h]
        rw [hr]
        obtain hx | ⟨e, hx, -, he⟩ := hs.step_stop (by simp [Token.eof]) h
        · exact .inl hx.syntaxError
        · exact .inr ⟨e, [], position, by rw [hx]; rfl, rfl, rfl, by simpa using he⟩
  | cons item items ih =>
    have hi' : ∀ t, .ok t ∈ items → t.IsLexical := fun t ht => hi t (by simp [ht])
    cases item with
    | error e => exact .inl ⟨.lex e, rfl, trivial⟩
    | ok t =>
      have ht : t.IsLexical := hi t (by simp)
      cases h : s.step t with
      | stop x =>
        have hr : (Parser.run ending s (.ok t :: items)).result = x.result.mapError .parse := by
          simp [Parser.run, h]
        rw [hr]
        obtain hx | ⟨e, -, hk, -⟩ := hs.step_stop ht.known h
        · exact .inl hx.syntaxError
        · exact absurd hk ht.inside
      | next s' =>
        have hr : Parser.run ending s (.ok t :: items) = Parser.run ending s' items := by simp [Parser.run, h]
        rw [hr]
        obtain hx | ⟨e, us, position, hx, rfl, he, hd⟩ := ih (hs.step ht h) hi'
        · exact .inl hx
        · refine .inr ⟨e, t :: us, position, hx, rfl, he, ?_⟩
          rwa [List.append_assoc, ← List.filter_append] at hd

end Parser
end TagRules
