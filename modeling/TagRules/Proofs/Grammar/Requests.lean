import TagRules.Proofs.Grammar.Writable

/-!
What a parse asks its supply of tokens for. A parser looks at a literal and at what comes behind one twice: it hands
the token back and reads it anew, once it knows what to do with it. `Goes` is a parse that takes one look after the
other, with the token that was handed back. The machine takes both looks in one step, so both come to the same; and
whatever the tokens are, the parse ends, and a tree leaves nothing open and nothing unread behind.
-/
namespace TagRules
namespace Parser

/-- Tokens one after the other, and then the end of the text for ever. -/
def supply (ts : List Token) (position : Int) (n : Nat) : Token := ts.getD n (.eof position)

/-- How many tokens a supply was asked for, and the token that was handed back. -/
structure Reader where
  requested : Nat
  back : Option Token

namespace Reader

variable (source : Nat → Token)

/-- The token that was handed back or, without one, the next of the supply. -/
def scan (r : Reader) : Token × Reader :=
  match r.back with
  | some t => (t, { r with back := none })
  | none => (source r.requested, { r with requested := r.requested + 1 })

def handBack (r : Reader) (t : Token) : Reader := { r with back := some t }

/-- A token that is handed back is the next one again. -/
lemma scan_handBack {source : Nat → Token} {r r' : Reader} {t : Token} (h : r.scan source = (t, r')) :
    (r'.handBack t).scan source = (t, r') := by
  unfold scan at h
  split at h <;> cases h
  · rfl
  next hb =>
    rw [scan, handBack, ← hb]

end Reader

/-- What a parse does when it looks at a token: it goes on, with the token used up or handed back, or it ends. -/
inductive Turn
  | next (s : State)
  | again (s : State)
  | stop (x : Stop)

/-- A step that uses its token up or ends the parse. -/
def Step.turn : Step → Turn
  | .next s => .next s
  | .stop x => .stop x

/-- A tag or a path. -/
def IsPart (t : Token) : Prop := t.kind = .tag ∨ t.kind = .fieldPath

instance (t : Token) : Decidable (IsPart t) := inferInstanceAs (Decidable (_ ∨ _))

/-- One look at a token. The first part of a literal is handed back, to be read as one of its parts; so is the first
token that is no part of it, to be read behind it. -/
def State.turn (s : State) (t : Token) : Turn :=
  match s.mode with
  | .ready => if IsPart t then .again { s with mode := .literal ⟨t, false, "", ""⟩ } else (s.stepReady t).turn
  | .negated n => if IsPart t then .again { s with mode := .literal ⟨n, true, "", ""⟩ } else (s.stepNegated n t).turn
  | .literal l =>
    if IsPart t ∨ t.kind = .whitespace then (s.stepLiteral l t).turn else
    match s.pending.attach (negate l.negated (.unit ⟨l.name, l.scope⟩)) l.anchor with
    | .error e => .stop ⟨.error e, s.memory.record l, false⟩
    | .ok p => .again { s with memory := s.memory.record l, pending := p, mode := .ready }

/-- A parse that goes from a state and a reader to its end, one look after the other. -/
inductive Goes (source : Nat → Token) : State → Reader → Stop → Reader → Prop
  | next {s s' : State} {r r₁ r₂ : Reader} {t : Token} {x : Stop} : r.scan source = (t, r₁) → s.turn t = .next s' →
      Goes source s' r₁ x r₂ → Goes source s r x r₂
  | again {s s' : State} {r r₁ r₂ : Reader} {t : Token} {x : Stop} : r.scan source = (t, r₁) → s.turn t = .again s' →
      Goes source s' (r₁.handBack t) x r₂ → Goes source s r x r₂
  | stop {s : State} {r r₁ : Reader} {t : Token} {x : Stop} : r.scan source = (t, r₁) → s.turn t = .stop x →
      Goes source s r x (if x.consumed then r₁ else r₁.handBack t)

namespace State

/-- How a part is read does not depend on what was waited for before. -/
lemma readPart_mode (s : State) (m : Mode) (l : PartialLiteral) (t : Token) :
    readPart { s with mode := m } l t = s.readPart l t := by
  unfold readPart
  split
  · split <;> rfl
  · split
    · rfl
    · split <;> rfl

lemma stepReady_of_isPart (s : State) {t : Token} (ht : IsPart t) :
    s.stepReady t = s.readPart ⟨t, false, "", ""⟩ t := by
  obtain hk | hk := ht <;> simp [stepReady, hk, startLiteral]

lemma stepNegated_of_isPart (s : State) (n : Token) {t : Token} (ht : IsPart t) :
    s.stepNegated n t = s.readPart ⟨n, true, "", ""⟩ t := by
  obtain hk | hk := ht <;> simp [stepNegated, hk, startLiteral]

lemma stepLiteral_of_isPart (s : State) (l : PartialLiteral) {t : Token} (ht : IsPart t) :
    s.stepLiteral l t = s.readPart l t := by
  obtain hk | hk := ht <;> simp [stepLiteral, hk]

/-- A literal ends at a token that is no part of it and no blank. -/
lemma stepLiteral_of_end (s : State) (l : PartialLiteral) {t : Token} (ht : ¬ (IsPart t ∨ t.kind = .whitespace)) :
    s.stepLiteral l t = match s.pending.attach (negate l.negated (.unit ⟨l.name, l.scope⟩)) l.anchor with
      | .error e => .stop ⟨.error e, s.memory.record l, false⟩
      | .ok p => stepReady { s with memory := s.memory.record l, pending := p, mode := .ready } t := by
  unfold stepLiteral
  split
  next hk => exact absurd (.inl (.inl hk)) ht
  next hk => exact absurd (.inl (.inr hk)) ht
  next hk => exact absurd (.inr hk) ht
  next => rfl

/-- What can come of a token behind a part of a literal: it is read as a part or passed over, or the literal ends. -/
lemma stepLiteral_cases (s : State) (l : PartialLiteral) (t : Token) :
    s.stepLiteral l t = s.readPart l t ∨ s.stepLiteral l t = .next s ∨
    (∃ e, s.pending.attach (negate l.negated (.unit ⟨l.name, l.scope⟩)) l.anchor = .error e ∧
      s.stepLiteral l t = .stop ⟨.error e, s.memory.record l, false⟩) ∨
    ∃ p, s.stepLiteral l t = stepReady { s with memory := s.memory.record l, pending := p, mode := .ready } t := by
  by_cases ht : IsPart t ∨ t.kind = .whitespace
  · obtain ht | ht := ht
    · exact .inl (s.stepLiteral_of_isPart l ht)
    · exact .inr (.inl (by simp [stepLiteral, ht]))
  · rw [stepLiteral_of_end s l ht]
    cases hp : s.pending.attach (negate l.negated (.unit ⟨l.name, l.scope⟩)) l.anchor with
    | error e => exact .inr (.inr (.inl ⟨e, rfl, rfl⟩))
    | ok p => exact .inr (.inr (.inr ⟨p, rfl⟩))

/-- A look is a step, or the first of two looks that come to one. -/
lemma turn_cases (s : State) (t : Token) : s.turn t = (s.step t).turn ∨
    ∃ s', s.turn t = .again s' ∧ s'.turn t = (s.step t).turn := by
  have hpart (ht : IsPart t) (l : PartialLiteral) :
      turn { s with mode := .literal l } t = (s.readPart l t).turn := by
    simp only [turn]
    rw [if_pos (.inl ht), stepLiteral_of_isPart _ l ht, readPart_mode]
  cases hm : s.mode with
  | ready =>
    have hstep : s.step t = s.stepReady t := by rw [step, hm]
    by_cases ht : IsPart t
    · refine .inr ⟨{ s with mode := .literal ⟨t, false, "", ""⟩ }, ?_, ?_⟩
      · simp only [turn, hm, if_pos ht]
      · rw [hpart ht, hstep, stepReady_of_isPart s ht]
    · refine .inl ?_
      simp only [turn, hm, hstep, if_neg ht]
  | negated n =>
    have hstep : s.step t = s.stepNegated n t := by rw [step, hm]
    by_cases ht : IsPart t
    · refine .inr ⟨{ s with mode := .literal ⟨n, true, "", ""⟩ }, ?_, ?_⟩
      · simp only [turn, hm, if_pos ht]
      · rw [hpart ht, hstep, stepNegated_of_isPart s n ht]
    · refine .inl ?_
      simp only [turn, hm, hstep, if_neg ht]
  | literal l =>
    have hstep : s.step t = s.stepLiteral l t := by rw [step, hm]
    by_cases ht : IsPart t ∨ t.kind = .whitespace
    · refine .inl ?_
      simp only [turn, hm, hstep, if_pos ht]
    · have hend : ¬ IsPart t := fun h => ht (.inl h)
      rw [hstep, stepLiteral_of_end s l ht]
      cases hp : s.pending.attach (negate l.negated (.unit ⟨l.name, l.scope⟩)) l.anchor with
      | error e =>
        refine .inl ?_
        simp only [turn, hm, if_neg ht, hp]
        rfl
      | ok p =>
        refine .inr ⟨{ s with memory := s.memory.record l, pending := p, mode := .ready }, ?_, ?_⟩
        · simp only [turn, hm, if_neg ht, hp]
        · simp only [turn, if_neg hend]

end State
namespace Goes

variable {source : Nat → Token} {s s' : State} {r r₁ r₂ : Reader} {t : Token} {x : Stop}

/-- A step that goes on is one look or two. -/
lemma of_next (hr : r.scan source = (t, r₁)) (hs : s.step t = .next s') (h : Goes source s' r₁ x r₂) :
    Goes source s r x r₂ := by
  obtain ht | ⟨s₁, ha, ht⟩ := s.turn_cases t
  · exact .next hr (by rw [ht, hs]; rfl) h
  · exact .again hr ha (.next (Reader.scan_handBack hr) (by rw [ht, hs]; rfl) h)

/-- So is a step that ends the parse. -/
lemma of_stop (hr : r.scan source = (t, r₁)) (hs : s.step t = .stop x) :
    Goes source s r x (if x.consumed then r₁ else r₁.handBack t) := by
  obtain ht | ⟨s₁, ha, ht⟩ := s.turn_cases t
  · exact .stop hr (by rw [ht, hs]; rfl)
  · exact .again hr ha (.stop (Reader.scan_handBack hr) (by rw [ht, hs]; rfl))

/-- The token at hand tells how a parse goes on. -/
lemma of_scan (h : Goes source s r x r₂) (hr : r.scan source = (t, r₁)) :
    match s.turn t with
    | .next s' => Goes source s' r₁ x r₂
    | .again s' => Goes source s' (r₁.handBack t) x r₂
    | .stop y => x = y ∧ r₂ = if y.consumed then r₁ else r₁.handBack t := by
  cases h with
  | next hr' ht h =>
    cases hr.symm.trans hr'
    rw [ht]
    exact h
  | again hr' ht h =>
    cases hr.symm.trans hr'
    rw [ht]
    exact h
  | stop hr' ht =>
    cases hr.symm.trans hr'
    rw [ht]
    exact ⟨rfl, rfl⟩

/-- A parse has one end. -/
theorem unique {x' : Stop} {r' : Reader} (h : Goes source s r x r₂) (h' : Goes source s r x' r') :
    x' = x ∧ r' = r₂ := by
  induction h with
  | next hr ht _ ih | again hr ht _ ih =>
    have h' := h'.of_scan hr
    rw [ht] at h'
    exact ih h'
  | stop hr ht =>
    have h' := h'.of_scan hr
    rwa [ht] at h'

end Goes
namespace State

/-- The depth counts the open parentheses. -/
def IsLevel (s : State) : Prop := s.memory.depth = s.frames.length

variable {s s' : State} {t : Token} {x : Stop}

lemma IsLevel.readPart (hs : s.IsLevel) {l : PartialLiteral} (h : s.readPart l t = .next s') : s'.IsLevel := by
  unfold State.readPart at h
  split at h
  · split at h <;> cases h
    exact hs
  · split at h
    · cases h
    · split at h <;> cases h
      exact hs

lemma IsLevel.proceed (hs : s.IsLevel) {r : Except ParseError Pending} (h : s.proceed r = .next s') : s'.IsLevel := by
  obtain ⟨p, -, rfl⟩ := proceed_next h
  exact hs

lemma IsLevel.openGroup (hs : s.IsLevel) {lparen : Token} {negation : Option Token}
    (h : s.openGroup lparen negation = .next s') : s'.IsLevel := by
  cases h
  simp only [IsLevel] at hs ⊢
  rw [hs, List.length_cons]
  rfl

/-- The depth is lowered before the group is closed. -/
lemma isLevel_of_close (hs : s.memory.depth + 1 = s.frames.length) (h : s.close t = .next s') : s'.IsLevel := by
  obtain ⟨-, f, frames, p, hf, -, -, rfl⟩ := close_next h
  rw [hf, List.length_cons] at hs
  simp only [IsLevel]
  omega

lemma not_eof_of_close (h : s.close t = .next s') : t.kind ≠ .eof := by
  intro hk
  unfold close at h
  split at h
  · cases h
  · split at h
    · cases h
    · split at h <;> cases h

lemma not_eof_of_stepReady (h : s.stepReady t = .next s') : t.kind ≠ .eof := by
  intro hk
  simp only [stepReady, hk] at h
  exact not_eof_of_close h hk

/-- The end of the text ends the parse. -/
theorem not_eof_of_step (h : s.step t = .next s') : t.kind ≠ .eof := by
  intro hk
  rw [step] at h
  cases hm : s.mode <;> simp only [hm] at h
  case ready => exact not_eof_of_stepReady h hk
  case negated =>
    simp only [stepNegated, hk, Token.Kind.name?] at h
    split at h <;> cases h
  case literal =>
    simp only [stepLiteral, hk] at h
    split at h
    · cases h
    · exact not_eof_of_stepReady h hk

lemma IsLevel.stepReady (hs : s.IsLevel) (h : s.stepReady t = .next s') : s'.IsLevel := by
  rw [State.stepReady] at h
  cases hk : t.kind <;> simp only [hk] at h
  case lparen => exact hs.openGroup h
  case tag | fieldPath => exact hs.readPart h
  case and | or => exact hs.proceed h
  case not | whitespace =>
    cases h
    exact hs
  case rparen =>
    refine isLevel_of_close ?_ h
    simp only [IsLevel] at hs ⊢
    omega
  case eof => exact absurd hk (not_eof_of_close h)
  case unknown => cases h

lemma IsLevel.stepNegated (hs : s.IsLevel) {n : Token} (h : s.stepNegated n t = .next s') : s'.IsLevel := by
  rw [State.stepNegated] at h
  split at h
  next => exact hs.readPart h
  next => exact hs.readPart h
  next => exact hs.openGroup h
  next =>
    cases h
    exact hs
  next =>
    split at h
    · cases h
    · split at h <;> cases h

lemma IsLevel.literal (hs : s.IsLevel) (l : PartialLiteral) (p : Pending) :
    IsLevel { s with memory := s.memory.record l, pending := p, mode := .ready } := hs

/-- Every step that goes on keeps count of the open parentheses. -/
theorem IsLevel.step (hs : s.IsLevel) (h : s.step t = .next s') : s'.IsLevel := by
  rw [State.step] at h
  cases hm : s.mode <;> simp only [hm] at h
  case ready => exact hs.stepReady h
  case negated => exact hs.stepNegated h
  case literal l =>
    obtain hl | hl | ⟨e, -, hl⟩ | ⟨p, hl⟩ := s.stepLiteral_cases l t <;> rw [hl] at h
    · exact hs.readPart h
    · cases h
      exact hs
    · cases h
    · exact (hs.literal l p).stepReady h

/-- A step that ends the parse with a tree does so at the end of the text, which it uses up, with nothing open. -/
lemma IsLevel.stepReady_stop (hs : s.IsLevel) (h : s.stepReady t = .stop x) :
    x.IsReport ∨ ∃ e, x = ⟨.ok e, s.memory, true⟩ ∧ s.memory.depth = 0 ∧ t.kind = .eof := by
  rw [State.stepReady] at h
  cases hk : t.kind <;> simp only [hk] at h
  case lparen | not | whitespace => cases h
  case tag | fieldPath => exact .inl (mayReport_readPart _ _ _ x h)
  case and | or => exact .inl (mayReport_proceed _ (fun _ => Pending.connect_error) x h)
  case unknown => exact .inl (mayReport_fail _ _ (by simp) x h)
  case rparen =>
    obtain hr | ⟨e, -, hd, hf, -⟩ := close_stop h
    · exact .inl hr
    · -- With no group open the parenthesis takes the depth below zero.
      simp only [IsLevel] at hs hd hf
      rw [hf, List.length_nil] at hs
      omega
  case eof =>
    obtain hr | ⟨e, rfl, -, hf, -⟩ := close_stop h
    · exact .inl hr
    · refine .inr ⟨e, rfl, ?_, rfl⟩
      rw [hs, hf]
      rfl

/-- So does every step that ends the parse with a tree. -/
theorem IsLevel.step_stop (hs : s.IsLevel) (ht : t.kind = .unknown → t.value ≠ "") (h : s.step t = .stop x) :
    x.IsReport ∨ ∃ e memory, x = ⟨.ok e, memory, true⟩ ∧ memory.depth = 0 ∧ t.kind = .eof := by
  rw [State.step] at h
  cases hm : s.mode <;> simp only [hm] at h
  case ready =>
    obtain hr | ⟨e, rfl, hd, hk⟩ := hs.stepReady_stop h
    · exact .inl hr
    · exact .inr ⟨e, _, rfl, hd, hk⟩
  case negated n => exact .inl (mayReport_stepNegated s n ht x h)
  case literal l =>
    obtain hl | hl | ⟨e, he, hl⟩ | ⟨p, hl⟩ := s.stepLiteral_cases l t <;> rw [hl] at h
    · exact .inl (mayReport_readPart _ _ _ x h)
    · cases h
    · cases h
      exact .inl ⟨e, rfl, Pending.attach_error he⟩
    · obtain hr | ⟨e, rfl, hd, hk⟩ := (hs.literal l p).stepReady_stop h
      · exact .inl hr
      · exact .inr ⟨e, _, rfl, hd, hk⟩

end State

/-- A parse with its reader ends as the run of the machine does. If that is with a tree, nothing is left open, and all
tokens were asked for and the end of the text once. -/
theorem exists_goes {source : Nat → Token} {position : Int} (us : List Token) {k : Nat}
    (hsource : ∀ i, source (k + i) = supply us position i) {s : State} (hs : s.IsLevel)
    (hu : ∀ t ∈ us, t.kind ≠ .eof ∧ (t.kind = .unknown → t.value ≠ "")) :
    let m := run (.eof position) s (us.map .ok)
    ∃ x r, Goes source s ⟨k, none⟩ x r ∧ m.result = x.result.mapError .parse ∧ m.memory = x.memory ∧
      (x.IsReport ∨ ∃ e, x.result = .ok e ∧ x.memory.depth = 0 ∧ m.rest = [] ∧ r = ⟨k + us.length + 1, none⟩) := by
  induction us generalizing s k with
  | nil =>
    have hscan : Reader.scan source ⟨k, none⟩ = (.eof position, ⟨k + 1, none⟩) := by
      rw [Reader.scan, ← Nat.add_zero k, hsource]
      rfl
    simp only [List.map_nil, run]
    cases hstep : s.step (.eof position) with
    | next s' => exact absurd rfl (State.not_eof_of_step hstep)
    | stop x =>
      refine ⟨x, _, .of_stop hscan hstep, rfl, rfl, ?_⟩
      obtain hr | ⟨e, memory, rfl, hd, -⟩ := hs.step_stop (by simp [Token.eof]) hstep
      · exact .inl hr
      · exact .inr ⟨e, rfl, hd, rfl, rfl⟩
  | cons t us ih =>
    obtain ⟨⟨hk, ht⟩, hu⟩ := List.forall_mem_cons.1 hu
    have hscan : Reader.scan source ⟨k, none⟩ = (t, ⟨k + 1, none⟩) := by
      rw [Reader.scan, ← Nat.add_zero k, hsource]
      rfl
    simp only [List.map_cons, run]
    cases hstep : s.step t with
    | next s' =>
      have hsource' : ∀ i, source (k + 1 + i) = supply us position i := by
        intro i
        rw [Nat.add_assoc, Nat.add_comm 1 i, hsource]
        rfl
      obtain ⟨x, r, hg, hresult, hmemory, hend⟩ := ih hsource' (hs.step hstep) hu
      refine ⟨x, r, .of_next hscan hstep hg, hresult, hmemory, hend.imp_right ?_⟩
      rintro ⟨e, he, hd, hrest, rfl⟩
      refine ⟨e, he, hd, hrest, ?_⟩
      rw [List.length_cons, Nat.add_assoc k 1, Nat.add_comm 1]
    | stop x =>
      refine ⟨x, _, .of_stop hscan hstep, rfl, rfl, ?_⟩
      obtain hr | ⟨e, memory, rfl, -, hk'⟩ := hs.step_stop ht hstep
      · exact .inl hr
      · exact absurd hk' hk

/-- At the end of the text nothing more is read, and nothing is changed. -/
lemma parse_at_end {memory : Memory} (hd : memory.depth = 0) (position : Int) :
    let p : Parser := ⟨⟨[], .eof position⟩, memory⟩
    p.parse = (.error (.parse ⟨.emptyExpression, .eof position⟩), p) := by
  simp [parse, run, State.step, State.stepReady, State.close, Pending.finalize, Pending.empty, Token.eof, hd,
    Except.mapError]

/-- Nor is anything, however often the parser is asked. -/
lemma asked_at_end {memory : Memory} (hd : memory.depth = 0) (position : Int) (n : Nat) :
    let p : Parser := ⟨⟨[], .eof position⟩, memory⟩
    p.asked n = p := by
  induction n with
  | zero => rfl
  | succ n ih =>
    intro p
    rw [asked, ih, parse_at_end hd]

lemma asked_succ (p : Parser) (n : Nat) : p.asked (n + 1) = p.parse.2.asked n := by
  induction n with
  | zero => rfl
  | succ n ih =>
    rw [asked, ih]
    rfl

/-- A new parser that is given any tokens of a text, and then its end for ever, comes to one end: an error about the
text, or a tree. After a tree the depth is what it was, no token is left, all tokens were asked for and the end of the
text once, and none is kept back; however often the parser is asked again, it says that there is nothing, and does not
change. -/
theorem parse_leaves_nothing_open (ts : List Token) (position : Int)
    (hts : ∀ t ∈ ts, t.kind ≠ .eof ∧ (t.kind = .unknown → t.value ≠ "")) :
    let p := ofFeed ⟨ts.map .ok, .eof position⟩
    ∃ x r, Goes (supply ts position) ⟨p.memory, .empty, [], .ready⟩ ⟨0, none⟩ x r ∧
      (∀ x' r', Goes (supply ts position) ⟨p.memory, .empty, [], .ready⟩ ⟨0, none⟩ x' r' → x' = x ∧ r' = r) ∧
      p.parse.1 = x.result.mapError .parse ∧ p.parse.2.memory = x.memory ∧
      ((∃ e, p.parse.1 = .error (.parse e) ∧ e.cause ≠ .namelessKind) ∨
        (∃ e, p.parse.1 = .ok e) ∧ p.parse.2.memory.depth = 0 ∧ p.parse.2.feed.items = [] ∧
        r = ⟨ts.length + 1, none⟩ ∧
        ∀ n, (p.asked (n + 1)).parse = (.error (.parse ⟨.emptyExpression, .eof position⟩), p.parse.2)) := by
  intro p
  have hsource : ∀ i, supply ts position (0 + i) = supply ts position i := fun i => by rw [Nat.zero_add]
  obtain ⟨x, r, hg, hresult, hmemory, hend⟩ :=
    exists_goes ts hsource (s := ⟨p.memory, .empty, [], .ready⟩) rfl hts
  refine ⟨x, r, hg, fun x' r' => hg.unique, hresult, hmemory, ?_⟩
  obtain ⟨e, he, hc⟩ | ⟨e, he, hd, hrest, rfl⟩ := hend
  · refine .inl ⟨e, ?_, hc⟩
    rw [he] at hresult
    exact hresult
  · rw [he] at hresult
    have hp : p.parse.2 = ⟨⟨[], .eof position⟩, x.memory⟩ := by
      rw [parse, ← hmemory]
      exact congrArg (fun items => Parser.mk ⟨items, .eof position⟩ _) hrest
    refine .inr ⟨⟨e, hresult⟩, by rw [hp]; exact hd, by rw [hp], by rw [Nat.zero_add], fun n => ?_⟩
    rw [asked_succ, hp, asked_at_end hd, parse_at_end hd]

theorem parse_leaves_nothing_open_blank_parts :
    let ts : List Token := [⟨.not, "NOT", 0⟩, ⟨.whitespace, " ", 3⟩, ⟨.lparen, "(", 4⟩, ⟨.tag, "", 5⟩,
      ⟨.whitespace, "", 7⟩, ⟨.tag, "a", 7⟩, ⟨.fieldPath, "", 8⟩, ⟨.fieldPath, "b", 9⟩, ⟨.rparen, ")", 10⟩]
    let p := ofFeed ⟨ts.map .ok, .eof 11⟩
    p.parse.1 = .ok (.not (.unit ⟨"a", "b"⟩)) ∧ p.parse.2.memory = ⟨0, ["a"], ["b"]⟩ ∧
    (∃ x, Goes (supply ts 11) ⟨p.memory, .empty, [], .ready⟩ ⟨0, none⟩ x ⟨10, none⟩) ∧
    ∀ n, (p.asked (n + 1)).parse = (.error (.parse ⟨.emptyExpression, .eof 11⟩), p.parse.2) := by
  intro ts p
  have hp : p.parse.1 = .ok (.not (.unit ⟨"a", "b"⟩)) := by decide +kernel
  have hts : ∀ t ∈ ts, t.kind ≠ .eof ∧ (t.kind = .unknown → t.value ≠ "") := by decide
  obtain ⟨x, r, hg, -, -, -, ⟨e, he, -⟩ | ⟨-, -, -, rfl, hn⟩⟩ := parse_leaves_nothing_open ts 11 hts
  · rw [hp] at he
    cases he
  · exact ⟨hp, by decide +kernel, ⟨x, hg⟩, hn⟩

end Parser
end TagRules
