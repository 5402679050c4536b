import TagRules.Proofs.Token.Tiling

/-!
What a literal is, place by place. A backslash takes the character behind it, whatever that is, unless it is taken
itself; the literal ends at the first quote that is not taken, its name at the first colon that is not, and what is
meant is the text without the backslashes that take something. So every way of writing a name and a path with enough
backslashes is read as that name and that path.
-/
namespace TagRules
namespace Literal

/-- Whether a backslash takes the character at a place: one stands before it and is not taken itself. -/
def taken (cs : List Char) : Nat → Bool
  | 0 => false
  | i + 1 => cs[i]? == some '\\' && !taken cs i

/-- A character stands at a place, and no backslash takes it. -/
def StandsFree (cs : List Char) (c : Char) (i : Nat) : Prop := cs[i]? = some c ∧ taken cs i = false

/-- The first place where a character stands and is not taken. -/
structure StandsFirst (cs : List Char) (c : Char) (i : Nat) : Prop where
  free : StandsFree cs c i
  first : ∀ j < i, ¬ StandsFree cs c j

instance (cs : List Char) (c : Char) (i : Nat) : Decidable (StandsFree cs c i) := inferInstanceAs (Decidable (_ ∧ _))

instance (cs : List Char) (c : Char) (i : Nat) : Decidable (StandsFirst cs c i) :=
  decidable_of_iff (StandsFree cs c i ∧ ∀ j < i, ¬ StandsFree cs c j) ⟨fun h => ⟨h.1, h.2⟩, fun h => ⟨h.free, h.first⟩⟩

/-- A text without the backslashes that take a character. -/
def unescaped : List Char → List Char
  | [] => []
  | '\\' :: c :: rest => c :: unescaped rest
  | c :: rest => c :: unescaped rest

section

variable {cs : List Char} {c d : Char} {i j : Nat}

lemma taken_behind_escape (d : Char) (cs : List Char) (i : Nat) : taken ('\\' :: d :: cs) (i + 2) = taken cs i := by
  induction i with
  | zero => simp [taken]
  | succ i ih => rw [taken, ih, taken, List.getElem?_cons_succ, List.getElem?_cons_succ]

lemma taken_behind_plain (h : d ≠ '\\') (cs : List Char) (i : Nat) : taken (d :: cs) (i + 1) = taken cs i := by
  induction i with
  | zero => simp [taken, h]
  | succ i ih => rw [taken, ih, taken, List.getElem?_cons_succ]

lemma not_standsFree_nil : ¬ StandsFree [] c i := fun h => by simp [StandsFree] at h

lemma StandsFirst.unique (h : StandsFirst cs c i) (h' : StandsFirst cs c j) : i = j := by
  obtain hij | hij | hij := Nat.lt_trichotomy i j
  · exact absurd h.free (h'.first i hij)
  · exact hij
  · exact absurd h'.free (h.first j hij)

/-- In front of a text a piece hides none of its places, and has none of its own unless it is the character itself. -/
lemma standsFree_source_append (hc : c ≠ '\\') {p : Piece} (hb : p ≠ .plain '\\') (hp : p ≠ .plain c) :
    StandsFree (p.source ++ cs) c i ↔ p.source.length ≤ i ∧ StandsFree cs c (i - p.source.length) := by
  cases p with
  | plain d =>
    have hd : d ≠ '\\' := fun h => hb (congrArg Piece.plain h)
    have hdc : d ≠ c := fun h => hp (congrArg Piece.plain h)
    cases i with
    | zero => simp [StandsFree, Piece.source, hdc]
    | succ i => simp [StandsFree, Piece.source, taken_behind_plain hd]
  | escaped d =>
    obtain _ | _ | i := i
    · simp [StandsFree, Piece.source, hc.symm]
    · simp [StandsFree, Piece.source, taken]
    · simp [StandsFree, Piece.source, taken_behind_escape]

/-- The same for a run of such pieces. -/
lemma standsFree_append (hc : c ≠ '\\') {ps : List Piece} (hb : .plain '\\' ∉ ps) (hp : .plain c ∉ ps) :
    StandsFree (source ps ++ cs) c i ↔ (source ps).length ≤ i ∧ StandsFree cs c (i - (source ps).length) := by
  induction ps generalizing i with
  | nil => simp [source]
  | cons p ps ih =>
    have hfree := @standsFree_source_append (source ps ++ cs) c i hc p (List.ne_of_not_mem_cons hb).symm
      (List.ne_of_not_mem_cons hp).symm
    have hrest := @ih (i - p.source.length) (List.not_mem_of_not_mem_cons hb) (List.not_mem_of_not_mem_cons hp)
    rw [source_cons, List.append_assoc, hfree, hrest, List.length_append, Nat.sub_sub]
    constructor
    · rintro ⟨h₁, h₂, h₃⟩
      exact ⟨by omega, h₃⟩
    · rintro ⟨h₁, h₂⟩
      exact ⟨by omega, by omega, h₂⟩

/-- Behind pieces that are not it, a character comes first. -/
lemma standsFirst_append (hc : c ≠ '\\') {ps : List Piece} (hb : .plain '\\' ∉ ps) (hp : .plain c ∉ ps)
    (cs : List Char) : StandsFirst (source ps ++ c :: cs) c (source ps).length := by
  constructor
  · rw [standsFree_append hc hb hp, Nat.sub_self]
    exact ⟨Nat.le_refl _, rfl, rfl⟩
  · intro j hj
    rw [standsFree_append hc hb hp]
    omega

/-- And in such pieces alone it does not stand at all. -/
lemma not_standsFree_source (hc : c ≠ '\\') {ps : List Piece} (hb : .plain '\\' ∉ ps) (hp : .plain c ∉ ps) :
    ¬ StandsFree (source ps) c i := by
  rw [← List.append_nil (source ps), standsFree_append hc hb hp]
  exact fun ⟨_, h⟩ => not_standsFree_nil h

end

lemma unescaped_source {ps : List Piece} (hb : .plain '\\' ∉ ps) : unescaped (source ps) = decode ps := by
  induction ps with
  | nil => rfl
  | cons p ps ih =>
    have hd : decode (p :: ps) = p.char :: decode ps := rfl
    rw [source_cons, hd, ← ih (List.not_mem_of_not_mem_cons hb)]
    cases p with
    | escaped c => rfl
    | plain c =>
      have hc : c ≠ '\\' := fun hc => List.ne_of_not_mem_cons hb (congrArg Piece.plain hc.symm)
      simp [Piece.source, Piece.char, unescaped, hc]

lemma not_standsFree_of_body? {cs : List Char} (h : body? cs = none) (i : Nat) : ¬ StandsFree cs '"' i := by
  induction cs using body?.induct generalizing i with
  | case1 => exact not_standsFree_nil
  | case2 => simp [body?] at h
  | case3 c rest ih =>
    have hr : body? rest = none := by simpa [body?] using h
    have hs := @standsFree_source_append rest '"' i (by decide) (.escaped c) (by simp) (by simp)
    exact fun hf => ih hr _ (hs.1 hf).2
  | case4 c rest hq hb ih =>
    rw [body?] at h <;> try assumption
    have hr : body? rest = none := by simpa using h
    rintro hf
    by_cases hc : c = '\\'
    · -- A backslash at the end of the text takes nothing, and is no quote.
      subst hc
      obtain rfl : rest = [] := by
        cases rest with
        | nil => rfl
        | cons d rest => exact (hb d rest rfl rfl).elim
      cases i with
      | zero => simp [StandsFree] at hf
      | succ i => simp [StandsFree] at hf
    · have hp : Piece.plain c ≠ .plain '"' := fun h => hq (Piece.plain.inj h)
      have hs := @standsFree_source_append rest '"' i (by decide) (.plain c) (by simpa using hc) hp
      exact ih hr _ (hs.1 hf).2

/-- The quote that ends a literal is the first free one. -/
lemma standsFirst_of_body? {cs rest : List Char} {ps : List Piece} (h : body? cs = some (ps, rest)) :
    StandsFirst cs '"' (source ps).length ∧ .plain '\\' ∉ ps := by
  have hin : ∀ p ∈ ps, p.IsInner := isInner_of_body? h
  have hq : Piece.plain '"' ∉ ps := fun hm => (hin _ hm).1 rfl
  have hb : Piece.plain '\\' ∉ ps := fun hm => (hin _ hm).2 rfl
  have hcs : source ps ++ '"' :: rest = cs := source_of_body? h
  rw [← hcs]
  exact ⟨standsFirst_append (by decide) hb hq rest, hb⟩

/-- Where a free quote comes first, the literal ends. -/
lemma body?_of_standsFirst {cs : List Char} {n : Nat} (h : StandsFirst cs '"' n) :
    ∃ ps, body? cs = some (ps, cs.drop (n + 1)) ∧ source ps = cs.take n ∧ .plain '\\' ∉ ps := by
  cases hbody : body? cs with
  | none => exact absurd h.free (not_standsFree_of_body? hbody n)
  | some r =>
    obtain ⟨ps, rest⟩ := r
    obtain ⟨hs, hb⟩ := standsFirst_of_body? hbody
    obtain rfl : n = (source ps).length := h.unique hs
    have hcs : source ps ++ '"' :: rest = cs := source_of_body? hbody
    refine ⟨ps, ?_, ?_, hb⟩
    · rw [← hcs, List.drop_length_add_append]
      rfl
    · rw [← hcs, List.take_left]

/-- A text between quotes, cut at its first free colon: the name before it and, with the place where it begins, the
path behind it. -/
inductive Splits (inner : List Char) : List Char → Option (Nat × List Char) → Prop
  | anywhere : (∀ m, ¬ StandsFree inner ':' m) → Splits inner (unescaped inner) none
  | under {m : Nat} : StandsFirst inner ':' m →
      Splits inner (unescaped (inner.take m)) (some (m + 1, unescaped (inner.drop (m + 1))))

section

variable {inner name name' : List Char} {path path' : Option (Nat × List Char)}

lemma Splits.unique (h : Splits inner name path) (h' : Splits inner name' path') : name = name' ∧ path = path' := by
  cases h with
  | anywhere hn =>
    cases h' with
    | anywhere => exact ⟨rfl, rfl⟩
    | under hm => exact absurd hm.free (hn _)
  | under hm =>
    cases h' with
    | anywhere hn => exact absurd hm.free (hn _)
    | under hm' =>
      obtain rfl := hm.unique hm'
      exact ⟨rfl, rfl⟩

lemma splits_source {ps : List Piece} (hb : .plain '\\' ∉ ps) : Splits (source ps) (decode (namePieces ps))
    ((pathPieces? ps).map fun rs => ((source (namePieces ps)).length + 1, decode rs)) := by
  by_cases hs : .plain ':' ∈ ps
  · obtain ⟨qs, rs, rfl, hq⟩ := List.eq_append_cons_of_mem hs
    obtain ⟨hbq, hbr⟩ : .plain '\\' ∉ qs ∧ .plain '\\' ∉ rs := by simpa using hb
    have hsource : source (qs ++ .plain ':' :: rs) = source qs ++ ':' :: source rs := by simp [Piece.source]
    have hm := @Splits.under _ _ (standsFirst_append (by decide) hbq hq (source rs))
    rw [List.take_left, List.drop_length_add_append, List.drop_one, List.tail_cons, unescaped_source hbq,
      unescaped_source hbr] at hm
    rw [namePieces_append hq, pathPieces?_append hq, hsource]
    exact hm
  · rw [namePieces_of_not_mem hs, pathPieces?_of_not_mem hs, ← unescaped_source hb]
    exact .anywhere fun m => not_standsFree_source (by decide) hb hs

end

end Literal
namespace Scan

open Literal

/-- A literal is scanned as the name and the path that it is cut into, unless the name is empty or the path is none. -/
lemma literal_of_splits {ps : List Piece} {name : List Char} {path : Option (Nat × List Char)}
    (hb : .plain '\\' ∉ ps) (h : Splits (source ps) name path) (rest : List Char) (position : Nat) :
    literal ps rest position =
      ⟨if name = [] then .error ⟨.emptyName, .ofList ('"' :: source ps ++ ['"']), position⟩
        else if ∃ p ∈ path, [] ∈ p.2.splitOn '.' then
          .error ⟨.invalidPath, .ofList ('"' :: source ps ++ ['"']), position⟩
        else .ok (⟨.tag, .ofList name, position⟩,
          path.map fun p => ⟨.fieldPath, .ofList p.2, ↑(position + 1 + p.1)⟩),
        rest, position + (source ps).length + 2⟩ := by
  obtain ⟨rfl, rfl⟩ := (splits_source hb).unique h
  simp only [literal, List.isEmpty_iff]
  by_cases hn : decode (namePieces ps) = []
  · simp [hn]
  · cases hp : pathPieces? ps with
    | none => simp [hn]
    | some rs =>
      by_cases hv : [] ∈ (decode rs).splitOn '.'
      · simp [hn, hv, validPath]
      · simp [hn, hv, validPath, Nat.add_assoc]

lemma head_quote (caseSensitive : Bool) (cs : List Char) (position : Nat) :
    head caseSensitive ('"' :: cs) position =
      match body? cs with
      | none => stuck .unterminatedLiteral ('"' :: cs) ('"' :: cs) position
      | some (ps, after) => literal ps after position := rfl

end Scan

/-- The characters that mean something in a field path; a colon stands for itself there. -/
def isSpecialInPath (c : Char) : Bool := c = '"' || c = '\\'

namespace Literal

/-- A text with a backslash before some of its characters, the special ones among them. -/
inductive Writes (special : Char → Bool) : List Char → List Char → Prop
  | nil : Writes special [] []
  | plain {c : Char} {text written : List Char} : special c = false → Writes special text written →
      Writes special (c :: text) (c :: written)
  | escaped (c : Char) {text written : List Char} : Writes special text written →
      Writes special (c :: text) ('\\' :: c :: written)

/-- A text that may stand between quotes for a name and a path, with the place where the path begins. -/
inductive Encodes : List Char → Option (Nat × List Char) → List Char → Prop
  | anywhere {name written : List Char} : Writes isSpecial name written → Encodes name none written
  | under {name path written written' : List Char} : Writes isSpecial name written →
      Writes isSpecialInPath path written' →
      Encodes name (some (written.length + 1, path)) (written ++ ':' :: written')

lemma Writes.exists_pieces {special : Char → Bool} {text written : List Char} (h : Writes special text written) :
    ∃ ps, source ps = written ∧ decode ps = text ∧ ∀ c, special c = true → .plain c ∉ ps := by
  induction h with
  | nil => exact ⟨[], rfl, rfl, by simp⟩
  | @plain c text written hc _ ih =>
    obtain ⟨ps, rfl, rfl, hp⟩ := ih
    refine ⟨.plain c :: ps, rfl, rfl, fun d hd => ?_⟩
    have hdc : d ≠ c := fun h => by simp [h, hc] at hd
    simpa [hdc] using hp d hd
  | escaped c _ ih =>
    obtain ⟨ps, rfl, rfl, hp⟩ := ih
    exact ⟨.escaped c :: ps, rfl, rfl, fun d hd => by simpa using hp d hd⟩

variable {name inner : List Char} {path : Option (Nat × List Char)}

/-- What is written for a name and a path is made of pieces without a bare quote or backslash, and is cut into this name
and this path. -/
lemma Encodes.exists_pieces (h : Encodes name path inner) :
    ∃ ps, source ps = inner ∧ .plain '"' ∉ ps ∧ .plain '\\' ∉ ps ∧ Splits inner name path := by
  cases h with
  | anywhere hw =>
    obtain ⟨ps, rfl, rfl, hp⟩ := hw.exists_pieces
    have hs := splits_source (hp '\\' rfl)
    rw [namePieces_of_not_mem (hp ':' rfl), pathPieces?_of_not_mem (hp ':' rfl)] at hs
    exact ⟨ps, rfl, hp '"' rfl, hp '\\' rfl, hs⟩
  | under hw hw' =>
    obtain ⟨qs, rfl, rfl, hq⟩ := hw.exists_pieces
    obtain ⟨rs, rfl, rfl, hr⟩ := hw'.exists_pieces
    have hsource : source (qs ++ .plain ':' :: rs) = source qs ++ ':' :: source rs := by simp [Piece.source]
    have hb : .plain '\\' ∉ qs ++ .plain ':' :: rs := by simp [hq '\\' rfl, hr '\\' rfl]
    have hs := splits_source hb
    rw [namePieces_append (hq ':' rfl), pathPieces?_append (hq ':' rfl), hsource] at hs
    exact ⟨qs ++ .plain ':' :: rs, hsource, by simp [hq '"' rfl, hr '"' rfl], hb, hs⟩

end Literal

open Literal

section

variable {name inner : List Char} {path : Option (Nat × List Char)}

/-- What is written is scanned as what it is written for. -/
lemma Scan.head_encoded (h : Encodes name path inner) (hn : name ≠ []) (hp : ∀ p ∈ path, [] ∉ p.2.splitOn '.')
    (caseSensitive : Bool) (rest : List Char) (position : Nat) :
    head caseSensitive ('"' :: (inner ++ '"' :: rest)) position =
      ⟨.ok (⟨.tag, .ofList name, position⟩,
        path.map fun p => ⟨.fieldPath, .ofList p.2, ↑(position + 1 + p.1)⟩), rest, position + inner.length + 2⟩ := by
  obtain ⟨ps, rfl, hq, hb, hs⟩ := h.exists_pieces
  have hin : ∀ p ∈ ps, p.IsInner := fun _ hm => ⟨fun h => hq (h ▸ hm), fun h => hb (h ▸ hm)⟩
  rw [Scan.head_literal hin, Scan.literal_of_splits hb hs, if_neg hn, if_neg (by simpa using hp)]

lemma tokenize_encoded (h : Encodes name path inner) (hn : name ≠ []) (hp : ∀ p ∈ path, [] ∉ p.2.splitOn '.')
    {source : String} (hsource : source.toList = '"' :: (inner ++ ['"'])) (caseSensitive : Bool) :
    tokenize source caseSensitive = .ok (⟨.tag, .ofList name, 0⟩ ::
      (path.map fun p => ⟨.fieldPath, .ofList p.2, ↑(1 + p.1)⟩).toList ++ [.eof source.length]) := by
  have hh := Scan.head_encoded h hn hp caseSensitive [] 0
  have hl : source.length = 0 + inner.length + 2 := by
    rw [← String.length_toList, hsource]
    simp
  have hs := Feed.scan_of_head hh (by omega)
  rw [Feed.scan_nil, ← hsource] at hs
  refine tokenize_eq_ok.2 ⟨_, _, ?_, ?_, rfl⟩
  · rw [Feed.ofSource, hs, Feed.prepend, List.append_nil]
    simp
  · rw [Feed.ofSource, hs, Feed.prepend, hl]

end

namespace Lexer

/-- A reader that stands at a place of a text. -/
def startingAt (source : String) (caseSensitive : Bool) (position : Nat) : Lexer :=
  ⟨caseSensitive, source.toList.drop position, position, none⟩

/-- A reader fails where it stands, for a reason and with the text that it could not read, and goes on as another. -/
def Fails (l : Lexer) (reason : String) (fragment : List Char) (l' : Lexer) : Prop :=
  ∃ cause : LexError.Cause, cause.text = reason ∧ l.next = (.error ⟨cause, .ofList fragment, l.position⟩, l')

/-- A reader gives a name where it stands and, if there is a path, the path at its place within the quotes, and goes on
as another. -/
def Gives (l : Lexer) (name : List Char) : Option (Nat × List Char) → Lexer → Prop
  | none, l' => l.next = (.ok ⟨.tag, .ofList name, l.position⟩, l')
  | some (place, path), l' => l.next.1 = .ok ⟨.tag, .ofList name, l.position⟩ ∧
      l.next.2.next = (.ok ⟨.fieldPath, .ofList path, ↑(l.position + 1 + place)⟩, l')

section

variable {source : String} {caseSensitive : Bool} {position after : Nat} {rest : List Char}

lemma fails_of_error {cause : LexError.Cause} {fragment : List Char}
    (h : Scan.head caseSensitive (source.toList.drop position) position =
      ⟨.error ⟨cause, .ofList fragment, position⟩, rest, after⟩)
    (hr : source.toList.drop after = rest) :
    (startingAt source caseSensitive position).Fails cause.text fragment (startingAt source caseSensitive after) :=
  ⟨cause, rfl, by simp only [next, startingAt, h, hr]⟩

lemma gives_of_ok {name : List Char} {path : Option (Nat × List Char)}
    (h : Scan.head caseSensitive (source.toList.drop position) position = ⟨.ok (⟨.tag, .ofList name, position⟩,
      path.map fun p => ⟨.fieldPath, .ofList p.2, ↑(position + 1 + p.1)⟩), rest, after⟩)
    (hr : source.toList.drop after = rest) :
    (startingAt source caseSensitive position).Gives name path (startingAt source caseSensitive after) := by
  cases path with
  | none => simp only [Gives, next, startingAt, h, hr, Option.map_none]
  | some p => simp [Gives, next, startingAt, h, hr]

variable {behind : List Char} (hs : source.toList.drop position = '"' :: behind)

include hs

lemma drop_behind (n : Nat) : source.toList.drop (position + 1 + n) = behind.drop n := by
  rw [← List.drop_drop, List.drop_add_one_eq_tail_drop, hs, List.tail_cons]

lemma fails_of_open (ho : ∀ n, ¬ StandsFree behind '"' n) :
    (startingAt source caseSensitive position).Fails "Unterminated tag literal" ('"' :: behind)
      (startingAt source caseSensitive position) := by
  have hbody : body? behind = none := by
    rw [Option.eq_none_iff_forall_ne_some]
    exact fun r hr => ho _ (standsFirst_of_body? hr).1.free
  have hhead : Scan.head caseSensitive (source.toList.drop position) position =
      ⟨.error ⟨.unterminatedLiteral, .ofList ('"' :: behind), position⟩, '"' :: behind, position⟩ := by
    rw [hs, Scan.head_quote, hbody]
    rfl
  exact fails_of_error hhead hs

/-- What is between quotes is read as the name and the path that it is cut into. -/
lemma reads_of_closed {n : Nat} (hn : StandsFirst behind '"' n) {name : List Char} {path : Option (Nat × List Char)}
    (hp : Splits (behind.take n) name path) :
    let l := startingAt source caseSensitive position
    let l' := startingAt source caseSensitive (position + n + 2)
    let fragment := '"' :: behind.take n ++ ['"']
    if name = [] then l.Fails "Empty tag name" fragment l'
    else if ∃ p ∈ path, [] ∈ p.2.splitOn '.' then l.Fails "Invalid field path" fragment l'
    else l.Gives name path l' := by
  intro l l' fragment
  obtain ⟨ps, hbody, hinner, hback⟩ := body?_of_standsFirst hn
  have hlen : (Literal.source ps).length = n := by
    have hlt := (List.getElem?_eq_some_iff.1 hn.free.1).1
    rw [hinner, List.length_take]
    omega
  have hrest : source.toList.drop (position + n + 2) = behind.drop (n + 1) := by
    rw [← drop_behind hs]
    congr 1
    omega
  have hhead : Scan.head caseSensitive (source.toList.drop position) position =
      Scan.literal ps (behind.drop (n + 1)) position := by
    rw [hs, Scan.head_quote, hbody]
  rw [← hinner] at hp
  rw [Scan.literal_of_splits hback hp, hlen, hinner] at hhead
  by_cases h₁ : name = []
  · rw [if_pos h₁] at hhead ⊢
    exact fails_of_error hhead hrest
  · by_cases h₂ : ∃ p ∈ path, [] ∈ p.2.splitOn '.'
    · rw [if_neg h₁, if_pos h₂] at hhead ⊢
      exact fails_of_error hhead hrest
    · rw [if_neg h₁, if_neg h₂] at hhead ⊢
      exact gives_of_ok hhead hrest

lemma gives_of_encoded {name inner back : List Char} {path : Option (Nat × List Char)} (he : Encodes name path inner)
    (hn : name ≠ []) (hp : ∀ p ∈ path, [] ∉ p.2.splitOn '.') (hb : behind = inner ++ '"' :: back) :
    (startingAt source caseSensitive position).Gives name path
      (startingAt source caseSensitive (position + inner.length + 2)) := by
  have hhead := Scan.head_encoded he hn hp caseSensitive back position
  rw [← hb, ← hs] at hhead
  apply gives_of_ok hhead
  have hlen : position + inner.length + 2 = position + 1 + (inner.length + 1) := by omega
  rw [hlen, drop_behind hs, hb, List.drop_length_add_append]
  rfl

end

/-- What a reader gives that stands at a quote. If no quote behind it is free, the literal is not closed, and the reader
stays. Otherwise the literal ends at the first one that is; it is cut into one name and one path, if any, and these are
read unless the name is empty or else the path has an empty part. And however a name and a path are written with a
backslash before all that is special in them, they are read from it. -/
theorem literal_at_quote {source : String} {position : Nat} (h : source.toList[position]? = some '"')
    (caseSensitive : Bool) :
    let l := startingAt source caseSensitive position
    let behind := source.toList.drop (position + 1)
    ((∀ n, ¬ StandsFree behind '"' n) →
      l.Fails "Unterminated tag literal" (source.toList.drop position) l) ∧
    (∀ n, StandsFirst behind '"' n →
      let inner := behind.take n
      let fragment := '"' :: inner ++ ['"']
      let l' := startingAt source caseSensitive (position + n + 2)
      (∃ name path, Splits inner name path) ∧ ∀ name path, Splits inner name path →
        if name = [] then l.Fails "Empty tag name" fragment l'
        else if ∃ p ∈ path, [] ∈ p.2.splitOn '.' then l.Fails "Invalid field path" fragment l'
        else l.Gives name path l') ∧
    ∀ name path inner back, name ≠ [] → (∀ p ∈ path, [] ∉ p.2.splitOn '.') → Encodes name path inner →
      behind = inner ++ '"' :: back →
      l.Gives name path (startingAt source caseSensitive (position + inner.length + 2)) ∧
      (position = 0 → back = [] → tokenize source caseSensitive = .ok (⟨.tag, .ofList name, 0⟩ ::
        (path.map fun p => ⟨.fieldPath, .ofList p.2, ↑(1 + p.1)⟩).toList ++ [.eof source.length])) := by
  intro l behind
  obtain ⟨hlt, hc⟩ := List.getElem?_eq_some_iff.1 h
  have hs : source.toList.drop position = '"' :: behind := by
    rw [List.drop_eq_getElem_cons hlt, hc]
  refine ⟨fun ho => ?_, fun n hn => ⟨?_, fun name path hp => reads_of_closed hs hn hp⟩, ?_⟩
  · rw [hs]
    exact fails_of_open hs ho
  · obtain ⟨ps, -, hinner, hback⟩ := body?_of_standsFirst hn
    rw [← hinner]
    exact ⟨_, _, splits_source hback⟩
  · intro name path inner back hname hpath he hb
    refine ⟨gives_of_encoded hs he hname hpath hb, ?_⟩
    rintro rfl rfl
    exact tokenize_encoded he hname hpath (by rw [← hb, ← hs]; rfl) caseSensitive

theorem literal_at_quote_escaped :
    let source := "or \"a\\:\\\"b:c\\.d:e\\\\\" x"
    let behind := source.toList.drop 4
    let path := (7, "c.d:e\\".toList)
    source.toList[3]? = some '"' ∧ StandsFirst behind '"' 15 ∧ Splits (behind.take 15) "a:\"b".toList (some path) ∧
    (startingAt source false 3).Gives "a:\"b".toList (some path) (startingAt source false 20) := by
  intro source behind path
  have hq : source.toList[3]? = some '"' := by decide
  have hn : StandsFirst behind '"' 15 := by decide
  have hm : StandsFirst (behind.take 15) ':' 6 := by decide
  have hname : unescaped ((behind.take 15).take 6) = "a:\"b".toList := by decide
  have hpath : unescaped ((behind.take 15).drop 7) = path.2 := by decide
  have hs : Splits (behind.take 15) "a:\"b".toList (some path) := by
    have hu := Splits.under hm
    rwa [hname, hpath] at hu
  have hp : ¬ ∃ p ∈ some path, [] ∈ p.2.splitOn '.' := by
    simp only [Option.mem_some_iff, exists_eq_left']
    decide
  have hr := ((literal_at_quote hq false).2.1 15 hn).2 _ _ hs
  rw [if_neg (by decide), if_neg hp] at hr
  exact ⟨hq, hn, hs, hr⟩

end Lexer
end TagRules
