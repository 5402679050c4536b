import TagRules.Proofs.Grammar.References
import TagRules.Proofs.Token.Concatenation

/-!
Expressions as outlines. The walk with a stack lays an expression out as plain recursion does, each node before its
operands and those one level further in. From the outline of a complete expression it can be told which expression it is,
also where tags are called like connectives: a line is a node with operands exactly if the next one stands further in.
-/
namespace TagRules

/-- Runs of characters that both end at a character of another kind, or at the end, are the same. -/
lemma run_append_inj {p : Char → Bool} {xs ys behind behind' : List Char} (hx : ∀ c ∈ xs, p c) (hy : ∀ c ∈ ys, p c)
    (hb : ∀ c ∈ behind.head?, ¬ p c) (hb' : ∀ c ∈ behind'.head?, ¬ p c) (h : xs ++ behind = ys ++ behind') :
    xs = ys ∧ behind = behind' :=
  ⟨by rw [← Scan.takeWhile_run hx hb, h, Scan.takeWhile_run hy hb'],
    by rw [← Scan.dropWhile_run hx hb, h, Scan.dropWhile_run hy hb']⟩

/-- A text that can stand alone on an indented line. -/
structure IsLineText (s : String) : Prop where
  nonempty : s ≠ ""
  unindented : s.toList.head? ≠ some ' '
  unbroken : '\n' ∉ s.toList

lemma Connective.isLineText_name (op : Connective) : IsLineText op.name := by
  cases op <;> constructor <;> decide

lemma Connective.name_inj {op op' : Connective} (h : op.name = op'.name) : op = op' := by
  cases op <;> cases op' <;> first | rfl | exact absurd h (by decide)

lemma Connective.name_ne_not (op : Connective) : op.name ≠ "NOT" := by cases op <;> decide

lemma isLineText_not : IsLineText "NOT" := by constructor <;> decide

namespace Reference

/-- The text of the reference can be told from the line that it stands on: it begins with no blank, there is no line
break in it, and no bracket but those around the scope. -/
structure IsLegible (r : Reference) : Prop where
  named : r.name ≠ ""
  unindented : r.name.toList.head? ≠ some ' '
  unbracketed : '[' ∉ r.name.toList
  name_unbroken : '\n' ∉ r.name.toList
  scope_unbroken : '\n' ∉ r.scope.toList

/-- What stands behind the name of a reference. -/
def scopeText (r : Reference) : List Char := if r.scope.isEmpty then [] else '[' :: r.scope.toList ++ [']']

lemma toList_text (r : Reference) : r.text.toList = r.name.toList ++ r.scopeText := by
  unfold text scopeText
  split <;> simp

lemma head_scopeText {r : Reference} : ∀ c ∈ r.scopeText.head?, c = '[' := by
  unfold scopeText
  split <;> simp

lemma scope_eq_of_scopeText {r r' : Reference} (h : r.scopeText = r'.scopeText) : r.scope = r'.scope := by
  unfold scopeText at h
  split at h
  next he =>
    split at h
    next he' => simp_all
    next => cases h
  next =>
    split at h
    next => cases h
    next =>
      rw [List.cons_append, List.cons_append, List.cons_inj_right] at h
      exact String.toList_inj.1 (List.append_cancel_right h)

/-- A legible reference is known by its text. -/
theorem IsLegible.text_inj {r r' : Reference} (hr : r.IsLegible) (hr' : r'.IsLegible) (h : r.text = r'.text) : r = r' := by
  have ht : r.name.toList ++ r.scopeText = r'.name.toList ++ r'.scopeText := by rw [← toList_text, h, toList_text]
  have hname {r : Reference} (hr : r.IsLegible) : ∀ c ∈ r.name.toList, (c != '[') = true := by
    intro c hc
    refine bne_iff_ne.2 fun he => hr.unbracketed (he ▸ hc)
  have hscope {r : Reference} : ∀ c ∈ r.scopeText.head?, ¬ (c != '[') = true := by
    intro c hc
    simp [head_scopeText c hc]
  obtain ⟨hn, hs⟩ := run_append_inj (hname hr) (hname hr') hscope hscope ht
  obtain ⟨name, scope⟩ := r
  obtain rfl : name = r'.name := String.toList_inj.1 hn
  obtain rfl : scope = r'.scope := scope_eq_of_scopeText hs
  rfl

lemma IsLegible.isLineText {r : Reference} (hr : r.IsLegible) : IsLineText r.text where
  nonempty h := by
    have ht : r.name.toList ++ r.scopeText = [] := by rw [← toList_text, h]; rfl
    exact hr.named (String.toList_eq_nil_iff.1 (List.append_eq_nil_iff.1 ht).1)
  unindented := by
    have hn : r.name.toList ≠ [] := fun h => hr.named (String.toList_eq_nil_iff.1 h)
    rw [toList_text, List.head?_append_of_ne_nil _ hn]
    exact hr.unindented
  unbroken h := by
    rw [toList_text] at h
    obtain h | h := List.mem_append.1 h
    · exact hr.name_unbroken h
    · unfold scopeText at h
      split at h
      · cases h
      · exact hr.scope_unbroken (by simpa using h)

end Reference
namespace Expr

/-- The rows of an expression from a level on: the level of each node, and what it shows. -/
def rows (level : Nat) : Expr → List (Nat × String)
  | .hole => []
  | .binary op a b => (level, (binary op a b).label) :: (a.rows (level + 1) ++ b.rows (level + 1))
  | .not a => (level, a.not.label) :: a.rows (level + 1)
  | e => [(level, e.label)]

/-- A row as a line. -/
def rowLine (row : Nat × String) : String := indent row.1 ++ row.2 ++ "\n"

/-- The first tree on a stack is laid out before the others are looked at. -/
theorem linesOn_cons (e : Expr) (level : Nat) (rest : List (Expr × Nat)) :
    linesOn ((e, level) :: rest) = (e.rows level).map rowLine ++ linesOn rest := by
  induction e generalizing level rest with
  | hole | unset | unit => simp [linesOn, rows, line, rowLine]
  | binary op a b iha ihb => simp [linesOn, rows, line, rowLine, iha, ihb]
  | not a ih => simp [linesOn, rows, line, rowLine, ih]

theorem toList_pretty (e : Expr) : e.pretty.toList = (e.rows 0).flatMap fun row => (rowLine row).toList := by
  rw [pretty, linesOn_cons, linesOn, List.append_nil, String.toList_join, List.flatMap_map]

lemma rowLine_append_inj {row row' : Nat × String} (hr : IsLineText row.2) (hr' : IsLineText row'.2)
    {rest rest' : List Char} (h : (rowLine row).toList ++ rest = (rowLine row').toList ++ rest') :
    row = row' ∧ rest = rest' := by
  have hline (row : Nat × String) (rest : List Char) : (rowLine row).toList ++ rest =
      List.replicate (4 * row.1) ' ' ++ (row.2.toList ++ '\n' :: rest) := by
    simp [rowLine, indent]
  have hblank (n : Nat) : ∀ c ∈ List.replicate n ' ', (c == ' ') = true := fun c hc => by
    simp [List.eq_of_mem_replicate hc]
  have htext {s : String} (hs : IsLineText s) (rest : List Char) :
      ∀ c ∈ (s.toList ++ '\n' :: rest).head?, ¬ (c == ' ') = true := by
    have hn : s.toList ≠ [] := fun h => hs.nonempty (String.toList_eq_nil_iff.1 h)
    rw [List.head?_append_of_ne_nil _ hn]
    intro c hc he
    exact hs.unindented (eq_of_beq he ▸ hc)
  have hbreak {s : String} (hs : IsLineText s) : ∀ c ∈ s.toList, (c != '\n') = true := fun c hc =>
    bne_iff_ne.2 fun he => hs.unbroken (he ▸ hc)
  rw [hline, hline] at h
  obtain ⟨hi, h⟩ := run_append_inj (hblank _) (hblank _) (htext hr rest) (htext hr' rest') h
  obtain ⟨ht, h⟩ := run_append_inj (hbreak hr) (hbreak hr') (by simp) (by simp) h
  have hlevel : 4 * row.1 = 4 * row'.1 := by simpa using congrArg List.length hi
  exact ⟨Prod.ext (by omega) (String.toList_inj.1 ht), (List.cons.inj h).2⟩

lemma flatMap_rowLine_inj {rs rs' : List (Nat × String)} (hr : ∀ row ∈ rs, IsLineText row.2)
    (hr' : ∀ row ∈ rs', IsLineText row.2)
    (h : (rs.flatMap fun row => (rowLine row).toList) = rs'.flatMap fun row => (rowLine row).toList) : rs = rs' := by
  have hne (row : Nat × String) (rest : List Char) : (rowLine row).toList ++ rest ≠ [] := by simp [rowLine]
  induction rs generalizing rs' with
  | nil =>
    cases rs' with
    | nil => rfl
    | cons row' rs' => exact absurd h.symm (hne row' _)
  | cons row rs ih =>
    cases rs' with
    | nil => exact absurd h (hne row _)
    | cons row' rs' =>
      rw [List.forall_mem_cons] at hr hr'
      rw [List.flatMap_cons, List.flatMap_cons] at h
      obtain ⟨rfl, hrest⟩ := rowLine_append_inj hr.1 hr'.1 h
      rw [ih hr.2 hr'.2 hrest]

/-- All references of the expression are legible. -/
def IsLegible (e : Expr) : Prop := ∀ r ∈ e.references, r.IsLegible

lemma isLegible_binary {op : Connective} {a b : Expr} : (binary op a b).IsLegible ↔ a.IsLegible ∧ b.IsLegible := by
  simp only [IsLegible, references_binary, List.forall_mem_append]

lemma isLegible_not {a : Expr} : a.not.IsLegible ↔ a.IsLegible := by simp only [IsLegible, references_not]

lemma isLegible_unit {r : Reference} : (unit r).IsLegible ↔ r.IsLegible := by simp [IsLegible]

/-- What a legible expression shows of its nodes can stand on lines. -/
lemma IsLegible.isLineText {e : Expr} (he : e.isComplete = true) (hl : e.IsLegible) (level : Nat) :
    ∀ row ∈ e.rows level, IsLineText row.2 := by
  induction e generalizing level with
  | hole | unset => cases he
  | unit r => exact List.forall_mem_singleton.2 (isLegible_unit.1 hl).isLineText
  | binary op a b iha ihb =>
    obtain ⟨hla, hlb⟩ := isLegible_binary.1 hl
    obtain ⟨ha, hb⟩ := Bool.and_eq_true_iff.1 he
    exact List.forall_mem_cons.2 ⟨op.isLineText_name, List.forall_mem_append.2 ⟨iha ha hla _, ihb hb hlb _⟩⟩
  | not a ih => exact List.forall_mem_cons.2 ⟨isLineText_not, ih he (isLegible_not.1 hl) _⟩

/-- No row, or one that stands no further in than a level, begins some rows. -/
def NotBelow (level : Nat) (rs : List (Nat × String)) : Prop := ∀ row ∈ rs.head?, row.1 ≤ level

lemma notBelow_nil (level : Nat) : NotBelow level [] := fun _ h => by cases h

lemma NotBelow.mono {level : Nat} {rs : List (Nat × String)} (h : NotBelow level rs) : NotBelow (level + 1) rs :=
  fun row hr => (h row hr).trans (Nat.le_succ level)

lemma head?_rows {e : Expr} (he : e.isComplete = true) (level : Nat) (rest : List (Nat × String)) :
    (e.rows level ++ rest).head? = some (level, e.label) := by
  cases e with
  | hole | unset => cases he
  | _ => rfl

lemma notBelow_rows {e : Expr} (he : e.isComplete = true) (level : Nat) (rest : List (Nat × String)) :
    NotBelow level (e.rows level ++ rest) := by
  intro row hr
  rw [head?_rows he] at hr
  cases hr
  exact le_rfl

/-- What follows a node without operands does not stand further in. -/
lemma not_notBelow_rows {e : Expr} (he : e.isComplete = true) (level : Nat) (rest : List (Nat × String)) :
    ¬ NotBelow level (e.rows (level + 1) ++ rest) := by
  intro h
  have hl := h _ (head?_rows he (level + 1) rest)
  exact Nat.not_succ_le_self level hl

lemma rows_unit_append (r : Reference) (level : Nat) (rest : List (Nat × String)) :
    (unit r).rows level ++ rest = (level, r.text) :: rest := rfl

lemma rows_binary_append (op : Connective) (a b : Expr) (level : Nat) (rest : List (Nat × String)) :
    (binary op a b).rows level ++ rest =
      (level, op.name) :: (a.rows (level + 1) ++ (b.rows (level + 1) ++ rest)) := by
  rw [rows, List.cons_append, List.append_assoc]
  rfl

lemma rows_not_append (a : Expr) (level : Nat) (rest : List (Nat × String)) :
    a.not.rows level ++ rest = (level, "NOT") :: (a.rows (level + 1) ++ rest) := rfl

/-- The rows of a legible expression, up to the next row that stands no further in, tell the expression. -/
theorem rows_append_inj {e e' : Expr} (he : e.isComplete = true) (he' : e'.isComplete = true) (hl : e.IsLegible)
    (hl' : e'.IsLegible) {level : Nat} {rest rest' : List (Nat × String)} (hr : NotBelow level rest)
    (hr' : NotBelow level rest') (h : e.rows level ++ rest = e'.rows level ++ rest') : e = e' ∧ rest = rest' := by
  induction e generalizing e' level rest rest' with
  | hole | unset => cases he
  | unit r =>
    rw [rows_unit_append] at h
    cases e' with
    | hole | unset => cases he'
    | unit r' =>
      obtain ⟨hrow, hrest⟩ := List.cons.inj h
      have htext : r.text = r'.text := congrArg Prod.snd hrow
      exact ⟨congrArg unit ((isLegible_unit.1 hl).text_inj (isLegible_unit.1 hl') htext), hrest⟩
    | binary op a b =>
      rw [rows_binary_append] at h
      rw [(List.cons.inj h).2] at hr
      exact absurd hr (not_notBelow_rows (Bool.and_eq_true_iff.1 he').1 level _)
    | not a =>
      rw [rows_not_append] at h
      rw [(List.cons.inj h).2] at hr
      have ha : a.isComplete = true := he'
      exact absurd hr (not_notBelow_rows ha level _)
  | binary op a b iha ihb =>
    obtain ⟨ha, hb⟩ := Bool.and_eq_true_iff.1 he
    obtain ⟨hla, hlb⟩ := isLegible_binary.1 hl
    rw [rows_binary_append] at h
    cases e' with
    | hole | unset => cases he'
    | unit r' =>
      rw [rows_unit_append] at h
      rw [← (List.cons.inj h).2] at hr'
      exact absurd hr' (not_notBelow_rows ha level _)
    | binary op' a' b' =>
      obtain ⟨ha', hb'⟩ := Bool.and_eq_true_iff.1 he'
      obtain ⟨hla', hlb'⟩ := isLegible_binary.1 hl'
      rw [rows_binary_append] at h
      obtain ⟨hrow, hrows⟩ := List.cons.inj h
      obtain rfl : op = op' := Connective.name_inj (congrArg Prod.snd hrow)
      -- The first operand ends where the second one begins, which stands as far in.
      obtain ⟨hab, hsecond⟩ := iha ha ha' hla hla' (notBelow_rows hb _ _) (notBelow_rows hb' _ _) hrows
      obtain ⟨hbb, hrest⟩ := ihb hb hb' hlb hlb' hr.mono hr'.mono hsecond
      exact ⟨by rw [hab, hbb], hrest⟩
    | not a' =>
      rw [rows_not_append] at h
      exact absurd (congrArg Prod.snd (List.cons.inj h).1) op.name_ne_not
  | not a ih =>
    have ha : a.isComplete = true := he
    rw [rows_not_append] at h
    cases e' with
    | hole | unset => cases he'
    | unit r' =>
      rw [rows_unit_append] at h
      rw [← (List.cons.inj h).2] at hr'
      exact absurd hr' (not_notBelow_rows ha level _)
    | binary op a' b' =>
      rw [rows_binary_append] at h
      exact absurd (congrArg Prod.snd (List.cons.inj h).1).symm op.name_ne_not
    | not a' =>
      rw [rows_not_append] at h
      have ha' : a'.isComplete = true := he'
      obtain ⟨haa, hrest⟩ :=
        ih ha ha' (isLegible_not.1 hl) (isLegible_not.1 hl') hr.mono hr'.mono (List.cons.inj h).2
      exact ⟨congrArg not haa, hrest⟩

/-- Complete expressions have the same outline only if they are the same, also where tags are called like connectives: it
is enough that the names of tags begin with no blank and hold no bracket, and that no name or scope holds a line
break. -/
theorem pretty_eq_iff_of_isLegible {e e' : Expr} (he : e.isComplete = true) (he' : e'.isComplete = true) (hl : e.IsLegible)
    (hl' : e'.IsLegible) : e.pretty = e'.pretty ↔ e = e' := by
  refine ⟨fun h => ?_, congrArg pretty⟩
  have hlines := congrArg String.toList h
  rw [toList_pretty, toList_pretty] at hlines
  have hrows : e.rows 0 ++ [] = e'.rows 0 ++ [] :=
    congrArg (· ++ []) (flatMap_rowLine_inj (hl.isLineText he 0) (hl'.isLineText he' 0) hlines)
  exact (rows_append_inj he he' hl hl' (notBelow_nil 0) (notBelow_nil 0) hrows).1

/-- The tag in place of a connective stands where the other expression has the connective, with the same lines after it,
but for how far in they are. -/
theorem pretty_ne_of_tags_like_connectives :
    let e := binary .and (binary .or (unit ⟨"AND", ""⟩) (unit ⟨"NOT", "x[0]. y"⟩)) (unit ⟨"b ", ""⟩)
    let e' := binary .and (unit ⟨"OR", ""⟩) (binary .and (unit ⟨"NOT", "x[0]. y"⟩) (unit ⟨"b ", ""⟩))
    e.isComplete = true ∧ e'.isComplete = true ∧ e.IsLegible ∧ e'.IsLegible ∧
      e.pretty = "AND\n    OR\n        AND\n        NOT[x[0]. y]\n    b \n" ∧
      e'.pretty = "AND\n    OR\n    AND\n        NOT[x[0]. y]\n        b \n" ∧ e.pretty ≠ e'.pretty := by
  intro e e'
  have hr : ∀ r ∈ ([⟨"AND", ""⟩, ⟨"OR", ""⟩, ⟨"NOT", "x[0]. y"⟩, ⟨"b ", ""⟩] : List Reference), r.IsLegible := by
    intro r hr
    simp only [List.mem_cons, List.not_mem_nil, or_false] at hr
    obtain rfl | rfl | rfl | rfl := hr <;> constructor <;> decide
  have hl : e.IsLegible := fun r h => hr r (by simp [e] at h ⊢; tauto)
  have hl' : e'.IsLegible := fun r h => hr r (by simp [e'] at h ⊢; tauto)
  refine ⟨rfl, rfl, hl, hl', ?_, ?_, fun h => ?_⟩
  · rw [pretty, linesOn_cons, linesOn]
    decide +kernel
  · rw [pretty, linesOn_cons, linesOn]
    decide +kernel
  · exact absurd ((pretty_eq_iff_of_isLegible rfl rfl hl hl').1 h) (by decide)

end Expr
end TagRules
