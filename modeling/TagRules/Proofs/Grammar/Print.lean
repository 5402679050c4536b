import TagRules.Proofs.Grammar.Sentence
import TagRules.Proofs.Token.Written

/-!
Printing expressions, and parsing what is printed. An expression is written with all its parentheses, or with those
alone that the grammar needs; either way the text derives the expression in the grammar, and so it is parsed as it.
-/
namespace TagRules
open Grammar

/-- A connective as it is written. -/
def Connective.word : Connective → String
  | .and => "and"
  | .or => "or"

namespace Expr

/-- No operand is missing, every node has a kind, and every reference can be written. -/
def IsWritable : Expr → Prop
  | .hole | .unset => False
  | .unit r => r.IsWritable
  | .binary _ a b => a.IsWritable ∧ b.IsWritable
  | .not a => a.IsWritable

/-- An expression with every operand in parentheses. -/
def grouped : Expr → String
  | .hole | .unset => ""
  | .unit r => r.written
  | .binary op a b => "(" ++ a.grouped ++ ") " ++ op.word ++ " (" ++ b.grouped ++ ")"
  | .not a => "not (" ++ a.grouped ++ ")"

def isUnit : Expr → Bool
  | .unit _ => true
  | _ => false

def isBinary : Expr → Bool
  | .binary _ _ _ => true
  | _ => false

/-- An expression with the parentheses it needs: around a connective on the right of another one, and around all that is
negated but a literal. -/
def concise : Expr → String
  | .hole | .unset => ""
  | .unit r => r.written
  | .binary op a b =>
    a.concise ++ " " ++ op.word ++ " " ++ if b.isBinary then "(" ++ b.concise ++ ")" else b.concise
  | .not a => "not " ++ if a.isUnit then a.concise else "(" ++ a.concise ++ ")"

/-- The phrase that an expression is written as without parentheses around it. -/
def phrase : Expr → Phrase
  | .unit _ => .literal
  | .not _ => .operand
  | _ => .expression

end Expr

/-- A text that begins, and not with a blank. -/
def IsVisible (text : List Char) : Prop := ∃ c rest, text = c :: rest ∧ isBlank c = false

lemma IsVisible.append {text : List Char} (h : IsVisible text) (rest : List Char) : IsVisible (text ++ rest) := by
  obtain ⟨c, more, rfl, hc⟩ := h
  exact ⟨c, more ++ rest, rfl, hc⟩

/-- A text in front of another one is scanned as some tokens, and then the other one is. -/
def Passes (caseSensitive : Bool) (text rest : List Char) (position : Nat) (ts : List Token) : Prop :=
  Feed.scan caseSensitive (text ++ rest) position = (Feed.scan caseSensitive rest (position + text.length)).prepend ts

namespace Passes

variable {caseSensitive : Bool} {text more rest : List Char} {position : Nat} {ts us : List Token}

lemma append (h : Passes caseSensitive text (more ++ rest) position ts)
    (h' : Passes caseSensitive more rest (position + text.length) us) :
    Passes caseSensitive (text ++ more) rest position (ts ++ us) := by
  unfold Passes at *
  rw [List.append_assoc, h, h', Feed.prepend_prepend, List.length_append, Nat.add_assoc]

lemma of_head {t : Token} {held : Option Token}
    (h : Scan.head caseSensitive (text ++ rest) position = ⟨.ok (t, held), rest, position + text.length⟩)
    (hne : text ≠ []) : Passes caseSensitive text rest position (t :: held.toList) := by
  have hl : 0 < text.length := List.length_pos_iff.2 hne
  exact Feed.scan_of_head h (by omega)

lemma of_single {t : Token}
    (h : Scan.head caseSensitive (text ++ rest) position = ⟨.ok (t, none), rest, position + text.length⟩)
    (hne : text ≠ []) : Passes caseSensitive text rest position [t] :=
  of_head h hne

variable (caseSensitive rest position)

lemma lparen : Passes caseSensitive ['('] rest position [⟨.lparen, "(", position⟩] :=
  of_single rfl (List.cons_ne_nil _ _)

lemma rparen : Passes caseSensitive [')'] rest position [⟨.rparen, ")", position⟩] :=
  of_single rfl (List.cons_ne_nil _ _)

/-- A keyword is told from what is behind it by a space. -/
lemma word_not : Passes caseSensitive ['n', 'o', 't'] (' ' :: rest) position [⟨.not, "not", position⟩] := by
  refine of_single ?_ (List.cons_ne_nil _ _)
  cases caseSensitive <;> rfl

lemma word_connective (op : Connective) :
    Passes caseSensitive op.word.toList (' ' :: rest) position [⟨op.tokenKind, op.word, position⟩] := by
  cases op with
  | and =>
    refine of_single ?_ (List.cons_ne_nil _ _)
    cases caseSensitive <;> rfl
  | or =>
    refine of_single ?_ (List.cons_ne_nil _ _)
    cases caseSensitive <;> rfl

variable {rest}

lemma space (h : IsVisible rest) : Passes caseSensitive [' '] rest position [⟨.whitespace, " ", position⟩] := by
  obtain ⟨c, more, rfl, hc⟩ := h
  have hb : isBlank ' ' = true := rfl
  refine of_single ?_ (List.cons_ne_nil _ _)
  simp [Scan.head, Scan.single, hb, hc]

end Passes

/-- A text stands for an expression as a phrase of some sort, whatever comes behind it: it begins with no blank, and its
tokens derive the expression. -/
structure Spells (caseSensitive : Bool) (phrase : Phrase) (text : List Char) (e : Expr) : Prop where
  visible : IsVisible text
  derived : ∀ rest position, ∃ ts, Passes caseSensitive text rest position ts ∧
    Derives phrase (ts.filter Token.isSignificant) e

namespace Spells

variable {caseSensitive : Bool} {text : List Char} {e : Expr}

lemma operand (h : Spells caseSensitive .literal text e) : Spells caseSensitive .operand text e where
  visible := h.visible
  derived rest position := by
    obtain ⟨ts, hs, hd⟩ := h.derived rest position
    exact ⟨ts, hs, .literal hd⟩

/-- Whatever a text stands for, it stands for as an expression. -/
lemma expression {phrase : Phrase} (h : Spells caseSensitive phrase text e) :
    Spells caseSensitive .expression text e where
  visible := h.visible
  derived rest position := by
    obtain ⟨ts, hs, hd⟩ := h.derived rest position
    cases phrase with
    | literal => exact ⟨ts, hs, .operand (.literal hd)⟩
    | operand => exact ⟨ts, hs, .operand hd⟩
    | expression => exact ⟨ts, hs, hd⟩

lemma literal {r : Reference} (h : r.IsWritable) : Spells caseSensitive .literal r.written.toList (.unit r) where
  visible := ⟨'"', _, Literal.toList_written r, rfl⟩
  derived rest position := by
    obtain ⟨start, hl⟩ := Scan.literal_referencePieces h rest position
    have hh : Scan.head caseSensitive (r.written.toList ++ rest) position =
        Scan.literal (Literal.referencePieces r) rest position := by
      rw [Literal.toList_written, List.cons_append, List.append_assoc]
      exact Scan.head_literal (fun _ => Literal.isInner_of_mem_referencePieces) caseSensitive rest position
    rw [hl] at hh
    refine ⟨_, .of_head hh (by simp [Literal.toList_written]), ?_⟩
    by_cases hs : r.scope = ""
    · obtain ⟨name, scope⟩ := r
      obtain rfl : scope = "" := hs
      exact .anywhere rfl
    · rw [if_neg hs]
      exact .under (t := ⟨.tag, r.name, position⟩) (p := ⟨.fieldPath, r.scope, start⟩) rfl rfl

lemma group (h : Spells caseSensitive .expression text e) :
    Spells caseSensitive .operand (['('] ++ (text ++ [')'])) e where
  visible := ⟨'(', _, rfl, rfl⟩
  derived rest position := by
    obtain ⟨ts, hs, hd⟩ := h.derived (')' :: rest) (position + 1)
    have hl := Passes.lparen caseSensitive (text ++ [')'] ++ rest) position
    have hr := Passes.rparen caseSensitive rest (position + 1 + text.length)
    refine ⟨_, hl.append (hs.append hr), ?_⟩
    rw [List.singleton_append, List.filter_cons_of_pos rfl, List.filter_append]
    exact Derives.group rfl hd rfl

lemma notLiteral (h : Spells caseSensitive .literal text e) :
    Spells caseSensitive .operand (['n', 'o', 't'] ++ ([' '] ++ text)) (.not e) where
  visible := ⟨'n', _, rfl, rfl⟩
  derived rest position := by
    obtain ⟨ts, hs, hd⟩ := h.derived rest (position + 3 + 1)
    have hn := Passes.word_not caseSensitive (text ++ rest) position
    have hb := Passes.space caseSensitive (position + 3) (h.visible.append rest)
    refine ⟨_, hn.append (hb.append hs), ?_⟩
    exact Derives.notLiteral rfl hd

lemma notGroup (h : Spells caseSensitive .expression text e) :
    Spells caseSensitive .operand (['n', 'o', 't'] ++ ([' '] ++ (['('] ++ (text ++ [')'])))) (.not e) where
  visible := ⟨'n', _, rfl, rfl⟩
  derived rest position := by
    obtain ⟨ts, hs, hd⟩ := h.derived (')' :: rest) (position + 3 + 1 + 1)
    have hn := Passes.word_not caseSensitive (['('] ++ (text ++ [')']) ++ rest) position
    have hb := Passes.space caseSensitive (position + 3) (h.group.visible.append rest)
    have hl := Passes.lparen caseSensitive (text ++ [')'] ++ rest) (position + 3 + 1)
    have hr := Passes.rparen caseSensitive rest (position + 3 + 1 + 1 + text.length)
    refine ⟨_, hn.append (hb.append (hl.append (hs.append hr))), ?_⟩
    simp only [List.singleton_append]
    rw [List.filter_cons_of_pos rfl, List.filter_cons_of_neg Bool.false_ne_true, List.filter_cons_of_pos rfl,
      List.filter_append]
    exact Derives.notGroup rfl rfl hd rfl

lemma chain {text' : List Char} {e' : Expr} (op : Connective) (h : Spells caseSensitive .expression text e)
    (h' : Spells caseSensitive .operand text' e') :
    Spells caseSensitive .expression (text ++ ([' '] ++ (op.word.toList ++ ([' '] ++ text')))) (.binary op e e') where
  visible := h.visible.append _
  derived rest position := by
    have hw : IsVisible op.word.toList := by cases op <;> exact ⟨_, _, rfl, rfl⟩
    obtain ⟨ts, hs, hd⟩ := h.derived ([' '] ++ (op.word.toList ++ ([' '] ++ text')) ++ rest) position
    have hb := Passes.space caseSensitive (position + text.length) ((hw.append ([' '] ++ text')).append rest)
    have ho := Passes.word_connective caseSensitive (text' ++ rest) (position + text.length + 1) op
    have hc := Passes.space caseSensitive (position + text.length + 1 + op.word.toList.length)
      (h'.visible.append rest)
    obtain ⟨us, hs', hd'⟩ := h'.derived rest (position + text.length + 1 + op.word.toList.length + 1)
    have hk : Token.isSignificant ⟨op.tokenKind, op.word, ↑(position + text.length + 1)⟩ = true := by
      cases op <;> rfl
    refine ⟨_, hs.append (hb.append (ho.append (hc.append hs'))), ?_⟩
    -- Neither blank is left among the significant tokens.
    simp only [List.singleton_append]
    rw [List.filter_append, List.filter_cons_of_neg Bool.false_ne_true, List.filter_cons_of_pos hk,
      List.filter_cons_of_neg Bool.false_ne_true]
    exact Derives.chain op hd rfl hd'

/-- A text that stands for an expression is parsed as it. -/
theorem parse_eq {source : String} {phrase : Phrase} (h : Spells caseSensitive phrase source.toList e) :
    parse source caseSensitive = .ok e := by
  obtain ⟨ts, hs, hd⟩ := h.expression.derived [] 0
  rw [Passes, List.append_nil, Feed.scan_nil] at hs
  refine parse_eq_ok_iff.2 (sentence_iff.2 ⟨ts, ↑(0 + source.toList.length), ?_, ?_, hd⟩)
  · rw [Feed.ofSource, hs]
    exact List.append_nil _
  · rw [Feed.ofSource, hs]
    rfl

end Spells
namespace Expr

variable (caseSensitive : Bool) {e : Expr}

/-- With all its parentheses an expression is spelled out as what it is, a literal, an operand or a chain. -/
lemma spells_grouped (h : e.IsWritable) : Spells caseSensitive e.phrase e.grouped.toList e := by
  induction e with
  | hole | unset => exact h.elim
  | unit r => exact .literal h
  | not a ih => simpa [grouped, phrase] using (ih h).expression.notGroup
  | binary op a b iha ihb =>
    have ha := (iha h.1).expression.group.expression
    have hb := (ihb h.2).expression.group
    simpa [grouped, phrase] using ha.chain op hb

/-- So it is with the parentheses that it needs. -/
lemma spells_concise (h : e.IsWritable) : Spells caseSensitive e.phrase e.concise.toList e := by
  induction e with
  | hole | unset => exact h.elim
  | unit r => exact .literal h
  | not a ih =>
    cases a with
    | hole | unset => exact h.elim
    | unit r => simpa [concise, isUnit, phrase] using (ih h).notLiteral
    | not | binary => simpa [concise, isUnit, phrase] using (ih h).expression.notGroup
  | binary op a b iha ihb =>
    -- Chains group to the left: any expression may stand on the left, on the right an operand only.
    have ha := (iha h.1).expression
    cases b with
    | hole | unset => exact h.2.elim
    | unit r => simpa [concise, isBinary, phrase] using ha.chain op (ihb h.2).operand
    | not => simpa [concise, isBinary, phrase] using ha.chain op (ihb h.2)
    | binary => simpa [concise, isBinary, phrase] using ha.chain op (ihb h.2).group

end Expr

/-- Parsing undoes both ways of printing, whatever characters the names are made of. -/
theorem parse_printed {e : Expr} (h : e.IsWritable) (caseSensitive : Bool) :
    parse e.grouped caseSensitive = .ok e ∧ parse e.concise caseSensitive = .ok e :=
  ⟨(e.spells_grouped caseSensitive h).parse_eq, (e.spells_concise caseSensitive h).parse_eq⟩

/-- A quote, a backslash, a colon and a line break in names, a colon in a path, and a negation of a negation. -/
theorem parse_printed_specials :
    (Expr.binary .or (.unit ⟨"\"\\:\n", ""⟩) (.not (.not (.unit ⟨"a", "b.c:d"⟩)))).IsWritable ∧
    parse "(\"\\\"\\\\\\:\n\") or (not (not (\"a:b.c\\:d\")))" true =
      .ok (.binary .or (.unit ⟨"\"\\:\n", ""⟩) (.not (.not (.unit ⟨"a", "b.c:d"⟩)))) ∧
    parse "\"\\\"\\\\\\:\n\" or not (not \"a:b.c\\:d\")" true =
      .ok (.binary .or (.unit ⟨"\"\\:\n", ""⟩) (.not (.not (.unit ⟨"a", "b.c:d"⟩)))) :=
  have h : (Expr.binary .or (.unit ⟨"\"\\:\n", ""⟩) (.not (.not (.unit ⟨"a", "b.c:d"⟩)))).IsWritable :=
    ⟨⟨by decide, by decide⟩, ⟨by decide, by decide⟩⟩
  ⟨h, parse_printed h true⟩

end TagRules
