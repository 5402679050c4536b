import TagRules.Expr.Basic
import TagRules.Token.Lexer
import Mathlib.Tactic.Lemma

/-!
The grammar of rule expressions. An expression is a chain of operands with connectives between them,
grouped to the left; an operand is a literal or a group, negated or not; a literal is a tag with or
without a field path. What is derived is the tree; parentheses leave no trace in it.
-/
namespace TagRules

/-- Tokens that the grammar speaks about. -/
def Token.isSignificant (t : Token) : Bool := t.kind ≠ .whitespace && t.kind ≠ .eof

/-- The kind of token that a connective is written as. -/
def Connective.tokenKind : Connective → Token.Kind
  | .and => .and
  | .or => .or

namespace Grammar

/-- The nonterminals. -/
inductive Phrase
  | expression
  | operand
  | literal

/-- The trees that a sequence of tokens stands for as a phrase of some sort. -/
inductive Derives : Phrase → List Token → Expr → Prop
  | anywhere {t} : t.kind = .tag → Derives .literal [t] (.unit ⟨t.value, ""⟩)
  | under {t p} : t.kind = .tag → p.kind = .fieldPath → Derives .literal [t, p] (.unit ⟨t.value, p.value⟩)
  | literal {ts e} : Derives .literal ts e → Derives .operand ts e
  | notLiteral {n ts e} : n.kind = .not → Derives .literal ts e → Derives .operand (n :: ts) (.not e)
  | group {l ts r e} : l.kind = .lparen → Derives .expression ts e → r.kind = .rparen →
      Derives .operand (l :: (ts ++ [r])) e
  | notGroup {n l ts r e} : n.kind = .not → l.kind = .lparen → Derives .expression ts e → r.kind = .rparen →
      Derives .operand (n :: l :: (ts ++ [r])) (.not e)
  | operand {ts e} : Derives .operand ts e → Derives .expression ts e
  | chain {ts o us a b} (op : Connective) : Derives .expression ts a → o.kind = op.tokenKind →
      Derives .operand us b → Derives .expression (ts ++ o :: us) (.binary op a b)

/-- What is derived has no missing operand and no node without a kind. -/
theorem Derives.isComplete {phrase : Phrase} {ts : List Token} {e : Expr} (h : Derives phrase ts e) :
    e.isComplete = true := by
  induction h with
  | anywhere | under => rfl
  | literal _ ih | operand _ ih => exact ih
  | notLiteral _ _ ih | group _ _ _ ih | notGroup _ _ _ _ ih => exact ih
  | chain op _ _ _ iha ihb => simp [Expr.isComplete, iha, ihb]

/-- The expressions that a source text stands for. -/
def Sentence (source : String) (caseSensitive : Bool) (e : Expr) : Prop :=
  ∃ ts, tokenize source caseSensitive = .ok ts ∧ Derives .expression (ts.filter Token.isSignificant) e

end Grammar
end TagRules
