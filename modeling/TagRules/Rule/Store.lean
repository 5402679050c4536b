import TagRules.Entries
import TagRules.Expr.Parser
import TagRules.Expr.SolveOrder
import TagRules.Log
import TagRules.Value.Mismatch

/-!
Named rules. A rule is a list of expressions, compiled when it is registered; a batch of rules is
registered as a whole or not at all. The store keeps the tags and paths that its rules refer to.
-/
namespace TagRules

/-- An expression with its source text and all that is derived from it. -/
structure Compiled where
  source : String
  expr : Expr
  order : SolveOrder
  tags : List String
  fieldPaths : List String

def Compiled.ofSource (caseSensitive : Bool) (source : String) : Except SyntaxError Compiled :=
  match (Parser.ofSource source caseSensitive).parse with
  | (.error e, _) => .error e
  | (.ok expr, p) => .ok ⟨source, expr, .ofExpr expr, p.memory.tags, p.memory.fieldPaths⟩

inductive RuleError
  | mismatch (m : Mismatch)
  | withoutText
  | source (e : SyntaxError)

namespace RuleError

/-- An expression that is no text is quoted, unless no text can be made of it. -/
def notExpression (rule : String) (given : Value) : RuleError :=
  if given.hasText then .mismatch (.notExpression rule given) else .withoutText

def message : RuleError → String
  | .mismatch m => m.message
  | .withoutText => Value.withoutText
  | .source e => e.message

end RuleError

structure UnknownRule where
  name : String

def UnknownRule.message (u : UnknownRule) : String := "Rule '" ++ u.name ++ "' is not registered"

/-- Registered rules in order, and the names they refer to. -/
structure RuleStore where
  caseSensitive : Bool
  rules : List (String × List Compiled)
  tags : List String
  paths : List String

namespace RuleStore

def empty (caseSensitive : Bool) : RuleStore := ⟨caseSensitive, [], [], []⟩

def union (names more : List String) : List String := more.foldl Parser.remember names

/-- Adds what expressions refer to. -/
def refer (s : RuleStore) (cs : List Compiled) : RuleStore :=
  cs.foldl (fun s c => { s with tags := union s.tags c.tags, paths := union s.paths c.fieldPaths }) s

def sources (name : String) (expressions : Value) : Except RuleError (List String) :=
  match expressions with
  | .text _ => .error (.mismatch (.bareExpression name))
  | v => do
    (← v.items.mapError .mismatch).mapM fun item =>
      match item.text? with
      | some s => .ok s
      | none => .error (.notExpression name item)

def compileRule (caseSensitive : Bool) (name : String) (expressions : Value) :
    Except RuleError (String × List Compiled) := do
  let texts ← sources name expressions
  let compiled ← (texts.mapM (Compiled.ofSource caseSensitive)).mapError .source
  return (name, compiled)

/-- Stores compiled expressions under a name, behind those already there. -/
def insert (s : RuleStore) (rule : String × List Compiled) : RuleStore :=
  { s with rules := Entries.extend s.rules rule.1 rule.2 }.refer rule.2

/-- Registers a batch; on any error nothing is stored. -/
def addRules (s : RuleStore) (batch : List (String × Value)) : Except RuleError (RuleStore × List Note) := do
  let compiled ← batch.mapM fun (name, expressions) => compileRule s.caseSensitive name expressions
  return (compiled.foldl insert s, compiled.map fun (name, cs) => .registered name cs.length)

def addRule (s : RuleStore) (name : String) (expressions : Value) : Except RuleError (RuleStore × List Note) :=
  s.addRules [(name, expressions)]

/-- Forgets a rule, and every name that only it refers to. -/
def removeRule (s : RuleStore) (name : String) : Except UnknownRule RuleStore :=
  if Entries.contains s.rules name then
    let rules := Entries.erase s.rules name
    .ok (rules.foldl (fun s r => s.refer r.2) ⟨s.caseSensitive, rules, [], []⟩)
  else .error ⟨name⟩

def ruleNames (s : RuleStore) : List String := s.rules.map (·.1)

def rule? (s : RuleStore) (name : String) : Except UnknownRule (List String) :=
  match Entries.get? s.rules name with
  | some cs => .ok (cs.map (·.source))
  | none => .error ⟨name⟩

def sorted (names : List String) : List String := names.mergeSort fun a b => decide (a ≤ b)

def tagNames (s : RuleStore) : List String := sorted s.tags

def fieldPaths (s : RuleStore) : List String := sorted s.paths

/-- How an expression is evaluated: with its order, or by recursion on the tree. -/
inductive Method
  | order
  | recursion
  deriving DecidableEq, Repr

def holds (m : Method) (evidence : Evidence) (c : Compiled) : Except EvaluationError Bool :=
  match m with
  | .order => c.order.solve evidence
  | .recursion => c.expr.evaluate evidence

def matching (m : Method) (evidence : Evidence) : List Compiled → Except EvaluationError (List String)
  | [] => .ok []
  | c :: rest => do
    let b ← holds m evidence c
    let more ← matching m evidence rest
    return if b then c.source :: more else more

/-- The rules that match, each with its matching sources. -/
def evaluate (s : RuleStore) (m : Method) (evidence : Evidence) :
    Except EvaluationError (List (String × List String)) := do
  let rows ← s.rules.mapM fun (name, cs) => do return (name, ← matching m evidence cs)
  return rows.filter fun (_, sources) => !sources.isEmpty

end RuleStore
end TagRules
