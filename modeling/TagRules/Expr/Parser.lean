import TagRules.Expr.ParseError
import TagRules.Token.Lexer

/-!
Parsing. Connectives have one precedence and chain to the left, a negation takes the next literal or
group. The parser is a machine that takes one token at a time: it holds the node being built, a frame
for each open parenthesis, and what it waits for. Depth and the names seen outlive a parse, so that a
parser can be asked again.
-/
namespace TagRules

namespace Parser

/-- A node being built: a connective once one was read, and its operands so far. -/
structure Pending where
  op : Option Connective
  left : Option Expr
  right : Option Expr
  deriving DecidableEq, Repr

namespace Pending

def empty : Pending := ⟨none, none, none⟩

def build (p : Pending) (op : Connective) : Expr := .binary op (p.left.getD .hole) (p.right.getD .hole)

/-- Puts an operand into the first free place; the token is the one that the operand began with. -/
def attach (p : Pending) (operand : Expr) (token : Token) : Except ParseError Pending :=
  match p.left, p.op, p.right with
  | none, _, _ => .ok { p with left := some operand }
  | some _, some _, none => .ok { p with right := some operand }
  | _, _, _ => .error ⟨.missingOperator token.value, token⟩

/-- Takes a connective: as the node's own, or over the finished node. -/
def connect (p : Pending) (op : Connective) (token : Token) : Except ParseError Pending :=
  match p.left, p.op, p.right with
  | none, _, _ => .error ⟨.noLeftOperand op, token⟩
  | some _, none, _ => .ok { p with op := some op }
  | some _, some before, none => .error ⟨.missingOperand op before, token⟩
  | some _, some before, some _ => .ok ⟨some op, some (p.build before), none⟩

def finalize (p : Pending) (token : Token) : Except ParseError Expr :=
  match p.op, p.left, p.right with
  | none, none, _ => .error ⟨.emptyExpression, token⟩
  | none, some e, _ => .ok e
  | some op, _, none => .error ⟨.missingRightOperand op, token⟩
  | some op, _, some _ => .ok (p.build op)

end Pending

/-- A node left open at a parenthesis, and the negation that the group stands under. -/
structure Frame where
  pending : Pending
  lparen : Token
  negation : Option Token
  deriving DecidableEq, Repr

/-- A literal being read: the token it is attached for, and its parts so far. -/
structure PartialLiteral where
  anchor : Token
  negated : Bool
  name : String
  scope : String
  deriving DecidableEq, Repr

inductive Mode
  | ready
  | negated (token : Token)
  | literal (l : PartialLiteral)
  deriving DecidableEq, Repr

/-- What outlives a parse. -/
structure Memory where
  depth : Int
  tags : List String
  fieldPaths : List String
  deriving DecidableEq, Repr

/-- Adds a name at the end unless it is there. -/
def remember (names : List String) (name : String) : List String :=
  if names.contains name then names else names ++ [name]

def Memory.record (m : Memory) (l : PartialLiteral) : Memory :=
  { m with
    tags := remember m.tags l.name
    fieldPaths := if l.scope.isEmpty then m.fieldPaths else remember m.fieldPaths l.scope }

structure State where
  memory : Memory
  pending : Pending
  frames : List Frame
  mode : Mode
  deriving DecidableEq, Repr

/-- The end of a parse; `consumed` tells whether the token that ended it was used up. -/
structure Stop where
  result : Except ParseError Expr
  memory : Memory
  consumed : Bool

inductive Step
  | next (s : State)
  | stop (x : Stop)

/-- A negation around an operand, if there is one. -/
def negate (negated : Bool) (e : Expr) : Expr := if negated then .not e else e

namespace State

def fail (s : State) (cause : ParseError.Cause) (token : Token) : Step :=
  .stop ⟨.error ⟨cause, token⟩, s.memory, true⟩

/-- Goes on with a changed node, or fails. -/
def proceed (s : State) : Except ParseError Pending → Step
  | .ok p => .next { s with pending := p, mode := .ready }
  | .error e => .stop ⟨.error e, s.memory, true⟩

def openGroup (s : State) (lparen : Token) (negation : Option Token) : Step :=
  .next { s with
    memory.depth := s.memory.depth + 1
    pending := .empty
    frames := ⟨s.pending, lparen, negation⟩ :: s.frames
    mode := .ready }

def readPart (s : State) (l : PartialLiteral) (token : Token) : Step :=
  match token.kind with
  | .tag =>
    if l.name.isEmpty then .next { s with mode := .literal { l with name := token.value } }
    else s.fail (.conflictingTag token.value l.name) token
  | _ =>
    if !l.scope.isEmpty then s.fail (.conflictingPath token.value l.scope) token
    else if l.name.isEmpty then s.fail (.pathWithoutTag token.value) token
    else .next { s with mode := .literal { l with scope := token.value } }

def startLiteral (s : State) (anchor : Token) (negated : Bool) (token : Token) : Step :=
  s.readPart ⟨anchor, negated, "", ""⟩ token

/-- Ends the current production at a closing parenthesis or the end of the text. -/
def close (s : State) (token : Token) : Step :=
  if s.memory.depth < 0 then s.fail (.extraClosing (-s.memory.depth)) token else
  match s.pending.finalize token with
  | .error e => .stop ⟨.error e, s.memory, true⟩
  | .ok e =>
    match s.frames with
    | [] => .stop ⟨.ok e, s.memory, true⟩
    | f :: frames =>
      if token.kind = .eof then s.fail .unclosedGroup f.lparen
      else { s with frames := frames }.proceed
        (f.pending.attach (negate f.negation.isSome e) (f.negation.getD f.lparen))

def stepReady (s : State) (token : Token) : Step :=
  match token.kind with
  | .lparen => s.openGroup token none
  | .tag | .fieldPath => s.startLiteral token false token
  | .and => s.proceed (s.pending.connect .and token)
  | .or => s.proceed (s.pending.connect .or token)
  | .not => .next { s with mode := .negated token }
  | .rparen => { s with memory.depth := s.memory.depth - 1 }.close token
  | .eof => s.close token
  | .whitespace => .next s
  | .unknown => s.fail (.unexpectedToken token.value) token

def stepNegated (s : State) (negation token : Token) : Step :=
  match token.kind with
  | .tag | .fieldPath => s.startLiteral negation true token
  | .lparen => s.openGroup token (some negation)
  | .whitespace => .next s
  | kind =>
    if !token.value.isEmpty then s.fail (.unexpectedAfterNot token.value) token
    else match kind.name? with
      | some name => s.fail (.unexpectedAfterNot name) token
      | none => s.fail .namelessKind token

/-- A token behind a part of a literal; if it is no further part, it is looked at again. -/
def stepLiteral (s : State) (l : PartialLiteral) (token : Token) : Step :=
  match token.kind with
  | .tag | .fieldPath => s.readPart l token
  | .whitespace => .next s
  | _ =>
    let memory := s.memory.record l
    match s.pending.attach (negate l.negated (.unit ⟨l.name, l.scope⟩)) l.anchor with
    | .error e => .stop ⟨.error e, memory, false⟩
    | .ok p => { s with memory, pending := p, mode := .ready }.stepReady token

def step (s : State) (token : Token) : Step :=
  match s.mode with
  | .ready => s.stepReady token
  | .negated negation => s.stepNegated negation token
  | .literal l => s.stepLiteral l token

end State
end Parser

structure Parser where
  feed : Feed
  memory : Parser.Memory

namespace Parser

def ofFeed (feed : Feed) : Parser := ⟨feed, ⟨0, [], []⟩⟩

def ofSource (source : String) (caseSensitive : Bool) : Parser := ofFeed (.ofSource source caseSensitive)

/-- The outcome of a parse, what is remembered, and the tokens left. -/
structure Run where
  result : Except SyntaxError Expr
  memory : Memory
  rest : List (Except LexError Token)

/-- Feeds the machine until it stops. -/
def run (ending : Feed.Ending) (s : State) : List (Except LexError Token) → Run
  | [] =>
    match ending with
    | .stuck e => ⟨.error (.lex e), s.memory, []⟩
    | .eof position =>
      match s.step (.eof position) with
      | .stop x => ⟨x.result.mapError .parse, x.memory, []⟩
      | .next s => ⟨.error (.parse ⟨.emptyExpression, .eof position⟩), s.memory, []⟩
  | .error e :: rest => ⟨.error (.lex e), s.memory, rest⟩
  | .ok token :: rest =>
    match s.step token with
    | .next s => run ending s rest
    | .stop x => ⟨x.result.mapError .parse, x.memory, if x.consumed then rest else .ok token :: rest⟩

/-- Parses up to the end of the text, an extra closing parenthesis or an error. -/
def parse (p : Parser) : Except SyntaxError Expr × Parser :=
  let r := run p.feed.ending ⟨p.memory, .empty, [], .ready⟩ p.feed.items
  (r.result, ⟨{ p.feed with items := r.rest }, r.memory⟩)

end Parser

def parse (source : String) (caseSensitive : Bool) : Except SyntaxError Expr :=
  (Parser.ofSource source caseSensitive).parse.1

end TagRules
