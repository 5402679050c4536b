import TagRules.Document.Encoding
import TagRules.Document.Yaml.Cursor
import TagRules.Number.Decimal

/-!
Taking scalars: plain ones, quoted ones, and blocks of lines. Line ends inside a scalar are folded: one
alone is a space, and of several the first is dropped.
-/
namespace TagRules.Yaml

/-- One line end alone is a space; the first of several is dropped unless it stays in the text. -/
def folded (first : List Char) (others : List Char) : List Char :=
  if first ≠ ['\n'] then first ++ others
  else if others.isEmpty then [' '] else others

/-- What cannot stand in a plain scalar inside brackets. -/
def isFlowMark (c : Char) : Bool := c ∈ [',', '[', ']', '\x7b', '\x7d']

/-- The length of a plain scalar up to a gap or a mark. -/
def plainLength (flow : Bool) : List Char → Nat
  | [] => 0
  | c :: rest =>
    if isGap c || (c == ':' && (endsHere rest || (flow && rest.head?.any isFlowMark)))
        || (flow && (isFlowMark c || c == '?')) then 0
    else plainLength flow rest + 1

/-- Takes spaces and empty lines inside a plain scalar; nothing before a line that separates documents. -/
def takePlainLines : Nat → List Char → Take (Option (List Char))
  | 0, breaks => return some breaks
  | fuel + 1, breaks => do
    match ← peek? with
    | some ' ' =>
      advance 1
      takePlainLines fuel breaks
    | some c =>
      if isBreak c then
        let breaks := breaks ++ (← takeBreak)
        if (← get).atSeparator then return none
        takePlainLines fuel breaks
      else return some breaks
    | none => return some breaks

/-- Takes the gap behind a part of a plain scalar: what it leaves in the text, and whether it has a line end. -/
def takePlainGap : Take (Option (List Char) × Bool) := do
  let spaces ← takeSome (· = ' ')
  let first ← takeBreak
  if first.isEmpty then return (some spaces, false)
  if (← get).atSeparator then return (none, true)
  let breaks ← takePlainLines ((← ahead).length + 1) []
  return (breaks.map (folded first), true)

/-- Takes the parts of a plain scalar that are indented enough. The second result says whether the scalar
ends behind a line end. -/
def takePlainParts (flow : Bool) (indent : Nat) : Nat → List Char → Bool → Take (List Char × Bool)
  | 0, text, broken => return (text, broken)
  | fuel + 1, text, broken => do
    let rest ← ahead
    let length := if rest.head? = some '#' then 0 else plainLength flow rest
    if length = 0 then return (text, broken)
    advance length
    let part := rest.take length
    let (gap, broken) ← takePlainGap
    let k ← get
    match gap with
    | none => return (text ++ part, broken)
    | some gap =>
      if gap.isEmpty || k.rest.head? = some '#' || (!flow && k.column < indent) then
        return (text ++ part, broken)
      else
        let (more, broken') ← takePlainParts flow indent fuel [] broken
        return (text ++ part ++ (if more.isEmpty then [] else gap ++ more), broken')

def takePlain (flow : Bool) (indent : Nat) : Take (List Char × Bool) := do
  takePlainParts flow indent ((← ahead).length + 1) [] false

/-- The characters that a letter behind a backslash stands for. -/
def namedEscape? (c : Char) : Option Char :=
  [('0', '\x00'), ('a', '\x07'), ('b', '\x08'), ('t', '\t'), ('\t', '\t'), ('n', '\n'), ('v', '\x0b'),
   ('f', '\x0c'), ('r', '\r'), ('e', '\x1b'), (' ', ' '), ('"', '"'), ('\\', '\\'), ('/', '/'),
   ('N', '\x85'), ('_', '\xa0'), ('L', '\u2028'), ('P', '\u2029')].lookup c

def codeLength? : Char → Option Nat
  | 'x' => some 2
  | 'u' => some 4
  | 'U' => some 8
  | _ => none

/-- Takes line ends and the spaces around them inside a quoted scalar. -/
def takeQuotedLines : Nat → List Char → Take (List Char)
  | 0, breaks => return breaks
  | fuel + 1, breaks => do
    if (← get).atSeparator then malformed
    discard (takeSome fun c => c = ' ' || c = '\t')
    let more ← takeBreak
    if more.isEmpty then return breaks else takeQuotedLines fuel (breaks ++ more)

def takeQuotedGap : Take (List Char) := do
  let spaces ← takeSome fun c => c = ' ' || c = '\t'
  if (← ahead).isEmpty then malformed
  let first ← takeBreak
  if first.isEmpty then return spaces
  return folded first (← takeQuotedLines ((← ahead).length + 1) [])

def takeEscape : Take (List Char) := do
  match ← peek? with
  | none => malformed
  | some c =>
    if let some d := namedEscape? c then
      advance 1
      return [d]
    if let some n := codeLength? c then
      advance 1
      let digits := (← ahead).take n
      if digits.length < n then malformed
      match ofDigits? 16 digits with
      | none => malformed
      | some code =>
        if code > 0x7FFFFFFF then throw .codeTooLarge
        if code > 0x10FFFF then throw (.value "chr() arg not in range(0x110000)")
        advance n
        return [Encoding.character code]
    if isBreak c then
      discard takeBreak
      takeQuotedLines ((← ahead).length + 1) []
    else malformed

def takeQuotedParts (quote : Char) : Nat → List Char → Take (List Char)
  | 0, _ => malformed
  | fuel + 1, text => do
    match ← ahead with
    | [] => malformed
    | c :: rest =>
      if isGap c then takeQuotedParts quote fuel (text ++ (← takeQuotedGap))
      else if c = quote then
        if quote = '\'' && rest.head? = some '\'' then
          advance 2
          takeQuotedParts quote fuel (text ++ ['\''])
        else
          advance 1
          return text
      else if c = '\\' && quote = '"' then
        advance 1
        takeQuotedParts quote fuel (text ++ (← takeEscape))
      else
        advance 1
        let more ← takeSome fun c => !(isGap c || c == quote || c == '\\')
        takeQuotedParts quote fuel (text ++ c :: more)

def takeQuoted (quote : Char) : Take (List Char) := do
  advance 1
  takeQuotedParts quote ((← ahead).length + 1) []

/-- What happens to the line ends at the end of a block. -/
inductive Chomp
  | strip
  | clip
  | keep
  deriving DecidableEq, Repr

def takeChomp : Take (Option Chomp) := do
  match ← peek? with
  | some '+' =>
    advance 1
    return some .keep
  | some '-' =>
    advance 1
    return some .strip
  | _ => return none

def takeIncrement : Take (Option Nat) := do
  match ← peek? with
  | some c =>
    if !c.isDigit then return none
    if c = '0' then malformed
    advance 1
    return some (c.toNat - '0'.toNat)
  | none => return none

/-- Takes what stands behind the mark of a block: how it ends, and how far it is indented. -/
def takeBlockHeader : Take (Chomp × Option Nat) := do
  let first ← takeChomp
  let increment ← takeIncrement
  let second ← if first.isNone && increment.isSome then takeChomp else pure none
  match ← peek? with
  | some c => if !(c = ' ' || isBreak c) then malformed
  | none => pure ()
  takeEmptyLine
  return ((first.or second).getD .clip, increment)

/-- Takes empty lines at the start of a block: the line ends, and the widest indentation. -/
def takeBlockStart : Nat → List Char → Nat → Take (List Char × Nat)
  | 0, breaks, widest => return (breaks, widest)
  | fuel + 1, breaks, widest => do
    match ← peek? with
    | some ' ' =>
      advance 1
      takeBlockStart fuel breaks (max widest (← get).column)
    | some c => if isBreak c then takeBlockStart fuel (breaks ++ (← takeBreak)) widest else return (breaks, widest)
    | none => return (breaks, widest)

def takeIndent (indent : Nat) : Take Unit := do
  let k ← get
  let spaces := (k.rest.takeWhile (· = ' ')).length
  advance (min spaces (indent - k.column))

/-- Takes empty lines in a block, and the indentation of the line behind them. -/
def takeBlockBreaks (indent : Nat) : Nat → List Char → Take (List Char)
  | 0, breaks => return breaks
  | fuel + 1, breaks => do
    takeIndent indent
    let more ← takeBreak
    if more.isEmpty then return breaks else takeBlockBreaks indent fuel (breaks ++ more)

def atBlockLine (indent : Nat) : Take Bool := do
  let k ← get
  return k.column = indent && !k.rest.isEmpty

/-- Takes the lines of a block: its text, the line end of its last line, and the empty lines behind. -/
def takeBlockLines (fold : Bool) (indent : Nat) :
    Nat → List Char → List Char → List Char → Take (List Char × List Char × List Char)
  | 0, text, last, breaks => return (text, last, breaks)
  | fuel + 1, text, last, breaks => do
    if !(← atBlockLine indent) then return (text, last, breaks)
    let isSpaced (c : Option Char) : Bool := c = some ' ' || c = some '\t'
    let spaced := isSpaced (← peek?)
    let line ← takeSome (!isBreak ·)
    let last ← takeBreak
    let more ← takeBlockBreaks indent ((← ahead).length + 1) []
    let text := text ++ breaks ++ line
    if !(← atBlockLine indent) then return (text, last, more)
    let joint :=
      if fold && last = ['\n'] && !spaced && !isSpaced (← peek?) then
        if more.isEmpty then [' '] else []
      else last
    takeBlockLines fold indent fuel (text ++ joint) last more

/-- Takes a block scalar; `indent` is the least indentation of its lines. -/
def takeBlock (fold : Bool) (least : Nat) : Take (List Char) := do
  advance 1
  let (chomp, increment) ← takeBlockHeader
  let least := max least 1
  let fuel := (← ahead).length + 1
  let (breaks, indent) ← match increment with
    | none => do
      let (breaks, widest) ← takeBlockStart fuel [] 0
      pure (breaks, max least widest)
    | some n => do
      let indent := least + n - 1
      pure (← takeBlockBreaks indent fuel [], indent)
  let (text, last, breaks) ← takeBlockLines fold indent fuel [] [] breaks
  return match chomp with
    | .strip => text
    | .clip => text ++ last
    | .keep => text ++ last ++ breaks

end TagRules.Yaml
