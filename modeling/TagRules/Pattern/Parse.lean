import TagRules.Pattern.Group
import TagRules.Pattern.Inline
import TagRules.Pattern.Repetition
import TagRules.Pattern.Set

/-!
Reading a whole pattern: alternatives, sequences and groups.
-/
namespace TagRules.Pattern

/-- What parentheses lead to: a part of the sequence, a comment, or flags for the whole pattern. -/
inductive Opened
  | item (i : Item)
  | comment
  | flags

def atBar : Read Bool := do return (← peek) == some (.plain '|')

mutual

/-- Alternatives up to the end of the group or pattern. -/
def readBranches (fuel : Nat) (verbose top first : Bool) : Read (List (List Pattern)) :=
  match fuel with
  | 0 => return []
  | fuel + 1 => do
    let branch ← readItems fuel verbose (top && first) []
    if ← accept '|' then
      let flags := (← get).flags
      return branch :: (← readBranches fuel (if top then flags.contains .verbose else verbose) top false)
    else return [branch]

/-- A sequence up to the next bar, closing parenthesis or end. `first` holds where flags for the whole
pattern may stand. -/
def readItems (fuel : Nat) (verbose first : Bool) (items : List Item) : Read (List Pattern) :=
  match fuel with
  | 0 => return flatten items
  | fuel + 1 => do
    let next ← peek
    if next = none || next = some (.plain '|') || next = some (.plain ')') then return flatten items
    match ← take with
    | some (.escaped c) =>
      let p : Pattern ← match ← readEscape false c with
        | .code n => pure (.literal false n)
        | .category negated category => pure (.oneOf false [.category negated category])
        | .anchor a => pure (.anchor a)
        | .back group => pure (.back group)
      readItems fuel verbose first (.one p :: items)
    | some (.plain c) =>
      if verbose && isSkipped c then readItems fuel verbose first items
      else if verbose && c = '#' then
        skipLine (fuel + 1)
        readItems fuel verbose first items
      else if c = '[' then readItems fuel verbose first (.one (← readSet) :: items)
      else if c = '.' then readItems fuel verbose first (.one .any :: items)
      else if c = '^' then readItems fuel verbose first (.one (.anchor .lineStart) :: items)
      else if c = '$' then readItems fuel verbose first (.one (.anchor .lineEnd) :: items)
      else if c = '(' then
        match ← readGroup fuel verbose (first && items.isEmpty) with
        | .item i => readItems fuel verbose first (i :: items)
        | .comment => readItems fuel verbose first items
        | .flags => readItems fuel ((← get).flags.contains .verbose) first items
      else if c ∈ ['*', '+', '?', '\x7b'] then
        let start := (← get).position
        match ← boundsOf c with
        | some bounds => readItems fuel verbose first (← repeatLast start bounds items)
        | none => readItems fuel verbose first (.one (.literal false c.toNat) :: items)
      else readItems fuel verbose first (.one (.literal false c.toNat) :: items)
    | _ => return flatten items

/-- What follows an opening parenthesis, up to the closing one. -/
def readGroup (fuel : Nat) (verbose first : Bool) : Read Opened :=
  match fuel with
  | 0 => fail "unexpected end of pattern"
  | fuel + 1 => do
    let start := (← get).position - 1
    let body (verbose : Bool) : Read (List Pattern) := do
      let ps := alternatives (← readBranches fuel verbose false true)
      closeParenthesis start
      return ps
    let capture (name : Option (List Char)) : Read Opened := do
      let group ← openGroup name
      let p := sequence (← body verbose)
      closeGroup group p
      return .item (.one (.capture group p))
    if !(← accept '?') then capture none else
    match ← take with
    | none => fail "unexpected end of pattern"
    | some (.plain ':') => return .item (.group (← body verbose))
    | some (.plain 'P') =>
      match ← readNamed with
      | .inl group => return .item (.one (.back group))
      | .inr name => capture (some name)
    | some (.plain '#') =>
      skipComment start ((← get).rest.length + 1)
      return .comment
    | some (.plain '=') => return .item (.one (.ahead false (sequence (← body verbose))))
    | some (.plain '!') => return .item (.one (.ahead true (sequence (← body verbose))))
    | some (.plain '<') =>
      match ← take with
      | none => fail "unexpected end of pattern"
      | some mark =>
        if mark = .plain '=' || mark = .plain '!' then
          let ps ← lookingBehind do return alternatives (← readBranches fuel verbose false true)
          closeParenthesis start
          let p := sequence ps
          return .item (.one (.behind (mark = .plain '!') (p.width (← groupWidths)) p))
        else failAt (mark.text.length + 2) ("unknown extension ?<" ++ .ofList mark.text)
    | some (.plain '>') => return .item (.one (.atomic (sequence (← body verbose))))
    | some (.plain '(') =>
      let group ← readCondition
      let yes ← readItems fuel verbose false []
      let no ← if ← accept '|' then readItems fuel verbose false [] else pure []
      if ← atBar then fail "conditional backref with more than two branches"
      closeParenthesis start
      return .item (.one (.conditional group (sequence yes) (sequence no)))
    | some mark =>
      if (flagOf? mark).isSome || mark = .plain '-' then
        match ← readFlags mark with
        | .everywhere =>
          if !first then
            failAt ((← get).position - start) "global flags not at the start of the expression"
          return .flags
        | .group on off =>
          let ps ← body ((verbose || on.contains .verbose) && !off.contains .verbose)
          return .item (.one (.flagged on off (sequence ps)))
      else failAt (mark.text.length + 1) ("unknown extension ?" ++ .ofList mark.text)

end

def Greed.label : Greed → String
  | .most => "MAX_REPEAT"
  | .fewest => "MIN_REPEAT"
  | .possessive => "POSSESSIVE_REPEAT"

/-- Succeeds if every look behind has one width, and templates have no repetition. -/
def check (template : Bool) : Pattern → Except PatternError Unit
  | .seq p q | .alt p q | .conditional _ p q => do
    p.check template
    q.check template
  | .repeated greed _ _ p =>
    if template then .error (.invalid ("internal: unsupported template operator " ++ greed.label))
    else p.check template
  | .capture _ p | .flagged _ _ p | .atomic p | .ahead _ p => p.check template
  | .behind _ width p =>
    if width.isFixed then p.check template
    else .error (.invalid "look-behind requires fixed-width pattern")
  | _ => .ok ()

def widestBehind : Nat := 0x7FFFFFFF

/-- Whether some look behind is wider than it can be. -/
def looksTooFar : Pattern → Bool
  | .seq p q | .alt p q | .conditional _ p q => p.looksTooFar || q.looksTooFar
  | .repeated _ _ _ p | .capture _ p | .flagged _ _ p | .atomic p | .ahead _ p => p.looksTooFar
  | .behind _ width p => width.min > widestBehind || p.looksTooFar
  | _ => false

/-- A pattern, the flags that hold for all of it, and its width. -/
structure Whole where
  pattern : Pattern
  flags : Flags
  width : Width

def parse (flags : Flags) (source : String) : Except PatternError Whole := do
  let cs := source.toList
  let pieces := Piece.all cs
  let run : Read (Pattern × Width) := do
    requireEscaped
    let ps := alternatives (← readBranches (3 * pieces.length + 3) (flags.contains .verbose) true true)
    let final := (← get).flags
    if final.contains .ascii && final.contains .unicode then throw .clashingFlags
    if (← peek).isSome then fail "unbalanced parenthesis"
    let groups ← groupCount
    for (group, position) in (← get).conditions do
      if group > groups then throw (.located cs s!"invalid group reference {group}" position)
    let p := sequence ps
    return (p, p.width (← groupWidths))
  let ((p, width), r) ← run.run ⟨cs, pieces, 0, flags, [], [], none, []⟩
  p.check (r.flags.contains .template)
  if p.looksTooFar then throw .tooWideBehind
  return ⟨p, r.flags, width⟩

end TagRules.Pattern
