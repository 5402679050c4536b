import TagRules.Number.Integer
import TagRules.Pattern.Reader
import TagRules.Text.Name

/-!
Reading what belongs to groups: comments, names, references to other groups, and closing parentheses.
-/
namespace TagRules.Pattern

/-- Takes everything up to the end of a line. -/
def skipLine : Nat → Read Unit
  | 0 => return ()
  | fuel + 1 => do
    match ← take with
    | none | some (.plain '\n') => return ()
    | _ => skipLine fuel

/-- Takes a comment up to its closing parenthesis. -/
def skipComment (start : Nat) : Nat → Read Unit
  | 0 => return ()
  | fuel + 1 => do
    if (← peek) = none then failAt ((← get).position - start) "missing ), unterminated comment"
    if (← take) = some (.plain ')') then return () else skipComment start fuel

/-- The space that does not count in a verbose pattern. -/
def isSkipped (c : Char) : Bool := c ∈ [' ', '\t', '\n', '\r', '\x0b', '\x0c']

def failName {α : Type} (name : List Char) (reason : String) : Read α := failAt (name.length + 1) reason

def badName {α : Type} (name : List Char) : Read α :=
  failName name ("bad character in group name " ++ Quoted.text (.ofList name))

def groupOfName (name : List Char) : Read Nat := do
  match ← groupNamed? name with
  | some group => return group
  | none => failName name ("unknown group name " ++ Quoted.text (.ofList name))

/-- The greatest number a group can have. -/
def manyGroups : Nat := 1073741823

/-- The group that a condition is about. A number may be that of a group still to come. -/
def readCondition : Read Nat := do
  let name ← takeName ')' "group name"
  let group ← if isName name then groupOfName name else
    match readInteger 10 name with
    | .ok (.ofNat n) =>
      if n = 0 then failName name "bad group number"
      if n ≥ manyGroups then failName name s!"invalid group reference {n}"
      modify fun r =>
        if (r.conditions.lookup n).isSome then r
        else { r with conditions := r.conditions ++ [(n, r.position - name.length - 1)] }
      pure n
    | _ => badName name
  requireOutside group
  return group

def closeParenthesis (start : Nat) : Read Unit := do
  if !(← accept ')') then failAt ((← get).position - start) "missing ), unterminated subpattern"

/-- What parentheses with a letter P are for. -/
def readNamed : Read (Nat ⊕ List Char) := do
  if ← accept '<' then
    let name ← takeName '>' "group name"
    if !isName name then badName name
    return .inr name
  if ← accept '=' then
    let name ← takeName ')' "group name"
    if !isName name then badName name
    let group ← groupOfName name
    if !(← isClosed group) then failName name "cannot refer to an open group"
    requireOutside group
    return .inl group
  match ← take with
  | none => fail "unexpected end of pattern"
  | some p => failAt (p.text.length + 2) ("unknown extension ?P" ++ .ofList p.text)

def lookingBehind {α : Type} (step : Read α) : Read α := do
  let outer := (← get).behindLimit
  if outer.isNone then modify fun r => { r with behindLimit := some (r.closed.length + 1) }
  let a ← step
  modify fun r => { r with behindLimit := if outer.isNone then none else r.behindLimit }
  return a

end TagRules.Pattern
