import TagRules.Pattern.Problem
import TagRules.Pattern.Syntax
import TagRules.Text.Quoted

/-!
Reading the text of a pattern, piece by piece. A piece is a character or a backslash with the character
after it; a reader also keeps what is known about groups and flags.
-/
namespace TagRules

namespace Pattern

/-- A unit of a pattern's text. A backslash at the very end escapes nothing. -/
inductive Piece
  | plain (c : Char)
  | escaped (c : Char)
  | dangling
  deriving DecidableEq, Repr

namespace Piece

def text : Piece → List Char
  | .plain c => [c]
  | .escaped c => ['\\', c]
  | .dangling => ['\\']

def all : List Char → List Piece
  | '\\' :: c :: rest => .escaped c :: all rest
  | ['\\'] => [.dangling]
  | c :: rest => .plain c :: all rest
  | [] => []

theorem all_text (cs : List Char) : (all cs).flatMap text = cs := by
  induction cs using all.induct <;> simp_all [all, text]

end Piece

/-- The place of reading, and what has been read about groups and flags. `closed` has one entry for each
group, its width once it is closed. -/
structure Reader where
  source : List Char
  rest : List Piece
  position : Nat
  flags : Flags
  closed : List (Option Width)
  names : List (String × Nat)
  behindLimit : Option Nat
  conditions : List (Nat × Nat)

abbrev Read := StateT Reader (Except PatternError)

/-- Fails at a place some characters before the next piece. -/
def failAt {α : Type} (back : Nat) (reason : String) : Read α := do
  let r ← get
  throw (.located r.source reason (r.position - back))

def fail {α : Type} (reason : String) : Read α := failAt 0 reason

/-- Fails if nothing follows the backslash that comes next. -/
def requireEscaped : Read Unit := do
  let r ← get
  if r.rest.head? = some .dangling then
    throw (.located r.source "bad escape (end of pattern)" (r.source.length - 1))

def peek : Read (Option Piece) := do return (← get).rest.head?

def take : Read (Option Piece) := do
  let r ← get
  match r.rest with
  | [] => return none
  | p :: rest =>
    set { r with rest := rest, position := r.position + p.text.length }
    requireEscaped
    return some p

def accept (c : Char) : Read Bool := do
  if (← peek) = some (.plain c) then
    discard take
    return true
  else return false

/-- Takes up to some number of plain characters of one sort. -/
def takeWhile (sort : Char → Bool) : Nat → Read (List Char)
  | 0 => return []
  | n + 1 => do
    match ← peek with
    | some (.plain c) =>
      if sort c then
        discard take
        return c :: (← takeWhile sort n)
      else return []
    | _ => return []

def takeAll (sort : Char → Bool) : Read (List Char) := do takeWhile sort (← get).rest.length

/-- Takes a name up to its end mark. -/
def takeName (terminator : Char) (what : String) : Read (List Char) := do
  let rec go : Nat → List Char → Read (List Char)
    | 0, name => return name
    | n + 1, name => do
      match ← take with
      | none =>
        if name.isEmpty then fail ("missing " ++ what)
        else failAt name.length (("missing ".push terminator) ++ ", unterminated name")
      | some p =>
        if p = .plain terminator then
          if name.isEmpty then failAt 1 ("missing " ++ what) else return name
        else go n (name ++ p.text)
  go ((← get).rest.length + 1) []

def groupCount : Read Nat := do return (← get).closed.length

def isClosed (group : Nat) : Read Bool := do return (((← get).closed[group - 1]?).join).isSome

def groupWidths : Read (Nat → Width) := do
  let r ← get
  return fun group => ((r.closed[group - 1]?).join).getD .none

/-- A group of the same look behind cannot be referred to in it. -/
def requireOutside (group : Nat) : Read Unit := do
  match (← get).behindLimit with
  | none => return ()
  | some limit =>
    if !(← isClosed group) then fail "cannot refer to an open group"
    if group ≥ limit then fail "cannot refer to group defined in the same lookbehind subpattern"

def openGroup (name : Option (List Char)) : Read Nat := do
  let r ← get
  let group := r.closed.length + 1
  match name with
  | none => set { r with closed := r.closed ++ [none] }
  | some cs =>
    match r.names.lookup (.ofList cs) with
    | some old =>
      failAt (cs.length + 1)
        s!"redefinition of group name {Quoted.text (.ofList cs)} as group {group}; was group {old}"
    | none => set { r with closed := r.closed ++ [none], names := r.names ++ [(String.ofList cs, group)] }
  return group

def closeGroup (group : Nat) (p : Pattern) : Read Unit := do
  let w := p.width (← groupWidths)
  modify fun r => { r with closed := r.closed.set (group - 1) (some w) }

def groupNamed? (name : List Char) : Read (Option Nat) := do return (← get).names.lookup (.ofList name)

end Pattern
end TagRules
