import TagRules.Number.Integer
import TagRules.Pattern.Branches
import TagRules.Pattern.Reader

/-!
Reading repetition: a mark or bounds in braces, and behind it the order in which counts are tried.
-/
namespace TagRules.Pattern

/-- A bound from its digits; nothing if there are none. -/
def boundOf (digits : List Char) : Read (Option Nat) := do
  if digits.length > IntegerError.digitLimit then throw (.tooManyDigits digits.length)
  let bound := ofDigits? 10 digits
  if bound.any (· ≥ manyRepetitions) then throw .tooManyRepetitions
  return bound

/-- Bounds in braces after the opening one; nothing if they are no bounds. -/
def readBounds : Read (Option (Nat × Option Nat)) := do
  let saved ← get
  if (← peek) = some (.plain '\x7d') then return none
  let start := saved.position
  let low ← takeAll Char.isDigit
  let high ← if ← accept ',' then takeAll Char.isDigit else pure low
  if !(← accept '\x7d') then
    set saved
    return none
  let least := (← boundOf low).getD 0
  let most ← boundOf high
  if most.any (· < least) then
    failAt ((← get).position - start) "min repeat greater than max repeat"
  return some (least, most)

/-- The bounds that a repetition mark gives; nothing for a brace that is just a character. -/
def boundsOf (mark : Char) : Read (Option (Nat × Option Nat)) :=
  if mark = '?' then return some (0, some 1)
  else if mark = '*' then return some (0, none)
  else if mark = '+' then return some (1, none)
  else readBounds

/-- The mark behind a repetition that says in which order counts are tried. -/
def readGreed : Read Greed := do
  if ← accept '?' then return .fewest
  if ← accept '+' then return .possessive
  return .most

/-- Repeats the last item, given the place behind the repetition mark. -/
def repeatLast (start : Nat) (bounds : Nat × Option Nat) (items : List Item) : Read (List Item) := do
  let complain (reason : String) : Read (List Item) := do failAt ((← get).position - start + 1) reason
  match items with
  | [] | .one (.anchor _) :: _ => complain "nothing to repeat"
  | .one (.repeated ..) :: _ => complain "multiple repeat"
  | last :: before =>
    let greed ← readGreed
    return .one (.repeated greed bounds.1 bounds.2 (sequence last.parts)) :: before

end TagRules.Pattern
