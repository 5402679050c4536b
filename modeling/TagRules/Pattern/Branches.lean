import TagRules.Pattern.Syntax

/-!
Putting patterns together. Alternatives that begin alike share their head, and single characters make up
a set. What stands in parentheses that keep nothing is put into the sequence around it, but counts as one
for the repetition after it.
-/
namespace TagRules.Pattern

/-- What one step of a sequence reads: a single pattern, or a plain group of them. -/
inductive Item
  | one (p : Pattern)
  | group (ps : List Pattern)

def Item.parts : Item → List Pattern
  | .one p => [p]
  | .group ps => ps

def flatten (items : List Item) : List Pattern := items.reverse.flatMap Item.parts

/-- The common head of all alternatives, if they can share it. -/
def sharedHead? : List (List Pattern) → Option Pattern
  | [] => none
  | branch :: rest => match branch with
    | [] => none
    | p :: _ => if p.isShared && rest.all fun b => b.head? == some p then some p else none

/-- The members of a set that does the same as an alternative. -/
def membersOf? : List Pattern → Option (List Member)
  | [.literal false n] => some [.code n]
  | [.oneOf false ms] => some ms
  | _ => none

/-- Alternatives with the common head taken out; single characters make up a set. -/
def joinBranches : Nat → List (List Pattern) → List Pattern
  | 0, branches => [choice (branches.map sequence)]
  | fuel + 1, branches =>
    match sharedHead? branches with
    | some p => p :: joinBranches fuel (branches.map List.tail)
    | none => match branches.mapM membersOf? with
      | some sets => [.oneOf false sets.flatten.eraseDups]
      | none => [choice (branches.map sequence)]

/-- One sequence stays as it is. -/
def alternatives : List (List Pattern) → List Pattern
  | [] => []
  | [only] => only
  | branches => joinBranches (branches.headD []).length.succ branches

end TagRules.Pattern
