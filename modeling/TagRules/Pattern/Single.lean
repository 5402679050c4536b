import TagRules.Pattern.Fold

/-!
Parts of a pattern that take one character, and what a pattern must begin with. A part is exact if it can
be compared with the characters of the text as they are, without regard to case.
-/
namespace TagRules.Pattern

/-- A part that takes one character. It is folded if it is tried on small forms in a set. -/
structure Single where
  test : Char → Bool
  isFolded : Bool

namespace Single

def ofLiteral (negated : Bool) (code : Nat) (flags : Flags) : Single where
  test c := negated != codeMatches flags code c
  isFolded :=
    let f := flags.folding
    f.cases code code && (f.alike (f.lower code)).length > 1

def ofMembers (negated : Bool) (members : List Member) (flags : Flags) : Single where
  test c := negated != membersMatch flags members c
  isFolded := isCasedSet flags members

def any (flags : Flags) : Single := ⟨fun c => flags.contains .dotAll || c != '\n', false⟩

end Single

/-- The part that is all there is to a pattern, if it takes one character. -/
def single? (flags : Flags) : Pattern → Option Single
  | .literal negated code => some (.ofLiteral negated code flags)
  | .oneOf negated members => some (.ofMembers negated members flags)
  | .any => some (.any flags)
  | .flagged on off p => p.single? (flags.within on off)
  | .seq p .empty => p.single? flags
  | _ => none

/-- What a pattern begins with, as far as it tells. -/
inductive Lead
  | nothing
  | letter (code : Nat)
  | set (test : Char → Bool)
  | other

/-- Whether a pattern cannot match in front of a character, or at the end. -/
def Lead.refuses : Lead → Option Char → Bool
  | .letter code, c => !c.any (·.toNat == code)
  | .set test, c => !c.any test
  | _, _ => false

/-- What a pattern begins with: an exact character, an exact set, or something else. -/
def lead (flags : Flags) : Pattern → Lead
  | .empty => .nothing
  | .literal false code => if flags.folding.cases code code then .other else .letter code
  | .oneOf negated members =>
    if isCasedSet flags members then .other else .set fun c => negated != membersMatch flags members c
  | .seq p q => match p.lead flags with
    | .nothing => q.lead flags
    | l => l
  | .flagged on off p => p.lead (flags.within on off)
  | _ => .other

def isAlt : Pattern → Bool
  | .alt _ _ => true
  | _ => false

end TagRules.Pattern
