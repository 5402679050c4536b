import TagRules.Pattern.Match
import TagRules.Pattern.Parse

/-!
Searching a text for a pattern: from left to right, at each place where a match can begin. A pattern that
begins with a letter or a set is looked for only in front of characters that the letter or set stands for.
For a set the flags of the whole pattern count there. Other patterns are looked for as long as there is
enough text for the least width.
-/
namespace TagRules.Pattern

/-- The letter that a pattern begins with, groups or not. -/
def leadLetter (flags : Flags) : Pattern → Lead
  | .empty => .nothing
  | .literal false code => if flags.folding.cases code code then .other else .letter code
  | .seq p q => match p.leadLetter flags with
    | .nothing => q.leadLetter flags
    | l => l
  | .capture _ p => p.leadLetter flags
  | .flagged on off p => p.leadLetter (flags.within on off)
  | _ => .other

/-- The letters that the branches of a choice begin with, if all do. -/
def leadLetters? (flags : Flags) : Pattern → Option (List Nat)
  | .alt p q => do return (← p.leadLetters? flags) ++ (← q.leadLetters? flags)
  | .seq (.literal false code) _ => if flags.folding.cases code code then none else some [code]
  | _ => none

/-- Whether a member of a set can change with case. -/
def Member.mayChange (f : Folding) : Member → Bool
  | .code n => f.cases n n
  | .range low high => f != .exact && (high > 0xFFFF || f.cases low high)
  | .category _ _ => false

/-- The test for the characters that a set or choice at the head of a pattern begins with, groups or not. -/
def leadTest? (ascii : Bool) (flags : Flags) : Pattern → Option (Char → Bool)
  | .seq p _ => p.leadTest? ascii flags
  | .capture _ p => p.leadTest? ascii flags
  | .flagged on off p => p.leadTest? ascii (flags.within on off)
  | .oneOf negated members =>
    if members.any (·.mayChange flags.folding) then none
    else some fun c => negated != members.any (·.contains ascii c.toNat)
  | .alt p q => (Pattern.alt p q).leadLetters? flags |>.map fun codes c => codes.contains c.toNat
  | _ => none

/-- The test for the characters that a match begins with, if they are known. -/
def Whole.leadTest? (w : Whole) : Option (Char → Bool) :=
  match w.pattern.leadLetter w.flags with
  | .letter code => some fun c => c.toNat == code
  | _ => w.pattern.leadTest? (w.flags.contains .ascii) w.flags

/-- Whether a matcher finds a way from a spot or from one of the next ones, where a match can begin. -/
def searchFrom (m : Matcher) (begins : Option Char → Bool) : Nat → Spot → Bool
  | 0, s => begins s.after.head? && (m.once s.reached).isFound
  | n + 1, s => (begins s.after.head? && (m.once s.reached).isFound) ||
    match s.next? with
    | some (_, t) => searchFrom m begins n t
    | none => false

def Whole.search (w : Whole) (text : String) : Bool :=
  let cs := text.toList
  let m := run w.pattern ⟨w.flags, false, none⟩
  if cs.length < w.width.min then false
  else match w.leadTest? with
    | some test => searchFrom m (·.any test) cs.length (.start cs)
    | none => searchFrom m (fun _ => true) (cs.length - (w.width.min - 1)) (.start cs)

/-- The test for texts that a pattern stands for. -/
def compile (ignoreCase : Bool) (source : String) : Except PatternError (String → Bool) := do
  return (← parse (if ignoreCase then [.ignoreCase] else []) source).search

end TagRules.Pattern
