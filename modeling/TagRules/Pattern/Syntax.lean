/-!
Search patterns. A pattern describes texts by single characters, sets, repetition, alternatives, groups
that keep what they matched, and looks ahead and behind.
-/
namespace TagRules

namespace Pattern

/-- A choice that holds for a whole pattern or for a group. -/
inductive Flag
  | ignoreCase
  | multiline
  | dotAll
  | verbose
  | ascii
  | unicode
  | locale
  | template
  deriving DecidableEq, Repr

abbrev Flags := List Flag

namespace Flags

/-- Flags that say which characters are letters; a group's choice replaces the outer one. -/
def isType (f : Flag) : Bool := f == .ascii || f == .unicode || f == .locale

/-- The flags inside a group that turns some on and some off. -/
def within (outer on off : Flags) : Flags :=
  let kept := if on.any isType then outer.filter (!isType ·) else outer
  (kept ++ on).filter (!off.contains ·)

@[simp] theorem within_nil (outer : Flags) : within outer [] [] = outer := by simp [within]

end Flags

inductive Category
  | digit
  | blank
  | word
  deriving DecidableEq, Repr

inductive Member
  | code (n : Nat)
  | range (low high : Nat)
  | category (negated : Bool) (c : Category)
  deriving DecidableEq, Repr

/-- A condition on a place in a text. -/
inductive Anchor
  | textStart
  | lineStart
  | textEnd
  | lineEnd
  | boundary
  | noBoundary
  deriving DecidableEq, Repr

/-- The order in which a repetition tries counts; a possessive one never goes back. -/
inductive Greed
  | most
  | fewest
  | possessive
  deriving DecidableEq, Repr

/-- The number that counts as no limit, for repetitions as for lengths. -/
def manyRepetitions : Nat := 4294967295

/-- The least and the greatest length of the texts that a pattern matches. The least stays below the number
that counts as no limit, and the greatest ends there. -/
structure Width where
  min : Nat
  max : Nat
  deriving DecidableEq, Repr

namespace Width

def single : Width := ⟨1, 1⟩

def none : Width := ⟨0, 0⟩

def within (min max : Nat) : Width := ⟨Nat.min min (manyRepetitions - 1), Nat.min max manyRepetitions⟩

def add (a b : Width) : Width := .within (a.min + b.min) (a.max + b.max)

def either (a b : Width) : Width := ⟨Nat.min a.min b.min, Nat.max a.max b.max⟩

/-- What repetition matches; nothing repeated is still nothing. -/
def times (w : Width) (min : Nat) (max : Option Nat) : Width :=
  .within (w.min * min) (w.max * max.getD manyRepetitions)

def isFixed (w : Width) : Bool := w.min == w.max

end Width
end Pattern

open Pattern in
/-- A search pattern. Groups are numbered from one. -/
inductive Pattern
  | empty
  | literal (negated : Bool) (code : Nat)
  | oneOf (negated : Bool) (members : List Member)
  | any
  | anchor (a : Anchor)
  | seq (p q : Pattern)
  | alt (p q : Pattern)
  | repeated (greed : Greed) (min : Nat) (max : Option Nat) (p : Pattern)
  | capture (group : Nat) (p : Pattern)
  | flagged (on off : Flags) (p : Pattern)
  | atomic (p : Pattern)
  | ahead (negated : Bool) (p : Pattern)
  | behind (negated : Bool) (width : Width) (p : Pattern)
  | back (group : Nat)
  | conditional (group : Nat) (yes no : Pattern)
  deriving DecidableEq, Repr

namespace Pattern

def sequence (ps : List Pattern) : Pattern := ps.foldr seq empty

/-- The first alternative that leads on. -/
def choice : List Pattern → Pattern
  | [] => .oneOf false []
  | [p] => p
  | p :: ps => alt p (choice ps)

/-- The width of a pattern, given those of the groups it refers back to. -/
def width (groups : Nat → Width) : Pattern → Width
  | .empty | .anchor _ | .ahead _ _ | .behind _ _ _ => .none
  | .literal _ _ | .oneOf _ _ | .any => .single
  | .seq p q => (p.width groups).add (q.width groups)
  | .alt p q => (p.width groups).either (q.width groups)
  | .repeated _ min max p => (p.width groups).times min max
  | .capture _ p | .flagged _ _ p | .atomic p => p.width groups
  | .back group => groups group
  | .conditional _ yes no => (yes.width groups).either (no.width groups)

/-- Whether equal patterns at the head of all alternatives are tried only once. -/
def isShared : Pattern → Bool
  | .literal _ _ | .oneOf _ _ | .any | .anchor _ | .back _ => true
  | _ => false

end Pattern
end TagRules
