import TagRules.Pattern.Fold

/-!
Spots in a text, and where groups begin and end. Each group has two bounds, in the order of the opening
parentheses; a bound that is not set is missing, and behind the last one set there are none.
-/
namespace TagRules.Pattern

structure Bounds where
  toList : List (Option Nat)
  deriving DecidableEq, Repr

namespace Bounds

def none : Bounds := ⟨[]⟩

def size (b : Bounds) : Nat := b.toList.length

/-- A list with a bound set in it, extended as far as needed. -/
def put : List (Option Nat) → Nat → Nat → List (Option Nat)
  | [], 0, place => [some place]
  | [], i + 1, place => Option.none :: put [] i place
  | _ :: rest, 0, place => some place :: rest
  | bound :: rest, i + 1, place => bound :: put rest i place

def set (b : Bounds) (i place : Nat) : Bounds := ⟨put b.toList i place⟩

def get? (b : Bounds) (i : Nat) : Option Nat := b.toList[i]?.join

def first (b : Bounds) (count : Nat) : Bounds := ⟨b.toList.take count⟩

/-- Where a group begins and ends, if both bounds are set and in order. -/
def group? (b : Bounds) (group : Nat) : Option (Nat × Nat) := do
  let start ← b.get? (2 * (group - 1))
  let stop ← b.get? (2 * (group - 1) + 1)
  if start ≤ stop then some (start, stop) else Option.none

@[simp] theorem get?_set (b : Bounds) (i place : Nat) : (b.set i place).get? i = some place := by
  have h : ∀ (l : List (Option Nat)) (i : Nat), (put l i place)[i]? = some (some place) := by
    intro l i
    induction l, i, place using put.induct <;> simp_all [put]
  simp [get?, set, h]

end Bounds

/-- A spot in a text: what stands before it, nearest first, and what stands behind it. It knows the place
that was tried last, and the bounds of groups. -/
structure Spot where
  before : List Char
  after : List Char
  position : Nat
  tried : Nat
  bounds : Bounds

namespace Spot

def start (cs : List Char) : Spot := ⟨[], cs, 0, 0, .none⟩

/-- The spot as the place tried last. -/
def reached (s : Spot) : Spot := { s with tried := s.position }

def next? (s : Spot) : Option (Char × Spot) :=
  match s.after with
  | [] => none
  | c :: rest => some (c, { s with before := c :: s.before, after := rest, position := s.position + 1 })

/-- Some characters on, as far as there are any. -/
def forward (s : Spot) : Nat → Spot
  | 0 => s
  | n + 1 => match s.next? with
    | none => s
    | some (_, s') => s'.forward n

/-- Some characters back; nothing if there are too few. -/
def back? (s : Spot) : Nat → Option Spot
  | 0 => some s
  | n + 1 => match s.before with
    | [] => none
    | c :: rest => back? { s with before := rest, after := c :: s.after, position := s.position - 1 } n

def moved (s : Spot) (place : Nat) : Spot :=
  if s.position ≤ place then s.forward (place - s.position) else (s.back? (s.position - place)).getD s

def bound (s : Spot) (i : Nat) : Spot := { s with bounds := s.bounds.set i s.position }

def kept? (s : Spot) (group : Nat) : Option (List Char) :=
  (s.bounds.group? group).map fun (start, stop) =>
    ((s.before.reverse ++ s.after).drop start).take (stop - start)

/-- Whether a side of a spot begins with a letter, digit or low line. -/
def isWordSide (flags : Flags) (side : List Char) : Bool :=
  side.head?.any fun c => Category.word.contains (flags.contains .ascii) c.toNat

/-- Whether words begin or end at the spot. -/
def atEdge (s : Spot) (flags : Flags) : Bool := isWordSide flags s.before != isWordSide flags s.after

/-- Whether a condition on the place holds. An empty text has neither kind of boundary. -/
def holds (s : Spot) (flags : Flags) : Anchor → Bool
  | .textStart => s.before.isEmpty
  | .lineStart => s.before.isEmpty || (flags.contains .multiline && s.before.head? == some '\n')
  | .textEnd => s.after.isEmpty
  | .lineEnd => s.after.isEmpty || s.after == ['\n'] ||
    (flags.contains .multiline && s.after.head? == some '\n')
  | .boundary => (!s.before.isEmpty || !s.after.isEmpty) && s.atEdge flags
  | .noBoundary => (!s.before.isEmpty || !s.after.isEmpty) && !s.atEdge flags

/-- The spot behind a given text that stands here, up to case where it does not count. -/
def skip? (s : Spot) (f : Folding) : List Char → Option Spot
  | [] => some s
  | c :: rest => match s.next? with
    | none => none
    | some (d, s') => if f.lower c.toNat == f.lower d.toNat then skip? s' f rest else none

@[simp] theorem moved_self (s : Spot) : s.moved s.position = s := by simp [moved, forward]

end Spot
end TagRules.Pattern
