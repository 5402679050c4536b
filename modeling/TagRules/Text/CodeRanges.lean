/-!
Sets of characters given by ranges of code points.
-/
namespace TagRules

/-- Ascending, disjoint, inclusive ranges of code points. -/
abbrev CodeRanges := List (Nat × Nat)

namespace CodeRanges

/-- Membership; the search ends at the first range that reaches the code point. -/
def contains : CodeRanges → Nat → Bool
  | [], _ => false
  | (low, high) :: rest, n => if n ≤ high then low ≤ n else contains rest n

@[simp] theorem contains_nil (n : Nat) : contains [] n = false := rfl

def meets (rs : CodeRanges) (low high : Nat) : Bool :=
  rs.any fun (a, b) => a ≤ high && low ≤ b

end CodeRanges
end TagRules
