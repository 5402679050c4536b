import TagRules.Expr.Evidence

/-!
Paths of fields in nested data, and which of them are selected.
-/
namespace TagRules

/-- The path of a part; the root has the empty path and gives no dot. -/
def childPath (parent name : String) : String :=
  if parent.isEmpty then name else parent ++ "." ++ name

def elementName (i : Nat) : String := "index(" ++ toString i ++ ")"

/-- Prefixes of the paths to take and of the paths to leave out. -/
structure Selection where
  included : List String
  excluded : List String

namespace Selection

def everything : Selection := ⟨[], []⟩

/-- A path is taken under a given prefix, or anywhere if none is given, but never under an excluded one. -/
def admits (s : Selection) (path : String) : Bool :=
  !s.excluded.any (startsWith · path) && (s.included.isEmpty || s.included.any (startsWith · path))

end Selection
end TagRules
