import TagRules.Expr.Basic

/-!
The evidence that expressions are evaluated on: for each tag that was found, the field paths it was
found at, or nothing where no field is known.
-/
namespace TagRules

/-- Whether a path starts with a scope, character by character. -/
def startsWith (scope path : String) : Bool := scope.toList.isPrefixOf path.toList

/-- Tags with the field paths they were found at. -/
abbrev Evidence := List (String × Option (List String))

namespace Evidence

/-- Whether a reference is met: its tag is there, and if it has a scope, so is a path under it. -/
def meets (evidence : Evidence) (r : Reference) : Bool :=
  match evidence.lookup r.name with
  | none => false
  | some paths => r.scope.isEmpty || (paths.getD []).any (startsWith r.scope)

@[simp] theorem meets_nil (r : Reference) : meets [] r = false := rfl

end Evidence
end TagRules
