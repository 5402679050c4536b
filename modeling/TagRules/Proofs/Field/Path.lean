import TagRules.Field.Path
import Mathlib.Tactic.Lemma

/-!
Paths as they are spelled: names with dots between them.
-/
namespace TagRules

/-- Names as a path. The empty ones in front have no dot behind them. -/
def dotted (names : List String) : String := ".".intercalate (names.dropWhile (·.isEmpty))

/-- The name that stands for a place in a list. -/
def indexName (i : Nat) : String := "index(" ++ toString i ++ ")"

lemma elementName_eq (i : Nat) : elementName i = indexName i := rfl

lemma dotted_singleton (name : String) : dotted [name] = name := by
  unfold dotted
  cases hn : name.isEmpty with
  | true =>
    obtain rfl := String.isEmpty_iff.1 hn
    rfl
  | false => simp [hn]

/-- From a path the names of parts go on as from the root. -/
lemma dotted_cons_cons (path name : String) (names : List String) :
    dotted (path :: name :: names) = dotted (childPath path name :: names) := by
  unfold dotted childPath
  cases hp : path.isEmpty with
  | true => simp [hp]
  | false => simp [hp, String.append_assoc]

lemma childPath_eq (path name : String) : childPath path name = dotted [path, name] := by
  rw [dotted_cons_cons, dotted_singleton]

end TagRules
