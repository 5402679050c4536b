/-!
Lines of a text: line ends made uniform, and the place of a position.
-/
namespace TagRules

/-- Every line end becomes a line feed. -/
def uniformLines : List Char → List Char
  | '\r' :: '\n' :: rest => '\n' :: uniformLines rest
  | '\r' :: rest => '\n' :: uniformLines rest
  | c :: rest => c :: uniformLines rest
  | [] => []

/-- Line and column of a position, counted from one. -/
def placeOf (cs : List Char) (position : Nat) : Nat × Nat :=
  let before := cs.take position
  (before.count '\n' + 1, (before.reverse.takeWhile (· ≠ '\n')).length + 1)

/-- A text without the line feeds at its end. -/
def dropFinalLines (cs : List Char) : List Char := (cs.reverse.dropWhile (· = '\n')).reverse

def joined (separator : String) (parts : List String) : String := separator.intercalate parts

end TagRules
