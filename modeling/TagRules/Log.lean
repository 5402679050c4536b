import TagRules.Value.Display

/-!
What the library notes as it works, for whoever asks for details.
-/
namespace TagRules

/-- Something worth a line when details are asked for. -/
inductive Note
  | skippedKey (key : Value) (path : String)
  | skippedValue (v : Value) (path : String)
  | tagged (count : Nat)
  | registered (rule : String) (count : Nat)

namespace Note

/-- The part of the library that a note comes from. -/
def source : Note → String
  | .registered _ _ => "tagthem.rules.engine"
  | _ => "tagthem.tagger.tagger"

def text : Note → String
  | .skippedKey key path => "Skipping non-string key " ++ key.display ++ " under '" ++ path ++ "'"
  | .skippedValue v path => "Skipping unsupported " ++ v.shortTypeName ++ " value at '" ++ path ++ "'"
  | .tagged count => "Tagged " ++ toString count ++ " field(s)"
  | .registered rule count =>
    "Registered rule '" ++ rule ++ "' with " ++ toString count ++ " expression(s)"

end Note
end TagRules
