import TagRules.Expr.Evidence
import TagRules.Extractor.Basic

/-!
Tagged fields, and the index from each tag to the fields where it was found.
-/
namespace TagRules

structure Field where
  name : String
  results : List (Value × Findings)

/-- The first of each group of equal values. -/
def distinct (vs : List Value) : List Value :=
  vs.foldl (fun seen v => if seen.contains v then seen else seen ++ [v]) []

/-- Tags with the fields where they were found, both in the order of finding. -/
abbrev TagIndex := List (Value × List String)

namespace Field

/-- All tags of some results, extractor by extractor. -/
def tagsOf (results : List (Value × Findings)) : List Value := results.flatMap (·.2.tags)

/-- The tags of a field, each once. -/
def tags (f : Field) : List Value := distinct (tagsOf f.results)

/-- Enters a field under each of its tags. -/
def enter (index : TagIndex) (f : Field) : TagIndex :=
  f.tags.foldl (fun index tag => Entries.extend index tag [f.name]) index

def index (fields : List Field) : TagIndex := fields.foldl enter []

end Field
namespace TagIndex

/-- The evidence of an index; expressions can only name tags that are texts. -/
def evidence (index : TagIndex) : Evidence :=
  index.filterMap fun (tag, paths) => tag.text?.map fun name => (name, some paths)

end TagIndex

/-- The tags found in a plain text, each once. -/
def textTags (results : List (Value × Findings)) : List Value := distinct (Field.tagsOf results)

/-- The evidence of tags found in a plain text, which has no fields. -/
def textEvidence (tags : List Value) : Evidence :=
  tags.filterMap fun tag => tag.text?.map fun name => (name, none)

end TagRules
