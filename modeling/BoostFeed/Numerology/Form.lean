import BoostFeed.Numerology.Annotation
import BoostFeed.Json.Record

/-! The JSON form of rules and annotations, for a renderer in another process. -/

namespace BoostFeed.Numerology

open Json

def Comparison.name : Comparison → String
  | .equal => "Equal"
  | .less => "Less"
  | .lessOrEqual => "LessOrEqual"
  | .greater => "Greater"
  | .greaterOrEqual => "GreaterOrEqual"

def Predicate.toTree : Predicate → Tree
  | .compare c bound => .ofFields [("compare", .ofText c.name), ("bound", .ofNat bound.toNat)]
  | .pattern text _ => .ofFields [("pattern", .ofText text)]

def Rule.toTree (r : Rule) : Tree := .ofFields [
  ("name", .ofText r.name), ("emoji", .ofText r.emoji), ("sound_file", .ofOption .ofText r.soundFile),
  ("kind", r.predicate.toTree), ("equality", .bool r.isEquality)]

def Annotation.fields (a : Annotation) : List (String × Tree) := [
  ("glyphs", .ofText a.glyphs), ("tooltip", .ofText a.tooltip),
  ("sound_files", .ofList .ofText a.soundFiles)]

def Annotation.toTree (a : Annotation) : Tree := .ofFields a.fields

end BoostFeed.Numerology
