import FeatureToggles.Json
import FeatureToggles.Value

/-!
# The values of JSON

A JSON value stands for a value of a context: an array for a list of values, and an object for a mapping
with its keys as texts.

Main statement: an object stands for as many entries as it has fields (`length_toEntries`).
-/

namespace FeatureToggles

namespace Json

mutual

/-- The value of a context that a JSON value stands for. -/
def toValue : Json → Value
  | .null => .null
  | .bool b => .bool b
  | .int i => .number (.int i)
  | .float x => .number (.float x)
  | .str s => .text s
  | .arr items => .list (toValues items)
  | .obj fields => .map (toEntries fields)
termination_by structural j => j

/-- The values that the items of an array stand for. -/
def toValues : List Json → List Value
  | [] => []
  | j :: js => toValue j :: toValues js
termination_by structural js => js

/-- The entries that the fields of an object stand for. -/
def toEntries : List (String × Json) → List (Value × Value)
  | [] => []
  | (key, j) :: fields => (.text key, toValue j) :: toEntries fields
termination_by structural fields => fields

end

theorem length_toEntries (fields : Fields) : (toEntries fields).length = fields.length := by
  induction fields with
  | nil => rfl
  | cons field fields ih => simp [toEntries, ih]

end Json

end FeatureToggles
