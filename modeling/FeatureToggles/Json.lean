import FeatureToggles.Number.Binary64

/-!
# JSON values

The data of JSON documents.  Integers and binary numbers are kept apart, as a document writes them
apart.  The fields of an object are kept in their order, and a field that is written again replaces
the earlier value.

Main statement: reading a field that was just set gives the value that was set (`Fields.get?_set`).
-/

namespace FeatureToggles

/-- A JSON value. -/
inductive Json where
  | null
  | bool (b : Bool)
  | int (i : Int)
  | float (x : Binary64)
  | str (s : String)
  | arr (items : List Json)
  | obj (fields : List (String × Json))

namespace Json

/-- The fields of an object. -/
abbrev Fields := List (String × Json)

/-- The value of a field. -/
def Fields.get? (fields : Fields) (key : String) : Option Json :=
  (fields.find? fun field => field.1 == key).map (·.2)

/-- Sets a field: in its place if it is there, else at the end. -/
def Fields.set (fields : Fields) (key : String) (v : Json) : Fields :=
  match fields with
  | [] => [(key, v)]
  | field :: rest => if field.1 == key then (key, v) :: rest else field :: set rest key v

/-- The fields of an object as a document lists them: of a key that occurs again the last value
counts. -/
def Fields.ofList (fields : List (String × Json)) : Fields :=
  fields.foldl (fun acc field => Fields.set acc field.1 field.2) []

/-- The value of a field of an object. -/
def field? (j : Json) (key : String) : Option Json :=
  match j with
  | .obj fields => Fields.get? fields key
  | _ => none

theorem Fields.get?_set (fields : Fields) (key : String) (v : Json) :
    (fields.set key v).get? key = some v := by
  induction fields with
  | nil => simp [set, get?]
  | cons field rest ih =>
    by_cases h : field.1 = key
    · simp [set, get?, h]
    · have : (field.1 == key) = false := by simp [h]
      simpa [set, get?, this] using ih

mutual

/-- Whether all numbers of a value are finite. -/
def isFinite : Json → Bool
  | .float (.finite ..) => true
  | .float _ => false
  | .arr items => areFinite items
  | .obj fields => areFiniteFields fields
  | _ => true
termination_by structural j => j

/-- Whether all numbers of some values are finite. -/
def areFinite : List Json → Bool
  | [] => true
  | j :: js => isFinite j && areFinite js
termination_by structural js => js

/-- Whether all numbers of some fields are finite. -/
def areFiniteFields : List (String × Json) → Bool
  | [] => true
  | (_, j) :: fields => isFinite j && areFiniteFields fields
termination_by structural fields => fields

end

end Json

end FeatureToggles
