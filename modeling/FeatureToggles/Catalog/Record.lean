import FeatureToggles.Validation
import FeatureToggles.Feature

/-!
# Records

The form in which a catalog document holds features and rules: JSON objects whose fields may be
spelled in several ways.  Of the keys of a field the first one that is present counts, whatever its
value; keys that belong to no field are ignored.  A record is checked field by field, and the issues
of all fields are listed in the order of the fields.

Main statements: a field is read from the first of its keys that is present (`pick_eq_some_iff`), and
lists that are null are empty (`listOf_null`).
-/

namespace FeatureToggles

namespace Record

/-! ## Fields -/

/-- The value of a field that may stand under any of some keys, with the key that counts. -/
def pick (keys : List String) (fields : Json.Fields) : Option (String × Json) :=
  keys.findSome? fun key => (fields.get? key).map fun j => (key, j)

/-- Reads a field that has to be there; one that is absent is reported under its first key. -/
def required {α : Type} (key : String) (others : List String) (check : Json → Checked α)
    (fields : Json.Fields) : Checked α :=
  match pick (key :: others) fields with
  | some (present, j) => (check j).under (.key present)
  | none => (Checked.fail .missing).under (.key key)

/-- Reads a field that may be absent. -/
def optional {α : Type} (keys : List String) (default : α) (check : Json → Checked α)
    (fields : Json.Fields) : Checked α :=
  match pick keys fields with
  | some (present, j) => (check j).under (.key present)
  | none => .ok default

/-- Reads a list, each item by a check; null is the empty list. -/
def listOf {α : Type} (check : Json → Checked α) : Json → Checked (List α)
  | .null => .ok []
  | .arr items => Checked.all check 0 items
  | _ => Checked.fail .notList

/-- Reads the fields of an object that is to be a record of some name. -/
def object {α : Type} (name : String) (check : Json.Fields → Checked α) : Json → Checked α
  | .obj fields => check fields
  | _ => Checked.fail (.notRecord name)

/-! ## Keys -/

/-- The keys of a flag, the documented one first. -/
def enabledKeys : List String := ["enabled", "isEnabled", "is_enabled", "IsEnabled"]

/-- The keys of the flag that marks a rule as disabled. -/
def disabledKeys : List String := ["disabled", "Disabled"]

/-- The keys of the default flag of a feature. -/
def defaultKeys : List String := ["defaultEnabled", "default_enabled", "DefaultEnabled"]

/-- The keys of the prerequisites of a feature. -/
def dependsKeys : List String := ["dependsOn", "depends_on", "DependsOn"]

/-- The keys of the rules of a feature. -/
def rulesKeys : List String := ["rules", "Rules"]

/-! ## Records -/

/-- Reads the fields of a rule.  A rule is off unless it is switched on. -/
def ruleFields (fields : Json.Fields) : Checked Rule :=
  Checked.both (fun condition flags => ⟨condition, flags.1, flags.2⟩)
    (required "condition" ["Condition"] string fields)
    (Checked.both Prod.mk
      (optional enabledKeys false boolean fields)
      (optional disabledKeys false boolean fields))

/-- Reads a rule. -/
def rule : Json → Checked Rule := object "RuleRecord" ruleFields

/-- Reads the fields of a feature. -/
def featureFields (fields : Json.Fields) : Checked Feature :=
  Checked.both (fun name rest => ⟨name, rest.1.1, rest.1.2, rest.2.1, rest.2.2⟩)
    (required "name" ["Name"] string fields)
    (Checked.both Prod.mk
      (Checked.both Prod.mk
        (optional enabledKeys false boolean fields)
        (optional defaultKeys false boolean fields))
      (Checked.both Prod.mk
        (optional dependsKeys [] (listOf string) fields)
        (optional rulesKeys [] (listOf rule) fields)))

/-- Reads a feature. -/
def feature : Json → Checked Feature := object "FeatureRecord" featureFields

/-- Reads the features of a document, in their order. -/
def features (items : List Json) : Checked Catalog := Checked.all feature 0 items

/-! ## Lemmas -/

theorem pick_eq_some_iff {keys : List String} {fields : Json.Fields} {key : String} {j : Json} :
    pick keys fields = some (key, j) ↔
      ∃ before after, keys = before ++ key :: after ∧ fields.get? key = some j ∧
        ∀ k ∈ before, fields.get? k = none := by
  simp only [pick, List.findSome?_eq_some_iff, Option.map_eq_some_iff, Option.map_eq_none_iff]
  constructor
  · rintro ⟨before, k, after, hkeys, ⟨j', hj', heq⟩, hbefore⟩
    cases heq
    exact ⟨before, after, hkeys, hj', hbefore⟩
  · rintro ⟨before, after, hkeys, hj, hbefore⟩
    exact ⟨before, key, after, hkeys, ⟨j, hj, rfl⟩, hbefore⟩

theorem listOf_null {α : Type} (check : Json → Checked α) : listOf check .null = .ok [] := rfl

end Record

end FeatureToggles
