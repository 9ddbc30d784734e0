/-!
# Features

A feature has a flag, prerequisites and rules; a catalog is a list of features, in which the first
one of a name counts.  A prerequisite is met if the catalog has it with its flag set; its own rules
and prerequisites play no part.

Main statements: a name is found exactly if some feature has it (`find?_isSome_iff`), and the missing
prerequisites are some of those that were asked for, in their order (`missing_sublist`).
-/

namespace FeatureToggles

/-- A rule of a feature: the outcome `enabled` where the condition matches.  A rule that is disabled
always fails. -/
structure Rule where
  condition : String
  enabled : Bool
  disabled : Bool
deriving DecidableEq

/-- A feature of a catalog. -/
structure Feature where
  name : String
  enabled : Bool
  defaultEnabled : Bool
  dependsOn : List String
  rules : List Rule
deriving DecidableEq

/-- Features in their order. -/
abbrev Catalog := List Feature

namespace Catalog

/-- The first feature of a name. -/
def find? (catalog : Catalog) (name : String) : Option Feature :=
  List.find? (fun feature => feature.name == name) catalog

/-- Whether a name is that of a feature whose flag is set. -/
def meets (catalog : Catalog) (name : String) : Bool :=
  match catalog.find? name with
  | some feature => feature.enabled
  | none => false

/-- The prerequisites among some names that are absent or whose flag is not set. -/
def missing (catalog : Catalog) (names : List String) : List String :=
  names.filter fun name => !catalog.meets name

theorem find?_isSome_iff (catalog : Catalog) (name : String) :
    (catalog.find? name).isSome = true ↔ ∃ feature ∈ catalog, feature.name = name := by
  simp [find?, List.find?_isSome]

theorem missing_sublist (catalog : Catalog) (names : List String) :
    (catalog.missing names).Sublist names :=
  List.filter_sublist

end Catalog

end FeatureToggles
