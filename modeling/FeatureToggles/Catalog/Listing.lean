import FeatureToggles.Json
import FeatureToggles.Feature

/-!
# Listings

Features as JSON, in the form in which the service shows them; it is also a form of the records of a
catalog document.

Main statement: a listing has one item for each feature (`length_listing`).
-/

namespace FeatureToggles

/-- A rule as JSON. -/
def Rule.toJson (rule : Rule) : Json :=
  .obj [("condition", .str rule.condition), ("enabled", .bool rule.enabled),
    ("disabled", .bool rule.disabled)]

/-- A feature as JSON. -/
def Feature.toJson (feature : Feature) : Json :=
  .obj [("name", .str feature.name), ("enabled", .bool feature.enabled),
    ("default_enabled", .bool feature.defaultEnabled),
    ("depends_on", .arr (feature.dependsOn.map .str)),
    ("rules", .arr (feature.rules.map Rule.toJson))]

namespace Catalog

/-- The features of a catalog as the items of a JSON array. -/
def listing (catalog : Catalog) : List Json := catalog.map Feature.toJson

theorem length_listing (catalog : Catalog) : catalog.listing.length = catalog.length := by
  simp [listing]

end Catalog

end FeatureToggles
