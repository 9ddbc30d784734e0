import FeatureToggles.Catalog.Document
import Mathlib.Tactic.Common

/-!
# What documents are read as

A record is read field by field, and what it is read as depends only on the values that its fields have
under the keys of each field, as far as the checks of the fields let them pass.  The places of issues do
not matter for this, so here a check either gives something or nothing.

Main statements: `toOption_optional`, `toOption_required`, `toOption_ruleFields_congr` and
`toOption_featureFields_congr`.
-/

namespace FeatureToggles

namespace Record

/-! ## The values of fields -/

/-- The value of a field that may stand under any of some keys. -/
def value? (keys : List String) (fields : Json.Fields) : Option Json :=
  keys.findSome? fields.get?

/-- What a check makes of the value of a field. -/
def checked? {α : Type} (check : Json → Checked α) (keys : List String) (fields : Json.Fields) :
    Option (Option α) :=
  (value? keys fields).map fun j => (check j).toOption

lemma get?_cons (field : String × Json) (fields : Json.Fields) (key : String) :
    Json.Fields.get? (field :: fields) key =
      if field.1 = key then some field.2 else fields.get? key := by
  by_cases h : field.1 = key <;> simp [Json.Fields.get?, h]

/-- A change to the values of a record changes what is found under a key. -/
lemma get?_map (f : String → Json → Json) (fields : Json.Fields) (key : String) :
    Json.Fields.get? (fields.map fun field => (field.1, f field.1 field.2)) key =
      (fields.get? key).map (f key) := by
  induction fields with
  | nil => rfl
  | cons field fields ih =>
      rw [List.map_cons, get?_cons, get?_cons, ih]
      by_cases hfield : field.1 = key <;> simp [hfield]

/-- Of the keys that are kept each has its value, and the others have none. -/
lemma get?_filter (p : String → Bool) (fields : Json.Fields) (key : String) :
    Json.Fields.get? (fields.filter fun field => p field.1) key =
      if p key then fields.get? key else none := by
  induction fields with
  | nil => simp [Json.Fields.get?]
  | cons field fields ih =>
      rw [List.filter_cons, get?_cons]
      by_cases hfield : field.1 = key
      · subst hfield
        cases hkept : p field.1 with
        | true => simp [get?_cons]
        | false => simpa [hkept] using ih
      · rw [if_neg hfield, ← ih]
        split_ifs
        · rw [get?_cons, if_neg hfield]
        · rfl

lemma value?_cons (key : String) (keys : List String) (fields : Json.Fields) :
    value? (key :: keys) fields = (fields.get? key).or (value? keys fields) := by
  unfold value?
  rw [List.findSome?_cons]
  cases fields.get? key <;> rfl

lemma mem_of_get?_eq_some {fields : Json.Fields} {key : String} {j : Json}
    (h : fields.get? key = some j) : (key, j) ∈ fields := by
  induction fields with
  | nil => simp [Json.Fields.get?] at h
  | cons field fields ih =>
      rw [get?_cons] at h
      split_ifs at h with hkey
      · obtain rfl := Option.some.inj h
        exact hkey ▸ List.mem_cons_self
      · exact List.mem_cons_of_mem field (ih h)

/-! ## Checks -/

lemma toOption_under {α : Type} (step : Step) (c : Checked α) :
    (c.under step).toOption = c.toOption := by
  cases c <;> rfl

lemma toOption_both {α β γ : Type} (f : α → β → γ) (a : Checked α) (b : Checked β) :
    (Checked.both f a b).toOption = a.toOption.bind fun x => b.toOption.map (f x) := by
  cases a <;> cases b <;> rfl

lemma pick_eq_none_or (keys : List String) (fields : Json.Fields) :
    (pick keys fields = none ∧ value? keys fields = none) ∨
      ∃ key j, pick keys fields = some (key, j) ∧ value? keys fields = some j := by
  unfold pick value?
  induction keys with
  | nil => exact .inl ⟨rfl, rfl⟩
  | cons key keys ih =>
      cases hkey : fields.get? key with
      | none => simpa [hkey] using ih
      | some j => exact .inr ⟨key, j, by simp [hkey], by simp [hkey]⟩

lemma toOption_optional {α : Type} (keys : List String) (default : α) (check : Json → Checked α)
    (fields : Json.Fields) :
    (optional keys default check fields).toOption =
      (checked? check keys fields).getD (some default) := by
  unfold optional checked?
  rcases pick_eq_none_or keys fields with ⟨hpick, hvalue⟩ | ⟨key, j, hpick, hvalue⟩
  · simp only [hpick, hvalue]
    rfl
  · simp only [hpick, hvalue, toOption_under]
    rfl

lemma toOption_required {α : Type} (key : String) (others : List String)
    (check : Json → Checked α) (fields : Json.Fields) :
    (required key others check fields).toOption =
      (checked? check (key :: others) fields).getD none := by
  unfold required checked?
  rcases pick_eq_none_or (key :: others) fields with ⟨hpick, hvalue⟩ | ⟨present, j, hpick, hvalue⟩
  · simp only [hpick, hvalue]
    rfl
  · simp only [hpick, hvalue, toOption_under]
    rfl

/-! ## Records -/

/-- Rules with the same values in their fields are read alike. -/
lemma toOption_ruleFields_congr {F G : Json.Fields}
    (hcondition : value? ["condition", "Condition"] F = value? ["condition", "Condition"] G)
    (henabled : value? enabledKeys F = value? enabledKeys G)
    (hdisabled : value? disabledKeys F = value? disabledKeys G) :
    (ruleFields F).toOption = (ruleFields G).toOption := by
  simp only [ruleFields, toOption_both, toOption_required, toOption_optional, checked?, hcondition,
    henabled, hdisabled]

/-- Features with the same values in their fields are read alike; of their rules it is enough that
these are read alike. -/
lemma toOption_featureFields_congr {F G : Json.Fields}
    (hname : value? ["name", "Name"] F = value? ["name", "Name"] G)
    (henabled : value? enabledKeys F = value? enabledKeys G)
    (hdefault : value? defaultKeys F = value? defaultKeys G)
    (hdepends : value? dependsKeys F = value? dependsKeys G)
    (hrules : checked? (listOf rule) rulesKeys F = checked? (listOf rule) rulesKeys G) :
    (featureFields F).toOption = (featureFields G).toOption := by
  simp only [featureFields, toOption_both, toOption_required, toOption_optional, hrules]
  simp only [checked?, hname, henabled, hdefault, hdepends]

/-- Lists of items that are read alike are read alike. -/
lemma toOption_all_mapIdx_congr {α : Type} {check : Json → Checked α} {items : List Json}
    {f g : Nat → Json → Json}
    (h : ∀ j ∈ items, ∀ i, (check (f i j)).toOption = (check (g i j)).toOption) (start : Nat) :
    (Checked.all check start (items.mapIdx f)).toOption =
      (Checked.all check start (items.mapIdx g)).toOption := by
  induction items generalizing f g start with
  | nil => rfl
  | cons j items ih =>
      rw [List.mapIdx_cons, List.mapIdx_cons, Checked.all, Checked.all, toOption_both,
        toOption_both, toOption_under, toOption_under, h j (by simp) 0,
        ih (fun j hj i => h j (by simp [hj]) (i + 1))]

/-! ## Documents -/

lemma toOption_ofJson_arr (source : String) (items : List Json) :
    (Catalog.ofJson source (.arr items)).toOption = (features items).toOption := by
  rw [Catalog.ofJson]
  cases features items <;> rfl

end Record

/-- A text holds a catalog if it is an array of records without issues. -/
lemma Catalog.ofText_eq_ok_iff {source : String} {cs : List Char} {catalog : Catalog} :
    ofText source cs = .ok catalog ↔
      ∃ items, Json.ofChars cs = .ok (.arr items) ∧ Record.features items = .ok catalog := by
  unfold ofText
  cases Json.ofChars cs with
  | error e => simp
  | ok j => simp [ofJson_eq_ok_iff]

/-- What a catalog is read from. -/
inductive Payload where
  | text (cs : List Char)
  | bytes (bs : List UInt8)

namespace Payload

/-- The catalog that a payload holds. -/
def catalog (source : String) : Payload → Except Fault Catalog
  | .text cs => Catalog.ofText source cs
  | .bytes bs => Catalog.ofBytes source bs

/-- Whether a payload is written in JSON, and stands for a document. -/
def Holds (payload : Payload) (j : Json) : Prop :=
  match payload with
  | .text cs => Json.ofChars cs = .ok j
  | .bytes bs => Json.ofBytes bs = .ok j

/-- Of what a payload holds only the document counts. -/
lemma catalog_of_holds {payload : Payload} {j : Json} (h : payload.Holds j) (source : String) :
    payload.catalog source = Catalog.ofJson source j := by
  cases payload with
  | text cs =>
      have htext : Json.ofChars cs = .ok j := h
      simp only [catalog, Catalog.ofText, htext]
  | bytes bs =>
      have hbytes : Json.ofBytes bs = .ok j := h
      simp only [catalog, Catalog.ofBytes, hbytes]

end Payload

end FeatureToggles
