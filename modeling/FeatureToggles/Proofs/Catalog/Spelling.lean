import FeatureToggles.Proofs.Catalog.Reading
import Mathlib

/-!
# Spellings of keys

The keys of records are documented in one spelling, and each may be spelled in three: in camel case, in
snake case, or in Pascal case, whichever is chosen for a key of a record.  A document is read as the same
catalog whatever is chosen, but for one key: a flag spelled `Enabled` is not heard, so that the record
reads as if the key were not there.

Main statement: `catalog_respelled`.
-/

namespace FeatureToggles

/-! ## Keys and their spellings -/

/-- The ways to spell a key. -/
inductive Spelling where
  | camel
  | snake
  | pascal
deriving DecidableEq

namespace Spelling

/-- A word with its first letter in upper case. -/
def capitalized (word : String) : String :=
  match word.toList with
  | [] => ""
  | c :: cs => String.ofList (c.toUpper :: cs)

/-- The words of a key, written as one. -/
def write : Spelling → List String → String
  | .camel, [] => ""
  | .camel, word :: words => word ++ String.join (words.map capitalized)
  | .snake, words => "_".intercalate words
  | .pascal, words => String.join (words.map capitalized)

/-- All spellings. -/
def all : List Spelling := [.camel, .snake, .pascal]

lemma mem_all (s : Spelling) : s ∈ all := by cases s <;> simp [all]

end Spelling

namespace Record

/-- The documented keys of features and rules. -/
inductive Key where
  | name
  | enabled
  | isEnabled
  | defaultEnabled
  | dependsOn
  | rules
  | condition
  | disabled
deriving DecidableEq

namespace Key

/-- The words of a key. -/
def words : Key → List String
  | .name => ["name"]
  | .enabled => ["enabled"]
  | .isEnabled => ["is", "enabled"]
  | .defaultEnabled => ["default", "enabled"]
  | .dependsOn => ["depends", "on"]
  | .rules => ["rules"]
  | .condition => ["condition"]
  | .disabled => ["disabled"]

/-- A key in some spelling. -/
def spelled (k : Key) (s : Spelling) : String := s.write k.words

/-- A key as it is documented. -/
def documented (k : Key) : String := k.spelled .camel

/-- All keys. -/
def all : List Key :=
  [.name, .enabled, .isEnabled, .defaultEnabled, .dependsOn, .rules, .condition, .disabled]

lemma mem_all (k : Key) : k ∈ all := by cases k <;> simp [all]

/-- No two keys share a spelling. -/
lemma eq_of_spelled_eq {k k' : Key} {s s' : Spelling} (h : k.spelled s = k'.spelled s') :
    k = k' := by
  have hall : (all.all fun k => all.all fun k' => Spelling.all.all fun s => Spelling.all.all fun s' =>
      k.spelled s != k'.spelled s' || k == k') = true := by decide +kernel
  simp only [List.all_eq_true] at hall
  simpa [h] using hall k (mem_all k) k' (mem_all k') s s.mem_all s' s'.mem_all

/-- A key in every spelling. -/
def spellings (k : Key) : List String := Spelling.all.map k.spelled

lemma mem_spellings {k : Key} {name : String} :
    name ∈ k.spellings ↔ ∃ s, k.spelled s = name := by
  simp [spellings, Spelling.mem_all]

/-- The names under which records look for a key. -/
def aliases : Key → List String
  | .name => ["name", "Name"]
  | .enabled => ["enabled"]
  | .isEnabled => ["isEnabled", "is_enabled", "IsEnabled"]
  | .defaultEnabled => defaultKeys
  | .dependsOn => dependsKeys
  | .rules => rulesKeys
  | .condition => ["condition", "Condition"]
  | .disabled => disabledKeys

/-- All keys but one are looked for in every spelling, and in no other way. -/
lemma mem_aliases {k : Key} (hk : k ≠ .enabled) {name : String} :
    name ∈ k.aliases ↔ ∃ s, k.spelled s = name := by
  have hall : (all.all fun k => k == .enabled || k.aliases.all (k.spellings.contains ·) &&
      k.spellings.all (k.aliases.contains ·)) = true := by decide +kernel
  simp only [List.all_eq_true] at hall
  have hkey := hall k (mem_all k)
  simp only [hk, beq_iff_eq, Bool.or_eq_true, Bool.and_eq_true, List.all_eq_true,
    List.contains_iff_mem, false_or] at hkey
  rw [← mem_spellings]
  exact ⟨hkey.1 name, hkey.2 name⟩

end Key

/-- The keys of a feature. -/
def featureKeys : List Key :=
  [.name, .enabled, .isEnabled, .defaultEnabled, .dependsOn, .rules]

/-- The keys of a rule. -/
def ruleKeys : List Key := [.condition, .enabled, .isEnabled, .disabled]

/-! ## Spellings of documents -/

/-- The spelling that is chosen for each key of a record. -/
abbrev Choice := Key → Spelling

/-- A name in the spelling that is chosen for it, if it is one of some keys. -/
def respelledName (keys : List Key) (choice : Choice) (name : String) : String :=
  match keys.find? fun k => k.documented == name with
  | some k => k.spelled (choice k)
  | none => name

/-- The fields of a record in the spelling that is chosen for each of some keys. -/
def respelledFields (keys : List Key) (choice : Choice) (fields : Json.Fields) : Json.Fields :=
  fields.map fun field => (respelledName keys choice field.1, field.2)

/-- The fields of a record that are heard: a flag is not in Pascal case. -/
def heardFields (choice : Choice) (fields : Json.Fields) : Json.Fields :=
  fields.filter fun field =>
    !(choice .enabled == .pascal && field.1 == Key.enabled.documented)

/-- Changes the fields of an object. -/
def mapObject (f : Json.Fields → Json.Fields) : Json → Json
  | .obj fields => .obj (f fields)
  | j => j

/-- Changes the items of an array, each by its index. -/
def mapItems (f : Nat → Json → Json) : Json → Json
  | .arr items => .arr (items.mapIdx f)
  | j => j

/-- Changes the fields of the rules of a feature, each by its index. -/
def mapRules (f : Nat → Json.Fields → Json.Fields) (fields : Json.Fields) : Json.Fields :=
  fields.map fun field =>
    (field.1, if field.1 = Key.rules.documented then mapItems (fun j => mapObject (f j)) field.2
      else field.2)

/-- Changes the fields of the records of a document: those of a feature by its index alone, those of a
rule by the index of the feature and its own. -/
def mapRecords (f : Nat → Option Nat → Json.Fields → Json.Fields) : Json → Json :=
  mapItems fun i => mapObject fun fields => f i none (mapRules (fun j => f i (some j)) fields)

/-- The keys of a record, which is a rule if it has an index among rules. -/
def keysOf (rule : Option Nat) : List Key := if rule.isNone then featureKeys else ruleKeys

/-- A document in the spelling that is chosen for each key of each record. -/
def respelled (choice : Nat → Option Nat → Choice) : Json → Json :=
  mapRecords fun i r => respelledFields (keysOf r) (choice i r)

/-- A document without the flags that are not heard. -/
def heard (choice : Nat → Option Nat → Choice) : Json → Json :=
  mapRecords fun i r => heardFields (choice i r)

/-- Whether something holds of the fields of an object. -/
def OnObject (p : Json.Fields → Prop) : Json → Prop
  | .obj fields => p fields
  | _ => True

/-- Whether something holds of the items of an array. -/
def OnItems (p : Json → Prop) : Json → Prop
  | .arr items => ∀ j ∈ items, p j
  | _ => True

/-- Whether the fields of a record spell some keys as documented, and no other way. -/
def IsDocumented (keys : List Key) (fields : Json.Fields) : Prop :=
  ∀ field ∈ fields, ∀ k ∈ keys, field.1 ∈ k.spellings → field.1 = k.documented

/-- Whether the fields of a feature and those of its rules spell their keys as documented. -/
def IsDocumentedFeature (fields : Json.Fields) : Prop :=
  IsDocumented featureKeys fields ∧ ∀ field ∈ fields, field.1 = Key.rules.documented →
    OnItems (OnObject (IsDocumented ruleKeys)) field.2

/-- Whether all records of a document spell their keys as documented. -/
def IsDocumentedIn : Json → Prop := OnItems (OnObject IsDocumentedFeature)

instance {p : Json.Fields → Prop} [DecidablePred p] : DecidablePred (OnObject p)
  | .obj fields => inferInstanceAs (Decidable (p fields))
  | .null | .bool _ | .int _ | .float _ | .str _ | .arr _ => .isTrue trivial

instance {p : Json → Prop} [DecidablePred p] : DecidablePred (OnItems p)
  | .arr items => inferInstanceAs (Decidable (∀ j ∈ items, p j))
  | .null | .bool _ | .int _ | .float _ | .str _ | .obj _ => .isTrue trivial

instance : DecidablePred (IsDocumented keys) := fun fields =>
  inferInstanceAs (Decidable (∀ field ∈ fields, ∀ k ∈ keys, _))

instance : DecidablePred IsDocumentedFeature := fun _ => inferInstanceAs (Decidable (_ ∧ _))

instance : DecidablePred IsDocumentedIn := inferInstanceAs (DecidablePred (OnItems _))

/-! ## The values of a record in other spellings -/

variable {keys : List Key} {choice : Choice} {fields : Json.Fields} {k : Key}

lemma IsDocumented.tail {field : String × Json} (h : IsDocumented keys (field :: fields)) :
    IsDocumented keys fields := fun field hfield => h field (by simp [hfield])

/-- A name is respelled as a key if it is this key as documented, and the key is so spelled. -/
lemma respelledName_eq_iff {name : String} (hk : k ∈ keys) (s : Spelling)
    (hname : ∀ k ∈ keys, name ∈ k.spellings → name = k.documented) :
    respelledName keys choice name = k.spelled s ↔
      name = k.documented ∧ k.spelled (choice k) = k.spelled s := by
  unfold respelledName
  cases hfind : keys.find? fun k => k.documented == name with
  | some k' =>
      have hk' : k'.documented = name := by simpa using List.find?_some hfind
      constructor
      · intro h
        obtain rfl := Key.eq_of_spelled_eq h
        exact ⟨hk'.symm, h⟩
      · rintro ⟨rfl, h⟩
        obtain rfl := Key.eq_of_spelled_eq hk'
        exact h
  | none =>
      have hne : name ≠ k.documented := by
        rintro rfl
        simpa using List.find?_eq_none.mp hfind k hk
      exact ⟨fun h => absurd (hname k hk (Key.mem_spellings.mpr ⟨s, h.symm⟩)) hne, fun h => absurd h.1 hne⟩

/-- Under a spelling of a key there is the value of the key, if this spelling is chosen. -/
lemma get?_respelledFields (hk : k ∈ keys) (h : IsDocumented keys fields) (s : Spelling) :
    (respelledFields keys choice fields).get? (k.spelled s) =
      if k.spelled (choice k) = k.spelled s then fields.get? k.documented else none := by
  induction fields with
  | nil => simp [respelledFields, Json.Fields.get?]
  | cons field fields ih =>
      have hiff : respelledName keys choice field.1 = k.spelled s ↔
          field.1 = k.documented ∧ k.spelled (choice k) = k.spelled s :=
        respelledName_eq_iff hk s (h field (by simp))
      rw [respelledFields, List.map_cons, get?_cons, ← respelledFields, ih h.tail, get?_cons]
      simp only [hiff]
      split_ifs <;> simp_all

/-- Where keys are spelled as documented there is nothing under another spelling. -/
lemma get?_of_isDocumented (hk : k ∈ keys) (h : IsDocumented keys fields) (s : Spelling) :
    fields.get? (k.spelled s) =
      if k.spelled .camel = k.spelled s then fields.get? k.documented else none := by
  split_ifs with hcamel
  · rw [Key.documented, hcamel]
  · cases hget : fields.get? (k.spelled s) with
    | none => rfl
    | some j =>
        have hspelled : k.spelled s ∈ k.spellings := Key.mem_spellings.mpr ⟨s, rfl⟩
        exact absurd (h _ (mem_of_get?_eq_some hget) k hk hspelled).symm hcamel

/-- A field that is not heard has no value, and all others have theirs. -/
lemma get?_heardFields (choice : Choice) (fields : Json.Fields) (key : String) :
    (heardFields choice fields).get? key =
      if choice .enabled = .pascal ∧ key = Key.enabled.documented then none
      else fields.get? key := by
  rw [heardFields, get?_filter fun name =>
    !(choice .enabled == .pascal && name == Key.enabled.documented)]
  by_cases hunheard : choice .enabled = .pascal ∧ key = Key.enabled.documented
  · simp [hunheard]
  · rw [if_pos (by simpa [imp_iff_not_or] using hunheard), if_neg hunheard]

/-! ## The keys that count -/

lemma value?_eq_none {names : List String} (h : ∀ name ∈ names, fields.get? name = none) :
    value? names fields = none := by
  unfold value?
  exact List.findSome?_eq_none_iff.mpr h

lemma value?_eq_some {names : List String} {name : String} {j : Json} (hmem : name ∈ names)
    (hj : fields.get? name = some j)
    (h : ∀ other ∈ names, other ≠ name → fields.get? other = none) :
    value? names fields = some j := by
  induction names with
  | nil => simp at hmem
  | cons head names ih =>
      rw [value?_cons]
      by_cases hhead : head = name
      · rw [hhead, hj]
        rfl
      · have hmem' : name ∈ names := by simpa [Ne.symm hhead] using hmem
        rw [h head (by simp) hhead, ih hmem' fun other hother => h other (by simp [hother])]
        rfl

/-- A key has the value under the spelling that is used, if there is none under any other. -/
lemma value?_aliases (hk : k ≠ .enabled) (used : Spelling) {v : Option Json}
    (h : ∀ s, fields.get? (k.spelled s) = if k.spelled used = k.spelled s then v else none) :
    value? k.aliases fields = v := by
  have hmem : k.spelled used ∈ k.aliases := (Key.mem_aliases hk).mpr ⟨used, rfl⟩
  cases v with
  | none =>
      refine value?_eq_none fun name hname => ?_
      obtain ⟨s, rfl⟩ := (Key.mem_aliases hk).mp hname
      simpa using h s
  | some j =>
      refine value?_eq_some hmem (by simpa using h used) fun name hname hne => ?_
      obtain ⟨s, rfl⟩ := (Key.mem_aliases hk).mp hname
      rw [h s, if_neg (Ne.symm hne)]

/-- The flag of a record is told by one key, or else by another. -/
lemma value?_enabledKeys (fields : Json.Fields) :
    value? enabledKeys fields =
      (fields.get? (Key.enabled.spelled .camel)).or (value? Key.isEnabled.aliases fields) :=
  value?_cons _ _ _

section Respelled

variable (h : IsDocumented keys fields)
include h

/-- A key other than the first flag has its value under whatever spelling is chosen. -/
lemma value?_respelledFields (hk : k ∈ keys) (hne : k ≠ .enabled) :
    value? k.aliases (respelledFields keys choice fields) = fields.get? k.documented :=
  value?_aliases hne (choice k) fun s => get?_respelledFields hk h s

lemma value?_heardFields (hk : k ∈ keys) (hne : k ≠ .enabled) :
    value? k.aliases (heardFields choice fields) = fields.get? k.documented := by
  refine value?_aliases hne .camel fun s => ?_
  have hheard : ¬ (choice .enabled = .pascal ∧ k.spelled s = Key.enabled.documented) :=
    fun h => hne (Key.eq_of_spelled_eq h.2)
  rw [get?_heardFields, if_neg hheard, get?_of_isDocumented hk h s]

/-- The first flag is looked for under one name, which is its spelling unless in Pascal case. -/
lemma value?_enabledKeys_respelledFields (hk : .enabled ∈ keys) (hk' : .isEnabled ∈ keys) :
    value? enabledKeys (respelledFields keys choice fields) =
      value? enabledKeys (heardFields choice fields) := by
  have hspelled : ∀ s, Key.enabled.spelled s = Key.enabled.spelled .camel ↔ s ≠ .pascal := by
    intro s
    cases s <;> decide +kernel
  rw [value?_enabledKeys, value?_enabledKeys, value?_respelledFields h hk' (by decide),
    value?_heardFields h hk' (by decide), get?_respelledFields hk h, get?_heardFields]
  simp only [hspelled, Key.documented, and_true, ne_eq, ite_not]

end Respelled

/-! ## Rules and features -/

lemma IsDocumented.mapRules (h : IsDocumented keys fields) (f : Nat → Json.Fields → Json.Fields) :
    IsDocumented keys (mapRules f fields) := by
  intro field hfield
  obtain ⟨original, horiginal, rfl⟩ := List.mem_map.mp hfield
  exact h original horiginal

lemma get?_mapRules (f : Nat → Json.Fields → Json.Fields) (fields : Json.Fields) (key : String) :
    (mapRules f fields).get? key =
      (fields.get? key).map fun j =>
        if key = Key.rules.documented then mapItems (fun i => mapObject (f i)) j else j := by
  exact get?_map (fun key j =>
    if key = Key.rules.documented then mapItems (fun i => mapObject (f i)) j else j) fields key

/-- A rule is read as if its fields were spelled as documented, without those that are not heard. -/
lemma toOption_rule (choice : Choice) {j : Json}
    (h : OnObject (IsDocumented ruleKeys) j) :
    (rule (mapObject (respelledFields ruleKeys choice) j)).toOption =
      (rule (mapObject (heardFields choice) j)).toOption := by
  cases j with
  | obj fields =>
      have hfields : IsDocumented ruleKeys fields := h
      have hvalue : ∀ k ∈ ruleKeys, k ≠ .enabled →
          value? k.aliases (respelledFields ruleKeys choice fields) =
            value? k.aliases (heardFields choice fields) := by
        intro k hk hne
        rw [value?_respelledFields hfields hk hne, value?_heardFields hfields hk hne]
      refine toOption_ruleFields_congr ?_ ?_ ?_
      · exact hvalue .condition (by decide) (by decide)
      · exact value?_enabledKeys_respelledFields hfields (by decide) (by decide)
      · exact hvalue .disabled (by decide) (by decide)
  | _ => rfl

/-- A list of rules is read as if their fields were spelled as documented, without those that are not
heard. -/
lemma toOption_listOf_rule (choice : Nat → Choice) {j : Json}
    (h : OnItems (OnObject (IsDocumented ruleKeys)) j) :
    (listOf rule (mapItems (fun i => mapObject (respelledFields ruleKeys (choice i))) j)).toOption =
      (listOf rule (mapItems (fun i => mapObject (heardFields (choice i))) j)).toOption := by
  cases j with
  | arr rules =>
      exact toOption_all_mapIdx_congr (fun j hj i => toOption_rule (choice i) (h j hj)) 0
  | _ => rfl

/-- A feature is read as if its fields and those of its rules were spelled as documented, without those
that are not heard. -/
lemma toOption_featureFields (choice : Option Nat → Choice)
    (h : IsDocumentedFeature fields) :
    (featureFields (respelledFields featureKeys (choice none)
        (mapRules (fun j => respelledFields ruleKeys (choice (some j))) fields))).toOption =
      (featureFields (heardFields (choice none)
        (mapRules (fun j => heardFields (choice (some j))) fields))).toOption := by
  generalize hF : mapRules (fun j => respelledFields ruleKeys (choice (some j))) fields = F
  generalize hG : mapRules (fun j => heardFields (choice (some j))) fields = G
  have hdocF : IsDocumented featureKeys F := hF ▸ h.1.mapRules _
  have hdocG : IsDocumented featureKeys G := hG ▸ h.1.mapRules _
  -- apart from the rules the fields have the same values
  have hsame : ∀ k : Key, k ≠ .rules → F.get? k.documented = G.get? k.documented := by
    intro k hk
    have hne : k.documented ≠ Key.rules.documented := fun h => hk (Key.eq_of_spelled_eq h)
    rw [← hF, ← hG, get?_mapRules, get?_mapRules]
    simp [hne]
  have hvalue : ∀ k ∈ featureKeys, k ≠ .enabled → k ≠ .rules →
      value? k.aliases (respelledFields featureKeys (choice none) F) =
        value? k.aliases (heardFields (choice none) G) := by
    intro k hk hne hne'
    rw [value?_respelledFields hdocF hk hne, value?_heardFields hdocG hk hne, hsame k hne']
  refine toOption_featureFields_congr ?_ ?_ ?_ ?_ ?_
  · exact hvalue .name (by decide) (by decide) (by decide)
  · have hheard : value? enabledKeys (heardFields (choice none) F) =
        value? enabledKeys (heardFields (choice none) G) := by
      rw [value?_enabledKeys, value?_enabledKeys, value?_heardFields hdocF (by decide) (by decide),
        value?_heardFields hdocG (by decide) (by decide), get?_heardFields, get?_heardFields,
        hsame .isEnabled (by decide),
        show F.get? (Key.enabled.spelled .camel) = _ from hsame .enabled (by decide)]
      rfl
    exact (value?_enabledKeys_respelledFields hdocF (by decide) (by decide)).trans hheard
  · exact hvalue .defaultEnabled (by decide) (by decide) (by decide)
  · exact hvalue .dependsOn (by decide) (by decide) (by decide)
  · have hF' : value? rulesKeys (respelledFields featureKeys (choice none) F) = _ :=
      value?_respelledFields (k := .rules) hdocF (by decide) (by decide)
    have hG' : value? rulesKeys (heardFields (choice none) G) = _ :=
      value?_heardFields (k := .rules) hdocG (by decide) (by decide)
    unfold checked?
    rw [hF', hG', ← hF, ← hG, get?_mapRules, get?_mapRules]
    cases hget : fields.get? Key.rules.documented with
    | none => rfl
    | some j =>
        simp only [Option.map_some, if_pos]
        have hrules := h.2 _ (mem_of_get?_eq_some hget) rfl
        exact congrArg some (toOption_listOf_rule (fun i => choice (some i)) hrules)

/-! ## Documents -/

lemma toOption_feature (choice : Option Nat → Choice) {j : Json}
    (h : OnObject IsDocumentedFeature j) :
    (feature (mapObject (fun fields => respelledFields featureKeys (choice none)
        (mapRules (fun j => respelledFields ruleKeys (choice (some j))) fields)) j)).toOption =
      (feature (mapObject (fun fields => heardFields (choice none)
        (mapRules (fun j => heardFields (choice (some j))) fields)) j)).toOption := by
  cases j with
  | obj fields => exact toOption_featureFields choice h
  | _ => rfl

/-- A document is read as if its keys were spelled as documented, without those that are not heard. -/
lemma toOption_ofJson_respelled (source : String) (choice : Nat → Option Nat → Choice) {d : Json}
    (h : IsDocumentedIn d) :
    (Catalog.ofJson source (respelled choice d)).toOption =
      (Catalog.ofJson source (heard choice d)).toOption := by
  cases d with
  | arr items =>
      refine (toOption_ofJson_arr source _).trans (Eq.trans ?_ (toOption_ofJson_arr source _).symm)
      exact toOption_all_mapIdx_congr (fun j hj i => toOption_feature (choice i) (h j hj)) 0
  | _ => rfl

lemma mapObject_id : mapObject (fun fields => fields) = fun j => j := by
  funext j
  cases j <;> rfl

lemma mapItems_id : mapItems (fun _ item => item) = fun j => j := by
  funext j
  cases j with
  | arr items => simp [mapItems, List.mapIdx_eq_iff]
  | _ => rfl

/-- All of a document is heard if no flag is in Pascal case. -/
lemma heard_eq_self {choice : Nat → Option Nat → Choice}
    (h : ∀ i r, choice i r .enabled ≠ .pascal) (d : Json) : heard choice d = d := by
  have hfields : ∀ i r, heardFields (choice i r) = fun fields => fields := by
    intro i r
    funext fields
    simp [heardFields, h i r]
  have hrules : mapRules (fun _ fields => fields) = fun fields => fields := by
    funext fields
    simp [mapRules, mapObject_id, mapItems_id]
  simp only [heard, mapRecords, hfields, hrules, mapObject_id, mapItems_id]

/-- A payload in whose document the keys of the records are spelled in any way is read as the document
is with the keys as documented, without the flags whose first key is in Pascal case.  If there are none
of these, it is read as the document is. -/
theorem catalog_respelled (source : String) (choice : Nat → Option Nat → Choice) {d : Json}
    {payload : Payload} (hdoc : IsDocumentedIn d) (hpayload : payload.Holds (respelled choice d)) :
    (payload.catalog source).toOption = (Catalog.ofJson source (heard choice d)).toOption ∧
      ((∀ i r, choice i r .enabled ≠ .pascal) → ∀ original : Payload, original.Holds d →
        (payload.catalog source).toOption = (original.catalog source).toOption) := by
  have hheard : (payload.catalog source).toOption =
      (Catalog.ofJson source (heard choice d)).toOption := by
    rw [Payload.catalog_of_holds hpayload, toOption_ofJson_respelled source choice hdoc]
  refine ⟨hheard, fun hchoice original horiginal => ?_⟩
  rw [hheard, heard_eq_self hchoice, Payload.catalog_of_holds horiginal]

/-- A document of one feature with one rule. -/
def betaDocument : Json :=
  .arr [.obj [("name", .str "beta"), ("isEnabled", .bool true), ("dependsOn", .arr []),
    ("rules", .arr [.obj [("condition", .str "true"), ("isEnabled", .bool true)]])]]

/-- The text of the document, its keys as documented. -/
def betaText : String :=
  "[\x7b\"name\":\"beta\",\"isEnabled\":true,\"dependsOn\":[]," ++
    "\"rules\":[\x7b\"condition\":\"true\",\"isEnabled\":true\x7d]\x7d]"

/-- Keys of features in Pascal case, but for their first flag, and those of rules in snake case. -/
def mixedChoice (_ : Nat) (rule : Option Nat) : Choice := fun k =>
  if rule.isNone && k != .enabled then .pascal else .snake

/-- The text of the document, its keys in these spellings. -/
def mixedText : String :=
  "[\x7b\"Name\":\"beta\",\"IsEnabled\":true,\"DependsOn\":[]," ++
    "\"Rules\":[\x7b\"condition\":\"true\",\"is_enabled\":true\x7d]\x7d]"

theorem catalog_respelled_mixed :
    IsDocumentedIn betaDocument ∧
      (Payload.text mixedText.toList).Holds (respelled mixedChoice betaDocument) ∧
      (Payload.text betaText.toList).Holds betaDocument ∧
      ((Payload.text mixedText.toList).catalog "<memory>").toOption =
        ((Payload.text betaText.toList).catalog "<memory>").toOption ∧
      (Payload.text betaText.toList).catalog "<memory>" =
        .ok [⟨"beta", true, false, [], [⟨"true", true, false⟩]⟩] := by
  have hdoc : IsDocumentedIn betaDocument := by decide +kernel
  have hbeta : (Payload.text betaText.toList).Holds betaDocument := by
    show Json.ofChars betaText.toList = .ok betaDocument
    cbv
  have hmixed : (Payload.text mixedText.toList).Holds (respelled mixedChoice betaDocument) := by
    have hrespelled : respelled mixedChoice betaDocument =
        .arr [.obj [("Name", .str "beta"), ("IsEnabled", .bool true), ("DependsOn", .arr []),
          ("Rules", .arr [.obj [("condition", .str "true"), ("is_enabled", .bool true)]])]] := rfl
    rw [hrespelled]
    show Json.ofChars mixedText.toList = .ok _
    cbv
  have hchoice : ∀ i r, mixedChoice i r .enabled ≠ .pascal := by
    intro i r
    cases r <;> simp [mixedChoice]
  refine ⟨hdoc, hmixed, hbeta,
    (catalog_respelled "<memory>" mixedChoice hdoc hmixed).2 hchoice _ hbeta, ?_⟩
  rw [Payload.catalog_of_holds hbeta]
  rfl

/-- A document of one feature that is on. -/
def flagDocument : Json := .arr [.obj [("name", .str "a"), ("enabled", .bool true)]]

/-- The text of the document, its keys as documented. -/
def flagText : String := "[\x7b\"name\":\"a\",\"enabled\":true\x7d]"

/-- The text of the document, its flag in Pascal case. -/
def pascalText : String := "[\x7b\"name\":\"a\",\"Enabled\":true\x7d]"

/-- The first flag in Pascal case, and all other keys in camel case. -/
def pascalFlag (_ : Nat) (_ : Option Nat) : Choice := fun k =>
  if k = .enabled then .pascal else .camel

/-- A feature that is on is read as one that is off if its flag is spelled `Enabled`. -/
theorem catalog_of_pascal_flag :
    IsDocumentedIn flagDocument ∧
      (Payload.text flagText.toList).Holds flagDocument ∧
      (Payload.text pascalText.toList).Holds (respelled pascalFlag flagDocument) ∧
      (Payload.text flagText.toList).catalog "<memory>" = .ok [⟨"a", true, false, [], []⟩] ∧
      (Payload.text pascalText.toList).catalog "<memory>" = .ok [⟨"a", false, false, [], []⟩] := by
  have hflag : (Payload.text flagText.toList).Holds flagDocument := by
    show Json.ofChars flagText.toList = .ok flagDocument
    cbv
  have hpascal : (Payload.text pascalText.toList).Holds (respelled pascalFlag flagDocument) := by
    have hrespelled : respelled pascalFlag flagDocument =
        .arr [.obj [("name", .str "a"), ("Enabled", .bool true)]] := rfl
    rw [hrespelled]
    show Json.ofChars pascalText.toList = .ok _
    cbv
  refine ⟨by decide +kernel, hflag, hpascal, ?_, ?_⟩
  · rw [Payload.catalog_of_holds hflag]
    rfl
  · rw [Payload.catalog_of_holds hpascal]
    rfl

end Record

end FeatureToggles
