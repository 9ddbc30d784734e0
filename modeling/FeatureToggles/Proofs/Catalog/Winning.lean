import FeatureToggles.Proofs.Catalog.Reading
import Mathlib

/-!
# The entries that count

A field of a record may stand under several keys, and of those that are present the first one counts.  A
document is read as the same catalog, or refused for the same issues, as the document that keeps only the
entries that count (`winningOf`).  So neither the order of the keys of a record matters, nor a key that
belongs to no field, nor a key beside another one that comes before it (`Edit`); and a key that comes before
all others that are present takes the whole field, whatever its value.

Main statements: `ofJson_winningOf`, `Edit.winningOf_eq` and `catalog_winning`.
-/

namespace FeatureToggles

namespace Record

/-! ## Lookups -/

section Lookups

variable {F G : Json.Fields} {keys : List String} {key : String} {v : Json}

lemma get?_append (F G : Json.Fields) (k : String) :
    Json.Fields.get? (F ++ G) k = (F.get? k).or (G.get? k) := by
  simp [Json.Fields.get?, List.find?_append, Option.map_or]

/-- An entry is only found under its own key. -/
lemma get?_insert_of_ne {k : String} (h : k ≠ key) :
    Json.Fields.get? (F ++ (key, v) :: G) k = Json.Fields.get? (F ++ G) k := by
  rw [get?_append, get?_append, get?_cons, if_neg (Ne.symm h)]

lemma get?_eq_none_iff {k : String} : F.get? k = none ↔ k ∉ F.map Prod.fst := by
  simp only [Json.Fields.get?, Option.map_eq_none_iff, List.find?_eq_none, beq_iff_eq, List.mem_map,
    not_exists, not_and]

/-- Where keys are distinct, what is found under a key is what stands there. -/
lemma get?_eq_some_iff_of_nodup (h : (F.map Prod.fst).Nodup) {k : String} {j : Json} :
    F.get? k = some j ↔ (k, j) ∈ F := by
  refine ⟨mem_of_get?_eq_some, fun hmem => ?_⟩
  induction F with
  | nil => simp at hmem
  | cons field F ih =>
      rw [List.map_cons, List.nodup_cons] at h
      rw [get?_cons]
      rcases List.mem_cons.mp hmem with rfl | hrest
      · exact if_pos rfl
      · have hne : field.1 ≠ k := by
          rintro rfl
          exact h.1 (List.mem_map.mpr ⟨_, hrest, rfl⟩)
        rw [if_neg hne, ih h.2 hrest]

/-- Where keys are distinct, their order does not matter. -/
lemma get?_of_perm (h : (F.map Prod.fst).Nodup) (hperm : F.Perm G) (k : String) :
    F.get? k = G.get? k := by
  have h' : (G.map Prod.fst).Nodup := (hperm.map Prod.fst).nodup_iff.mp h
  ext j
  rw [get?_eq_some_iff_of_nodup h, get?_eq_some_iff_of_nodup h', hperm.mem_iff]

/-- The fields of a record that do not stand under some keys. -/
def without (keys : List String) (fields : Json.Fields) : Json.Fields :=
  fields.filter fun field => field.1 ∉ keys

lemma get?_without {k : String} (hk : k ∉ keys) : (without keys F).get? k = F.get? k := by
  rw [without, get?_filter fun name => decide (name ∉ keys), if_pos (decide_eq_true hk)]

/-! ## Picks -/

lemma pick_congr (h : ∀ k ∈ keys, F.get? k = G.get? k) : pick keys F = pick keys G := by
  unfold pick
  induction keys with
  | nil => rfl
  | cons k keys ih =>
      rw [List.findSome?_cons, List.findSome?_cons, h k (by simp),
        ih fun k hk => h k (List.mem_cons_of_mem _ hk)]

lemma pick_append (before after : List String) (F : Json.Fields) :
    pick (before ++ after) F = (pick before F).or (pick after F) :=
  List.findSome?_append

lemma mem_of_pick {j : Json} (h : pick keys F = some (key, j)) : key ∈ keys := by
  obtain ⟨before, after, rfl, -, -⟩ := pick_eq_some_iff.mp h
  simp

lemma pick_eq_none_iff : pick keys F = none ↔ ∀ k ∈ keys, F.get? k = none := by
  simp [pick]

/-- A change to the values of a record changes the value that is picked. -/
lemma pick_map (f : String → Json → Json) (F : Json.Fields) :
    pick keys (F.map fun field => (field.1, f field.1 field.2)) =
      (pick keys F).map fun entry => (entry.1, f entry.1 entry.2) := by
  unfold pick
  induction keys with
  | nil => rfl
  | cons k keys ih =>
      rw [List.findSome?_cons, List.findSome?_cons, get?_map]
      cases F.get? k with
      | none => exact ih
      | some j => rfl

lemma optional_of_pick {α : Type} {default : α} {check : Json → Checked α}
    (h : pick keys F = some (key, v)) :
    optional keys default check F = (check v).under (.key key) := by
  simp only [optional, h]

end Lookups

/-! ## The entries that count -/

/-- The keys of each field of a feature. -/
def featureAliases : List (List String) :=
  [["name", "Name"], enabledKeys, defaultKeys, dependsKeys, rulesKeys]

/-- The keys of each field of a rule. -/
def ruleAliases : List (List String) := [["condition", "Condition"], enabledKeys, disabledKeys]

/-- The entries of a record that count: of each field the first one whose key is present. -/
def winning (aliases : List (List String)) (fields : Json.Fields) : Json.Fields :=
  aliases.filterMap fun keys => pick keys fields

section Winning

variable {aliases : List (List String)} {F G : Json.Fields} {keys : List String}

/-- No key comes twice among those of a field. -/
lemma not_mem_before {before after : List String} {key : String}
    (h : (before ++ key :: after).Nodup) : key ∉ before :=
  fun hmem => (List.nodup_append'.mp h).2.2 hmem (by simp)

/-- No key belongs to two fields. -/
lemma not_mem_of_mem (h : aliases.flatten.Nodup) (hkeys : keys ∈ aliases) {keys' : List String}
    (hkeys' : keys' ∈ aliases) (hne : keys ≠ keys') {k : String} (hk : k ∈ keys) : k ∉ keys' := by
  have hdisjoint : aliases.Pairwise List.Disjoint := (List.nodup_flatten.mp h).2
  have hsymm : Std.Symm (@List.Disjoint String) := ⟨fun _ _ h => h.symm⟩
  exact hdisjoint.forall hkeys hkeys' hne hk

lemma winning_congr (h : ∀ keys ∈ aliases, pick keys F = pick keys G) :
    winning aliases F = winning aliases G :=
  List.filterMap_congr h

lemma get?_winning_eq_none {k : String} (h : k ∉ aliases.flatten) :
    (winning aliases F).get? k = none := by
  rw [get?_eq_none_iff]
  intro hmem
  obtain ⟨⟨key, j⟩, hentry, rfl⟩ := List.mem_map.mp hmem
  obtain ⟨keys, hkeys, hpick⟩ := List.mem_filterMap.mp hentry
  exact h (List.mem_flatten.mpr ⟨keys, hkeys, mem_of_pick hpick⟩)

/-- Of the keys of a field only the one that counts is kept, with its value. -/
lemma get?_winning (h : aliases.flatten.Nodup) (hkeys : keys ∈ aliases) {k : String} (hk : k ∈ keys) :
    (winning aliases F).get? k =
      (pick keys F).bind fun entry => if entry.1 = k then some entry.2 else none := by
  induction aliases with
  | nil => simp at hkeys
  | cons keys' aliases ih =>
      rw [List.flatten_cons, List.nodup_append'] at h
      obtain ⟨-, hrest, hdisjoint⟩ := h
      rcases List.mem_cons.mp hkeys with rfl | hkeys
      · have hnone : (winning aliases F).get? k = none := get?_winning_eq_none (hdisjoint hk)
        rw [winning, List.filterMap_cons, ← winning]
        cases pick keys F with
        | none => exact hnone
        | some entry => simp only [get?_cons, hnone, Option.bind_some]
      · have hother : k ∉ keys' := fun hk' =>
          hdisjoint hk' (List.mem_flatten.mpr ⟨keys, hkeys, hk⟩)
        rw [winning, List.filterMap_cons, ← winning, ← ih hrest hkeys]
        cases hpick : pick keys' F with
        | none => rfl
        | some entry =>
            have hne : entry.1 ≠ k := by
              rintro rfl
              exact hother (mem_of_pick hpick)
            simp only [get?_cons, if_neg hne]

/-- The entries that count are picked among themselves. -/
lemma pick_winning (h : aliases.flatten.Nodup) (hkeys : keys ∈ aliases) :
    pick keys (winning aliases F) = pick keys F := by
  cases hpick : pick keys F with
  | none =>
      refine pick_eq_none_iff.mpr fun k hk => ?_
      rw [get?_winning h hkeys hk, hpick]
      rfl
  | some entry =>
      obtain ⟨before, after, hsplit, -, -⟩ := pick_eq_some_iff.mp hpick
      have hnodup : (before ++ entry.1 :: after).Nodup :=
        hsplit ▸ (List.nodup_flatten.mp h).1 keys hkeys
      refine pick_eq_some_iff.mpr ⟨before, after, hsplit, ?_, fun k hk => ?_⟩
      · rw [get?_winning h hkeys (mem_of_pick hpick), hpick]
        exact if_pos rfl
      · have hne : entry.1 ≠ k := fun heq => not_mem_before hnodup (heq ▸ hk)
        rw [get?_winning h hkeys (hsplit ▸ List.mem_append_left _ hk), hpick]
        exact if_neg hne

end Winning

/-- A rule with only the entries that count. -/
def winningRule : Json → Json
  | .obj fields => .obj (winning ruleAliases fields)
  | j => j

/-- A list of rules, each with only the entries that count. -/
def winningRules : Json → Json
  | .arr rules => .arr (rules.map winningRule)
  | j => j

/-- The fields of a feature, with only the entries of its rules that count. -/
def withWinningRules (fields : Json.Fields) : Json.Fields :=
  fields.map fun field => (field.1, if field.1 ∈ rulesKeys then winningRules field.2 else field.2)

/-- A feature with only the entries that count, its own and those of its rules. -/
def winningFeature : Json → Json
  | .obj fields => .obj (winning featureAliases (withWinningRules fields))
  | j => j

/-- A document with only the entries that count, in its features and in their rules. -/
def winningOf : Json → Json
  | .arr items => .arr (items.map winningFeature)
  | j => j

/-! ## Reading the entries that count -/

lemma nodup_featureAliases : featureAliases.flatten.Nodup := by decide

lemma nodup_ruleAliases : ruleAliases.flatten.Nodup := by decide

lemma ruleFields_congr {F G : Json.Fields} (h : ∀ keys ∈ ruleAliases, pick keys F = pick keys G) :
    ruleFields F = ruleFields G := by
  simp only [ruleAliases, List.forall_mem_cons, List.not_mem_nil, false_implies, implies_true,
    and_true] at h
  simp only [ruleFields, required, optional, h]

lemma rule_winningRule (j : Json) : rule (winningRule j) = rule j := by
  cases j with
  | obj fields => exact ruleFields_congr fun keys hkeys => pick_winning nodup_ruleAliases hkeys
  | _ => rfl

/-- Items that are read alike are read alike in a list, with the same issues. -/
lemma all_map_congr {α : Type} {check : Json → Checked α} {f : Json → Json}
    (h : ∀ j, check (f j) = check j) (items : List Json) (start : ℕ) :
    Checked.all check start (items.map f) = Checked.all check start items := by
  induction items generalizing start with
  | nil => rfl
  | cons j items ih => rw [List.map_cons, Checked.all, Checked.all, h, ih]

lemma listOf_winningRules (j : Json) : listOf rule (winningRules j) = listOf rule j := by
  cases j with
  | arr rules => exact all_map_congr rule_winningRule rules 0
  | _ => rfl

/-- Features with the same entries that count are read alike; of their rules it is enough that these are
read alike. -/
lemma featureFields_congr {F G : Json.Fields}
    (h : ∀ keys ∈ featureAliases, keys ≠ rulesKeys → pick keys F = pick keys G)
    (hrules : optional rulesKeys [] (listOf rule) F = optional rulesKeys [] (listOf rule) G) :
    featureFields F = featureFields G := by
  have hname := h ["name", "Name"] (by decide) (by decide)
  have henabled := h enabledKeys (by decide) (by decide)
  have hdefault := h defaultKeys (by decide) (by decide)
  have hdepends := h dependsKeys (by decide) (by decide)
  simp only [featureFields, hrules]
  simp only [required, optional, hname, henabled, hdefault, hdepends]

/-- What is picked from a feature is not changed in its rules, unless it is its rules. -/
lemma pick_withWinningRules (keys : List String) (F : Json.Fields) :
    pick keys (withWinningRules F) = (pick keys F).map fun entry =>
      (entry.1, if entry.1 ∈ rulesKeys then winningRules entry.2 else entry.2) :=
  pick_map (fun key j => if key ∈ rulesKeys then winningRules j else j) F

lemma optional_rules_withWinningRules (F : Json.Fields) :
    optional rulesKeys [] (listOf rule) (withWinningRules F) =
      optional rulesKeys [] (listOf rule) F := by
  unfold optional
  rw [pick_withWinningRules]
  cases hpick : pick rulesKeys F with
  | none => rfl
  | some entry =>
      simp only [Option.map_some, if_pos (mem_of_pick hpick), listOf_winningRules]

lemma featureFields_withWinningRules (F : Json.Fields) :
    featureFields (withWinningRules F) = featureFields F := by
  refine featureFields_congr (fun keys hkeys hne => ?_) (optional_rules_withWinningRules F)
  rw [pick_withWinningRules]
  cases hpick : pick keys F with
  | none => rfl
  | some entry =>
      have hother : entry.1 ∉ rulesKeys :=
        not_mem_of_mem nodup_featureAliases hkeys (by decide) hne (mem_of_pick hpick)
      simp only [Option.map_some, if_neg hother]

lemma feature_winningFeature (j : Json) : feature (winningFeature j) = feature j := by
  cases j with
  | obj fields =>
      have hpick : ∀ keys ∈ featureAliases,
          pick keys (winning featureAliases (withWinningRules fields)) =
            pick keys (withWinningRules fields) :=
        fun keys hkeys => pick_winning nodup_featureAliases hkeys
      have hrules : optional rulesKeys [] (listOf rule)
            (winning featureAliases (withWinningRules fields)) =
          optional rulesKeys [] (listOf rule) (withWinningRules fields) := by
        unfold optional
        rw [hpick rulesKeys (by decide)]
      exact (featureFields_congr (fun keys hkeys _ => hpick keys hkeys) hrules).trans
        (featureFields_withWinningRules fields)
  | _ => rfl

/-- Only the entries that count are read. -/
lemma ofJson_winningOf (source : String) (d : Json) :
    Catalog.ofJson source (winningOf d) = Catalog.ofJson source d := by
  cases d with
  | arr items =>
      have hitems : features (items.map winningFeature) = features items :=
        all_map_congr feature_winningFeature items 0
      simp only [winningOf, Catalog.ofJson, hitems]
  | _ => rfl

/-! ## Changes to records -/

/-- A place in a document at which a record stands: that of a feature, or that of a rule under a key of
the rules of a feature. -/
inductive Place where
  | feature (before after : List Json)
  | rule (before after : List Json) (first rest : Json.Fields) (key : String)
      (hkey : key ∈ rulesKeys) (earlier later : List Json)

namespace Place

/-- The keys of each field of the record at a place. -/
def aliases : Place → List (List String)
  | .feature .. => featureAliases
  | .rule .. => ruleAliases

/-- The document with a record at a place. -/
def fill : Place → Json.Fields → Json
  | .feature before after, fields => .arr (before ++ .obj fields :: after)
  | .rule before after first rest key _ earlier later, fields =>
    .arr (before ++
      .obj (first ++ (key, .arr (earlier ++ .obj fields :: later)) :: rest) :: after)

lemma nodup_aliases (place : Place) : place.aliases.flatten.Nodup := by
  cases place with
  | feature => exact nodup_featureAliases
  | rule => exact nodup_ruleAliases

lemma nodup_of_mem (place : Place) {keys : List String} (h : keys ∈ place.aliases) : keys.Nodup :=
  (List.nodup_flatten.mp place.nodup_aliases).1 keys h

/-- Records with the same entries that count may stand for each other. -/
lemma winningOf_fill_congr (place : Place) {F G : Json.Fields}
    (h : ∀ keys ∈ place.aliases, pick keys F = pick keys G) :
    winningOf (place.fill F) = winningOf (place.fill G) := by
  cases place with
  | feature before after =>
      have hfields : winning featureAliases (withWinningRules F) =
          winning featureAliases (withWinningRules G) := by
        refine winning_congr fun keys hkeys => ?_
        rw [pick_withWinningRules, pick_withWinningRules, h keys hkeys]
      simp only [fill, winningOf, List.map_append, List.map_cons, winningFeature, hfields]
  | rule before after first rest key hkey earlier later =>
      have hfields : winning ruleAliases F = winning ruleAliases G := winning_congr h
      simp only [fill, winningOf, List.map_append, List.map_cons, winningFeature, withWinningRules,
        if_pos hkey, winningRules, winningRule, hfields]

end Place

/-- A change to a record of a document that leaves the entries that count as they are: its keys are put in
another order, or it gets a key that belongs to no field, or one beside another key of the same field that
comes before it.  Removing keys is the same, backwards. -/
inductive Edit : Json → Json → Prop where
  | order (place : Place) {F G : Json.Fields} (hkeys : (F.map Prod.fst).Nodup) (hperm : F.Perm G) :
      Edit (place.fill F) (place.fill G)
  | foreign (place : Place) (F G : Json.Fields) {key : String} (v : Json)
      (hkey : ∀ keys ∈ place.aliases, key ∉ keys) :
      Edit (place.fill (F ++ G)) (place.fill (F ++ (key, v) :: G))
  | lower (place : Place) (F G : Json.Fields) {before after : List String} {key higher : String}
      (v : Json) (hkeys : before ++ key :: after ∈ place.aliases) (hhigher : higher ∈ before)
      (hpresent : higher ∈ (F ++ G).map Prod.fst) :
      Edit (place.fill (F ++ G)) (place.fill (F ++ (key, v) :: G))

section Additions

variable {aliases : List (List String)} {F G : Json.Fields} {keys before after : List String}
  {key : String}

/-- A key of one field does not matter to another field. -/
lemma pick_insert_of_ne (h : aliases.flatten.Nodup) (hkeys : before ++ key :: after ∈ aliases)
    (hkeys' : keys ∈ aliases) (hne : keys ≠ before ++ key :: after) (v : Json) :
    pick keys (F ++ (key, v) :: G) = pick keys (F ++ G) := by
  have hkey : key ∉ keys := not_mem_of_mem h hkeys hkeys' (Ne.symm hne) (by simp)
  exact pick_congr fun k hk => get?_insert_of_ne fun heq => hkey (heq ▸ hk)

/-- A key does not matter beside one that comes before it. -/
lemma pick_insert_of_higher {higher : String} (h : (before ++ key :: after).Nodup)
    (hhigher : higher ∈ before) (hpresent : higher ∈ (F ++ G).map Prod.fst) (v : Json) :
    pick (before ++ key :: after) (F ++ (key, v) :: G) = pick (before ++ key :: after) (F ++ G) := by
  have hkey : key ∉ before := not_mem_before h
  have hbefore : pick before (F ++ (key, v) :: G) = pick before (F ++ G) :=
    pick_congr fun k hk => get?_insert_of_ne fun heq => hkey (heq ▸ hk)
  have hsome : pick before (F ++ G) ≠ none := fun hnone =>
    get?_eq_none_iff.mp (pick_eq_none_iff.mp hnone higher hhigher) hpresent
  obtain ⟨entry, hentry⟩ := Option.ne_none_iff_exists'.mp hsome
  rw [pick_append, pick_append, hbefore, hentry]
  rfl

/-- A key before all others that are present is the one that counts. -/
lemma pick_insert_of_absent (h : (before ++ key :: after).Nodup)
    (habsent : ∀ k ∈ before ++ [key], k ∉ (F ++ G).map Prod.fst) (v : Json) :
    pick (before ++ key :: after) (F ++ (key, v) :: G) = some (key, v) := by
  refine pick_eq_some_iff.mpr ⟨before, after, rfl, ?_, fun k hk => ?_⟩
  · have hkey : F.get? key = none := by
      rw [get?_eq_none_iff]
      intro hmem
      refine habsent key (by simp) ?_
      rw [List.map_append]
      exact List.mem_append_left _ hmem
    rw [get?_append, hkey, get?_cons, if_pos rfl]
    rfl
  · have hne : k ≠ key := fun heq => not_mem_before h (heq ▸ hk)
    rw [get?_insert_of_ne hne, get?_eq_none_iff]
    exact habsent k (List.mem_append_left _ hk)

end Additions

/-- A change keeps the entries that count. -/
lemma Edit.winningOf_eq {d d' : Json} (h : Edit d d') : winningOf d = winningOf d' := by
  cases h with
  | order place hkeys hperm =>
      exact place.winningOf_fill_congr fun keys _ => pick_congr fun k _ => get?_of_perm hkeys hperm k
  | @foreign place F G key v hkey =>
      refine place.winningOf_fill_congr fun keys hkeys => pick_congr fun k hk => ?_
      have hne : k ≠ key := fun heq => hkey keys hkeys (heq ▸ hk)
      exact (get?_insert_of_ne hne).symm
  | @lower place F G before after key higher v hkeys hhigher hpresent =>
      refine place.winningOf_fill_congr fun keys hkeys' => Eq.symm ?_
      by_cases hfield : keys = before ++ key :: after
      · rw [hfield]
        exact pick_insert_of_higher (place.nodup_of_mem hkeys) hhigher hpresent v
      · exact pick_insert_of_ne place.nodup_aliases hkeys hkeys' hfield v

/-- Any number of changes, forwards or backwards, keep the entries that count. -/
lemma winningOf_eq_of_edits {d d' : Json} (h : Relation.EqvGen Edit d d') :
    winningOf d = winningOf d' := by
  induction h with
  | rel d d' h => exact h.winningOf_eq
  | refl d => rfl
  | symm d d' _ ih => exact ih.symm
  | trans d d' d'' _ _ ih ih' => exact ih.trans ih'

/-- The record in which a field stands under one key only may stand for one in which it also stands under
keys that come after it. -/
lemma Place.winningOf_fill_replaced (place : Place) {F G : Json.Fields} {before after : List String}
    {key : String} (hkeys : before ++ key :: after ∈ place.aliases)
    (habsent : ∀ k ∈ before ++ [key], k ∉ (F ++ G).map Prod.fst) (v : Json) :
    winningOf (place.fill (F ++ (key, v) :: G)) =
      winningOf (place.fill (without (before ++ key :: after) (F ++ G) ++ [(key, v)])) := by
  have hnodup := place.nodup_of_mem hkeys
  refine place.winningOf_fill_congr fun keys hkeys' => ?_
  by_cases hfield : keys = before ++ key :: after
  · rw [hfield, pick_insert_of_absent hnodup habsent, pick_insert_of_absent hnodup fun k hk => ?_]
    have hmem : k ∈ before ++ key :: after := by
      rw [List.append_cons]
      exact List.mem_append_left _ hk
    rw [List.append_nil]
    intro hwithout
    obtain ⟨field, hfield, rfl⟩ := List.mem_map.mp hwithout
    simpa [hmem] using (List.mem_filter.mp hfield).2
  · rw [pick_insert_of_ne place.nodup_aliases hkeys hkeys' hfield,
      pick_insert_of_ne place.nodup_aliases hkeys hkeys' hfield, List.append_nil]
    refine pick_congr fun k hk => (get?_without ?_).symm
    exact not_mem_of_mem place.nodup_aliases hkeys' hkeys hfield hk

/-! ## Documents -/

/-- Only the entries that count are read.  So payloads whose documents differ by changes that leave these as
they are give the same catalog or are refused for the same issues.  But a key of a field that comes before all
those that are present takes the field: it is read as the value of this key is, and the record as if the field
stood under no other key. -/
theorem catalog_winning (source : String) :
    (∀ d, Catalog.ofJson source (winningOf d) = Catalog.ofJson source d) ∧
    (∀ {d d' : Json} {p p' : Payload}, p.Holds d → p'.Holds d' → Relation.EqvGen Edit d d' →
      p.catalog source = p'.catalog source) ∧
    ∀ (place : Place) (before after : List String) (key : String) (v : Json) (F G : Json.Fields),
      before ++ key :: after ∈ place.aliases →
      (∀ k ∈ before ++ [key], k ∉ (F ++ G).map Prod.fst) →
      (∀ {α : Type} (default : α) (check : Json → Checked α),
        optional (before ++ key :: after) default check (F ++ (key, v) :: G) =
          (check v).under (.key key)) ∧
      (∀ keys ∈ place.aliases, keys ≠ before ++ key :: after →
        pick keys (F ++ (key, v) :: G) = pick keys (F ++ G)) ∧
      ∀ {p : Payload}, p.Holds (place.fill (F ++ (key, v) :: G)) →
        p.catalog source = Catalog.ofJson source
          (place.fill (without (before ++ key :: after) (F ++ G) ++ [(key, v)])) := by
  refine ⟨ofJson_winningOf source, fun hp hp' hedits => ?_,
    fun place before after key v F G hkeys habsent => ⟨fun default check => ?_, ?_, fun hp => ?_⟩⟩
  · rw [Payload.catalog_of_holds hp, Payload.catalog_of_holds hp', ← ofJson_winningOf,
      winningOf_eq_of_edits hedits, ofJson_winningOf]
  · exact optional_of_pick (pick_insert_of_absent (place.nodup_of_mem hkeys) habsent v)
  · intro keys hkeys' hne
    exact pick_insert_of_ne place.nodup_aliases hkeys hkeys' hne v
  · rw [Payload.catalog_of_holds hp, ← ofJson_winningOf,
      place.winningOf_fill_replaced hkeys habsent, ofJson_winningOf]

/-- The entries of a rule. -/
def ruleEntries : Json.Fields := [("condition", .str "true"), ("isEnabled", .bool true)]

/-- The entries of the rule the other way round, with one more key of the flag. -/
def editedEntries : Json.Fields :=
  [("isEnabled", .bool true), ("IsEnabled", .str "maybe"), ("condition", .str "true")]

/-- The entries of a feature with this rule. -/
def featureEntries : Json.Fields :=
  [("name", .str "a"), ("enabled", .bool true), ("rules", .arr [.obj editedEntries])]

/-- The place of the rule in a document of this feature alone. -/
def rulePlace : Place :=
  .rule [] [] [("name", .str "a"), ("enabled", .bool true)] [] "rules" (by decide) [] []

/-- The document with its keys in another order, and with keys that do not count. -/
def editedDocument : Json :=
  .arr [.obj [("rules", .arr [.obj editedEntries]), ("note", .null), ("enabled", .bool true),
    ("name", .str "a")]]

/-- The text of the document. -/
def plainText : String :=
  "[\x7b\"name\":\"a\",\"enabled\":true,\"rules\":" ++
    "[\x7b\"condition\":\"true\",\"isEnabled\":true\x7d]\x7d]"

/-- The text of the document with other keys. -/
def editedText : String :=
  "[\x7b\"rules\":[\x7b\"isEnabled\":true,\"IsEnabled\":\"maybe\",\"condition\":\"true\"\x7d]," ++
    "\"note\":null,\"enabled\":true,\"name\":\"a\"\x7d]"

/-- The text of the document with null under a key that comes before that of the flag of the rule. -/
def nullText : String :=
  "[\x7b\"name\":\"a\",\"enabled\":true,\"rules\":" ++
    "[\x7b\"enabled\":null,\"condition\":\"true\",\"isEnabled\":true\x7d]\x7d]"

theorem catalog_winning_rules :
    Relation.EqvGen Edit (rulePlace.fill ruleEntries) editedDocument ∧
      (Payload.text plainText.toList).Holds (rulePlace.fill ruleEntries) ∧
      (Payload.text editedText.toList).Holds editedDocument ∧
      (Payload.text plainText.toList).catalog "<memory>" =
        (Payload.text editedText.toList).catalog "<memory>" ∧
      (Payload.text plainText.toList).catalog "<memory>" =
        .ok [⟨"a", true, false, [], [⟨"true", true, false⟩]⟩] ∧
      (Payload.text nullText.toList).Holds (rulePlace.fill (("enabled", .null) :: ruleEntries)) ∧
      (Payload.text nullText.toList).catalog "<memory>" = .error (Catalog.invalid "<memory>"
        [⟨[.index 0, .key "rules", .index 0, .key "enabled"], .notBoolean⟩]) := by
  have horder : Edit (rulePlace.fill ruleEntries) (rulePlace.fill ruleEntries.reverse) :=
    .order rulePlace (by decide) ruleEntries.reverse_perm.symm
  have hflag : Edit (rulePlace.fill ruleEntries.reverse) (rulePlace.fill editedEntries) :=
    @Edit.lower rulePlace [("isEnabled", .bool true)] [("condition", .str "true")]
      ["enabled", "isEnabled", "is_enabled"] [] "IsEnabled" "isEnabled" (.str "maybe")
      (by decide) (by decide) (by decide)
  have horder' : Edit (.arr [.obj featureEntries]) (.arr [.obj featureEntries.reverse]) :=
    .order (.feature [] []) (by decide) featureEntries.reverse_perm.symm
  have hnote : Edit (.arr [.obj featureEntries.reverse]) editedDocument :=
    .foreign (.feature [] []) [("rules", .arr [.obj editedEntries])] _ .null (by decide)
  have hedits : Relation.EqvGen Edit (rulePlace.fill ruleEntries) editedDocument :=
    ((Relation.EqvGen.rel _ _ horder).trans _ _ _ (.rel _ _ hflag)).trans _ _ _
      ((Relation.EqvGen.rel _ _ horder').trans _ _ _ (.rel _ _ hnote))
  have hplain : (Payload.text plainText.toList).Holds (rulePlace.fill ruleEntries) := by
    show Json.ofChars plainText.toList = .ok _
    cbv
  have hedited : (Payload.text editedText.toList).Holds editedDocument := by
    show Json.ofChars editedText.toList = .ok _
    cbv
  have hnull : (Payload.text nullText.toList).Holds
      (rulePlace.fill (("enabled", .null) :: ruleEntries)) := by
    show Json.ofChars nullText.toList = .ok _
    cbv
  have hkeys : [] ++ "enabled" :: ["isEnabled", "is_enabled", "IsEnabled"] ∈ rulePlace.aliases := by
    decide
  obtain ⟨-, hequal, hreplaced⟩ := catalog_winning "<memory>"
  refine ⟨hedits, hplain, hedited, hequal hplain hedited hedits, ?_, hnull, ?_⟩
  · rw [Payload.catalog_of_holds hplain]
    rfl
  · rw [(hreplaced rulePlace [] _ "enabled" .null [] ruleEntries hkeys (by decide)).2.2 hnull]
    rfl

end Record

end FeatureToggles
