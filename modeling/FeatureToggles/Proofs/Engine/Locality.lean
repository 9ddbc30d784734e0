import FeatureToggles.Proofs.Engine.Decision

/-!
# What an evaluation looks at

Of a catalog an evaluation looks at the first feature of the name, apart from its default, and of the
prerequisites of this feature at their flags.  Whatever else two catalogs differ in, the evaluation gives
the same on both: the order of the features, what stands behind a feature of the same name, and the rules,
the prerequisites and the default of any other feature.

Main statements: `Alike.evaluateOn_eq`, `Change.alike`, and for any number of changes `evaluateOn_local`.
-/

namespace FeatureToggles

/-! ## Lookups -/

namespace Catalog

/-- Whether the first feature of a name has its flag set. -/
def Met (catalog : Catalog) (name : String) : Prop := ∃ f, First catalog name f ∧ f.enabled = true

lemma missing_eq_of_met {catalog catalog' : Catalog} {names : List String}
    (h : ∀ d ∈ names, Met catalog d ↔ Met catalog' d) :
    catalog.missing names = catalog'.missing names := by
  unfold missing
  refine List.filter_congr fun d hd => ?_
  have hmeets : catalog.meets d = catalog'.meets d := by
    rw [Bool.eq_iff_iff, meets_eq_true_iff, meets_eq_true_iff]
    exact h d hd
  rw [hmeets]

/-- Where names do not occur twice, a feature is found under its name wherever it stands. -/
lemma find?_eq_some_iff_of_nodup {catalog : Catalog} (h : (catalog.map Feature.name).Nodup)
    {name : String} {f : Feature} : catalog.find? name = some f ↔ f ∈ catalog ∧ f.name = name := by
  constructor
  · intro hf
    obtain ⟨before, after, rfl, hname, -⟩ := find?_eq_some_iff.mp hf
    exact ⟨by simp, hname⟩
  · rintro ⟨hmem, rfl⟩
    cases hfind : catalog.find? f.name with
    | none => exact absurd rfl (find?_eq_none_iff.mp hfind f hmem)
    | some g =>
        obtain ⟨before, after, rfl, hname, -⟩ := find?_eq_some_iff.mp hfind
        rw [List.inj_on_of_nodup_map h (by simp) hmem hname]

lemma find?_of_perm {catalog catalog' : Catalog} (h : (catalog.map Feature.name).Nodup)
    (hperm : catalog.Perm catalog') (name : String) :
    catalog.find? name = catalog'.find? name := by
  have h' : (catalog'.map Feature.name).Nodup := (hperm.map Feature.name).nodup_iff.mp h
  ext f
  rw [find?_eq_some_iff_of_nodup h, find?_eq_some_iff_of_nodup h', hperm.mem_iff]

/-- What stands behind features of the same names is not found. -/
lemma find?_append_of_names {catalog more : Catalog}
    (h : ∀ g ∈ more, ∃ f ∈ catalog, f.name = g.name) (name : String) :
    (catalog ++ more).find? name = catalog.find? name := by
  have happend : (catalog ++ more).find? name = (catalog.find? name).or (more.find? name) :=
    List.find?_append
  rw [happend]
  cases hcatalog : catalog.find? name with
  | some f => rfl
  | none =>
      rw [Option.none_or, find?_eq_none_iff]
      rintro g hg rfl
      obtain ⟨f, hf, hname⟩ := h g hg
      exact find?_eq_none_iff.mp hcatalog f hf hname

end Catalog

namespace Engine

open Catalog (First Met)

variable {name : String} {catalog catalog' : Catalog}

/-! ## Catalogs that are alike for a name -/

/-- Features that differ in their defaults at most. -/
structure SameButDefault (f g : Feature) : Prop extends SameFlag f g where
  dependsOn : f.dependsOn = g.dependsOn
  rules : f.rules = g.rules

/-- Catalogs in which a name is absent, or stands for features that differ in their defaults at most and
whose prerequisites are met in both of the catalogs or in none. -/
inductive Alike (name : String) (catalog catalog' : Catalog) : Prop where
  | absent : (∀ f ∈ catalog, f.name ≠ name) → (∀ f ∈ catalog', f.name ≠ name) →
      Alike name catalog catalog'
  | found {f g : Feature} : First catalog name f → First catalog' name g → SameButDefault f g →
      (∀ d ∈ f.dependsOn, Met catalog d ↔ Met catalog' d) → Alike name catalog catalog'

/-- On catalogs that are alike for a name its evaluation gives and logs the same. -/
theorem Alike.evaluateOn_eq (h : Alike name catalog catalog') (events : List Event)
    (value : Value) :
    evaluateOn ⟨.ok catalog', events⟩ name value = evaluateOn ⟨.ok catalog, events⟩ name value := by
  have hdecide : decide catalog' name value = decide catalog name value := by
    cases h with
    | absent h h' => rw [decide_of_absent h, decide_of_absent h']
    | @found f g hf hg hsame hmet =>
        have hrules : RulesAgree value f.rules g.rules := hsame.rules ▸ RulesAgree.refl f.rules
        unfold decide
        rw [Catalog.find?_eq_some_iff.mpr hf, Catalog.find?_eq_some_iff.mpr hg]
        simp only [← hsame.dependsOn, ← hsame.enabled, ← Catalog.missing_eq_of_met hmet,
          decideActive_congr hsame.toSameFlag hrules]
  unfold evaluateOn
  simp only [hdecide]

/-- Catalogs are alike for a name under which they have the same, if all flags are the same in them. -/
lemma alike_of_find? (hfind : catalog.find? name = catalog'.find? name)
    (hmeets : ∀ d, catalog.meets d = catalog'.meets d) : Alike name catalog catalog' := by
  cases hf : catalog.find? name with
  | none =>
      exact .absent (Catalog.find?_eq_none_iff.mp hf)
        (Catalog.find?_eq_none_iff.mp (hfind.symm.trans hf))
  | some f =>
      refine .found (Catalog.find?_eq_some_iff.mp hf)
        (Catalog.find?_eq_some_iff.mp (hfind.symm.trans hf)) ⟨⟨rfl, rfl⟩, rfl, rfl⟩ fun d _ => ?_
      rw [Met, Met, ← Catalog.meets_eq_true_iff, ← Catalog.meets_eq_true_iff, hmeets d]

/-! ## Changes that do not matter -/

/-- A change of a catalog beside a name. -/
inductive Change (name : String) : Catalog → Catalog → Prop where
  /-- The features of a catalog without duplicates are put into another order. -/
  | reordered {catalog catalog' : Catalog} : (catalog.map Feature.name).Nodup →
      catalog.Perm catalog' → Change name catalog catalog'
  /-- Features are appended whose names are there already. -/
  | appended {catalog more : Catalog} : (∀ g ∈ more, ∃ f ∈ catalog, f.name = g.name) →
      Change name catalog (catalog ++ more)
  /-- Of a feature that does not count for the name, the rules, the prerequisites and the default are
  edited. -/
  | edited {f g : Feature} (before after : Catalog) :
      f.name ≠ name ∨ (∃ h ∈ before, h.name = name) → SameFlag f g →
      Change name (before ++ f :: after) (before ++ g :: after)

lemma find?_edited {f g : Feature} {before : Catalog} (after : Catalog)
    (h : f.name ≠ name ∨ ∃ h ∈ before, h.name = name) (hflag : SameFlag f g) :
    Catalog.find? (before ++ f :: after) name = Catalog.find? (before ++ g :: after) name := by
  have happend : ∀ rest : Catalog, Catalog.find? (before ++ rest) name =
      (Catalog.find? before name).or (Catalog.find? rest name) := fun _ => List.find?_append
  rw [happend, happend]
  cases hbefore : Catalog.find? before name with
  | some _ => rfl
  | none =>
      -- nothing before the feature has the name, so the feature has another one
      have hname : f.name ≠ name := by
        rcases h with h | ⟨h', hmem, hname⟩
        · exact h
        · exact absurd hname (Catalog.find?_eq_none_iff.mp hbefore h' hmem)
      have hname' : g.name ≠ name := hflag.name ▸ hname
      simp [Catalog.find?, hname, hname']

/-- A change beside a name leaves what its evaluation looks at. -/
theorem Change.alike (h : Change name catalog catalog') : Alike name catalog catalog' := by
  cases h with
  | reordered hnodup hperm =>
      have hfind := Catalog.find?_of_perm hnodup hperm
      exact alike_of_find? (hfind name) fun d => by rw [Catalog.meets, Catalog.meets, hfind d]
  | appended hmore =>
      have hfind := Catalog.find?_append_of_names hmore
      exact alike_of_find? (hfind name).symm fun d => by
        rw [Catalog.meets, Catalog.meets, hfind d]
  | @edited f g before after hbeside hflag =>
      have hsame : ∀ fs : Catalog, List.Forall₂ SameFlag fs fs := fun fs =>
        List.forall₂_same.mpr fun _ _ => ⟨rfl, rfl⟩
      have hflags : List.Forall₂ SameFlag (before ++ f :: after) (before ++ g :: after) :=
        List.rel_append (hsame before) (.cons hflag (hsame after))
      exact alike_of_find? (find?_edited after hbeside hflag) (meets_congr hflags)

/-- The evaluation of a name gives and logs the same on catalogs that are alike for it, and so also after
any changes beside it. -/
theorem evaluateOn_local (events : List Event) (name : String) (value : Value)
    (catalog catalog' : Catalog) :
    (Alike name catalog catalog' →
      evaluateOn ⟨.ok catalog', events⟩ name value = evaluateOn ⟨.ok catalog, events⟩ name value) ∧
    (Relation.ReflTransGen (Change name) catalog catalog' →
      evaluateOn ⟨.ok catalog', events⟩ name value =
        evaluateOn ⟨.ok catalog, events⟩ name value) := by
  refine ⟨fun h => h.evaluateOn_eq events value, fun h => ?_⟩
  induction h with
  | refl => rfl
  | tail _ hchange ih => rw [hchange.alike.evaluateOn_eq events value, ih]

/-- Two features that need each other, of which the other one may have any rules, prerequisites and place,
and a second feature of the name. -/
theorem evaluateOn_local_cycle :
    Alike "a" [⟨"a", true, false, ["b"], [⟨"x", true, false⟩]⟩, ⟨"b", true, false, ["a"], []⟩]
        [⟨"b", true, false, ["c"], []⟩, ⟨"a", true, true, ["b"], [⟨"x", true, false⟩]⟩] ∧
      evaluateOn ⟨.ok [⟨"b", true, false, ["c"], []⟩,
          ⟨"a", true, true, ["b"], [⟨"x", true, false⟩]⟩], []⟩ "a" (.map []) =
        evaluateOn ⟨.ok [⟨"a", true, false, ["b"], [⟨"x", true, false⟩]⟩,
          ⟨"b", true, false, ["a"], []⟩], []⟩ "a" (.map []) ∧
      Relation.ReflTransGen (Change "a")
        [⟨"a", true, false, ["b"], [⟨"x", true, false⟩]⟩, ⟨"b", true, false, ["a"], []⟩]
        [⟨"b", true, true, [], []⟩, ⟨"a", true, false, ["b"], [⟨"x", true, false⟩]⟩,
          ⟨"a", false, false, [], []⟩] ∧
      evaluateOn ⟨.ok [⟨"b", true, true, [], []⟩, ⟨"a", true, false, ["b"], [⟨"x", true, false⟩]⟩,
          ⟨"a", false, false, [], []⟩], []⟩ "a" (.map []) =
        evaluateOn ⟨.ok [⟨"a", true, false, ["b"], [⟨"x", true, false⟩]⟩,
          ⟨"b", true, false, ["a"], []⟩], []⟩ "a" (.map []) := by
  have halike : Alike "a"
      [⟨"a", true, false, ["b"], [⟨"x", true, false⟩]⟩, ⟨"b", true, false, ["a"], []⟩]
      [⟨"b", true, false, ["c"], []⟩, ⟨"a", true, true, ["b"], [⟨"x", true, false⟩]⟩] := by
    refine .found ⟨[], _, rfl, rfl, by simp⟩ ⟨[_], [], rfl, rfl, by simp⟩ ⟨⟨rfl, rfl⟩, rfl, rfl⟩
      fun d hd => ?_
    obtain rfl := List.mem_singleton.mp hd
    exact iff_of_true ⟨_, ⟨[_], [], rfl, rfl, by simp⟩, rfl⟩ ⟨_, ⟨[], _, rfl, rfl, by simp⟩, rfl⟩
  have hreordered : Change "a"
      [⟨"a", true, false, ["b"], [⟨"x", true, false⟩]⟩, ⟨"b", true, false, ["a"], []⟩]
      [⟨"b", true, false, ["a"], []⟩, ⟨"a", true, false, ["b"], [⟨"x", true, false⟩]⟩] :=
    .reordered (by simp) (.swap _ _ _)
  have happended : Change "a"
      [⟨"b", true, false, ["a"], []⟩, ⟨"a", true, false, ["b"], [⟨"x", true, false⟩]⟩]
      [⟨"b", true, false, ["a"], []⟩, ⟨"a", true, false, ["b"], [⟨"x", true, false⟩]⟩,
        ⟨"a", false, false, [], []⟩] :=
    .appended (by simp)
  have hedited : Change "a"
      [⟨"b", true, false, ["a"], []⟩, ⟨"a", true, false, ["b"], [⟨"x", true, false⟩]⟩,
        ⟨"a", false, false, [], []⟩]
      [⟨"b", true, true, [], []⟩, ⟨"a", true, false, ["b"], [⟨"x", true, false⟩]⟩,
        ⟨"a", false, false, [], []⟩] :=
    .edited [] _ (.inl (by simp)) ⟨rfl, rfl⟩
  have hchanges := ((Relation.ReflTransGen.single hreordered).tail happended).tail hedited
  exact ⟨halike, (evaluateOn_local [] "a" (.map []) _ _).1 halike, hchanges,
    (evaluateOn_local [] "a" (.map []) _ _).2 hchanges⟩

end Engine

end FeatureToggles
