import FeatureToggles.Proofs.Catalog.Reading
import FeatureToggles.Proofs.Catalog.Refusal
import Mathlib

/-!
# Concatenated documents

The records of a document are checked one by one, each under its index, and the issues of a record depend on
its place in no other way.  So what is wrong with the records of two arrays, one behind the other, is what is
wrong with the first and then what is wrong with the second, further on by as many records as the first has; and
where nothing is wrong, the features of the second follow those of the first.

Main statements: `Checked.all_append` and `Checked.all_add` about lists of items, and `Payload.catalog_append`.
-/

namespace FeatureToggles

/-! ## Checks of lists -/

namespace Issue

/-- An issue of the item that comes so many places later. -/
def raised (n : ℕ) (issue : Issue) : Issue :=
  match issue.path with
  | .index i :: rest => ⟨.index (n + i) :: rest, issue.problem⟩
  | _ => issue

end Issue

namespace Checked

variable {α β γ : Type}

lemma both_eq_ok_iff {f : α → β → γ} {a : Checked α} {b : Checked β} {z : γ} :
    both f a b = .ok z ↔ ∃ x y, a = .ok x ∧ b = .ok y ∧ z = f x y := by
  cases a with
  | error => cases b <;> simp [both]
  | ok x =>
      cases b with
      | error => simp [both]
      | ok y => simp [both, eq_comm]

lemma under_eq_ok_iff {step : Step} {c : Checked α} {x : α} : under step c = .ok x ↔ c = .ok x := by
  cases c <;> simp [under, Except.mapError]

lemma mapError_eq_ok_iff {g : List Issue → List Issue} {c : Checked α} {x : α} :
    c.mapError g = .ok x ↔ c = .ok x := by
  cases c <;> simp [Except.mapError]

lemma issues_mapError {g : List Issue → List Issue} (hg : g [] = []) (c : Checked α) :
    Checked.issues (c.mapError g) = g c.issues := by
  cases c with
  | ok => exact hg.symm
  | error => rfl

lemma both_mapError (f : α → β → γ) (g : Issue → Issue) (a : Checked α) (b : Checked β) :
    both f (a.mapError (List.map g)) (b.mapError (List.map g)) = (both f a b).mapError (List.map g) := by
  cases a <;> cases b <;> simp [both, Except.mapError]

/-- Of three checks side by side it does not matter which two of them are taken together. -/
lemma both_assoc {δ ε ζ : Type} {f : α → δ → ζ} {g : β → γ → δ} {h : ε → γ → ζ} {k : α → β → ε}
    (heq : ∀ x y z, f x (g y z) = h (k x y) z) (a : Checked α) (b : Checked β) (c : Checked γ) :
    both f a (both g b c) = both h (both k a b) c := by
  cases a <;> cases b <;> cases c <;> simp [both, heq]

variable (check : α → Checked β)

/-- The items of two lists, one behind the other, are checked as those of both. -/
lemma all_append (xs ys : List α) (start : ℕ) :
    all check start (xs ++ ys) =
      both (· ++ ·) (all check start xs) (all check (start + xs.length) ys) := by
  induction xs generalizing start with
  | nil => cases hys : all check start ys <;> simp [all, both, hys]
  | cons x xs ih =>
      have hlater : start + (x :: xs).length = start + 1 + xs.length := by
        simp only [List.length_cons]
        omega
      rw [List.cons_append, all, all, ih, hlater]
      refine both_assoc (fun z zs zs' => ?_) _ _ _
      rw [List.cons_append]

/-- Where items are counted from does not matter for them; it is added to the index in each path. -/
lemma all_add (n start : ℕ) (xs : List α) :
    all check (n + start) xs = (all check start xs).mapError (List.map (Issue.raised n)) := by
  induction xs generalizing start with
  | nil => rfl
  | cons x xs ih =>
      -- the paths below an item do not depend on its index, so only their first step changes
      have hitem : under (.index (n + start)) (check x) =
          (under (.index start) (check x)).mapError (List.map (Issue.raised n)) := by
        cases check x with
        | ok => rfl
        | error issues => simp [under, Except.mapError, Issue.raised]
      rw [all, all, hitem, Nat.add_assoc, ih, both_mapError]

/-- A list without issues is read item by item. -/
lemma all_eq_ok_iff {start : ℕ} {xs : List α} {zs : List β} :
    all check start xs = .ok zs ↔ List.Forall₂ (fun x z => check x = .ok z) xs zs := by
  induction xs generalizing start zs with
  | nil => simp [all, eq_comm]
  | cons x xs ih =>
      rw [all, both_eq_ok_iff, List.forall₂_cons_left_iff]
      constructor
      · rintro ⟨z, zs', hz, hzs, rfl⟩
        exact ⟨z, zs', under_eq_ok_iff.mp hz, ih.mp hzs, rfl⟩
      · rintro ⟨z, zs', hz, hzs, rfl⟩
        exact ⟨z, zs', under_eq_ok_iff.mpr hz, ih.mpr hzs, rfl⟩

/-- The path of an issue of a list begins with the index of an item. -/
lemma exists_index_of_mem_issues {start : ℕ} {xs : List α} {issue : Issue}
    (h : issue ∈ (all check start xs).issues) :
    ∃ i rest, issue.path = .index i :: rest ∧ i < start + xs.length := by
  induction xs generalizing start with
  | nil => simp [all, issues] at h
  | cons x xs ih =>
      rw [all, issues_both, List.mem_append] at h
      rcases h with h | h
      · cases hx : check x with
        | ok z => simp [hx, under, Except.mapError, issues] at h
        | error problems =>
            simp only [hx, under, Except.mapError, issues, List.mem_map] at h
            obtain ⟨problem, -, rfl⟩ := h
            exact ⟨start, problem.path, rfl, by simp⟩
      · obtain ⟨i, rest, hpath, hi⟩ := ih h
        refine ⟨i, rest, hpath, ?_⟩
        simp only [List.length_cons]
        omega

/-! ## Refusals are explained -/

/-- Whether a check that refuses something says what is wrong with it. -/
def Explains (c : Checked α) : Prop := c.issues = [] → ∃ x, c = .ok x

variable {check}

lemma explains_ok (x : α) : Explains (.ok x) := fun _ => ⟨x, rfl⟩

lemma explains_fail (problem : Problem) : Explains (fail problem : Checked α) := by
  intro h
  simp [fail, issues] at h

lemma Explains.under {c : Checked α} (h : c.Explains) (step : Step) : (c.under step).Explains := by
  intro hnone
  have hlength := length_under step c
  rw [hnone] at hlength
  obtain ⟨x, rfl⟩ := h (List.length_eq_zero_iff.mp hlength.symm)
  exact ⟨x, rfl⟩

lemma Explains.both {a : Checked α} {b : Checked β} (ha : a.Explains) (hb : b.Explains)
    (f : α → β → γ) : (Checked.both f a b).Explains := by
  intro hnone
  rw [issues_both, List.append_eq_nil_iff] at hnone
  obtain ⟨x, rfl⟩ := ha hnone.1
  obtain ⟨y, rfl⟩ := hb hnone.2
  exact ⟨f x y, rfl⟩

lemma explains_all (h : ∀ x, (check x).Explains) (start : ℕ) (xs : List α) :
    (all check start xs).Explains := by
  induction xs generalizing start with
  | nil => exact explains_ok []
  | cons x xs ih => exact ((h x).under _).both (ih _) _

end Checked

lemma explains_string (j : Json) : (string j).Explains := by
  cases j with
  | str s => exact Checked.explains_ok s
  | _ => exact Checked.explains_fail _

lemma explains_booleanOfInt (i : ℤ) : (booleanOfInt i).Explains := by
  unfold booleanOfInt
  split_ifs
  · exact Checked.explains_ok _
  · exact Checked.explains_ok _
  · exact Checked.explains_fail _

lemma explains_readText {α : Type} {read : Checked α} (h : read.Explains) (s : String) :
    (readText s read).Explains := by
  unfold readText
  split_ifs
  · exact Checked.explains_fail _
  · exact h

lemma explains_boolean (j : Json) : (boolean j).Explains := by
  unfold boolean
  split
  · exact Checked.explains_ok _
  · split_ifs
    · exact explains_booleanOfInt _
    · exact Checked.explains_fail _
  · split
    · exact explains_booleanOfInt _
    · exact Checked.explains_fail _
  · refine explains_readText ?_ _
    split
    · exact Checked.explains_ok _
    · exact Checked.explains_fail _
  · exact Checked.explains_fail _

namespace Record

variable {α : Type} {check : Json → Checked α}

lemma explains_required (h : ∀ j, (check j).Explains) (key : String) (others : List String)
    (fields : Json.Fields) : (required key others check fields).Explains := by
  unfold required
  split
  · exact (h _).under _
  · exact (Checked.explains_fail _).under _

lemma explains_optional (h : ∀ j, (check j).Explains) (keys : List String) (default : α)
    (fields : Json.Fields) : (optional keys default check fields).Explains := by
  unfold optional
  split
  · exact (h _).under _
  · exact Checked.explains_ok _

lemma explains_listOf (h : ∀ j, (check j).Explains) (j : Json) : (listOf check j).Explains := by
  cases j with
  | null => exact Checked.explains_ok _
  | arr items => exact Checked.explains_all h 0 items
  | _ => exact Checked.explains_fail _

lemma explains_object {check : Json.Fields → Checked α} (h : ∀ fields, (check fields).Explains)
    (name : String) (j : Json) : (object name check j).Explains := by
  cases j with
  | obj fields => exact h fields
  | _ => exact Checked.explains_fail _

lemma explains_rule (j : Json) : (rule j).Explains := by
  refine explains_object (fun fields => ?_) _ j
  have hcondition := explains_required explains_string "condition" ["Condition"] fields
  have henabled := explains_optional explains_boolean enabledKeys false fields
  have hdisabled := explains_optional explains_boolean disabledKeys false fields
  exact hcondition.both (henabled.both hdisabled _) _

/-- A record that is refused has issues. -/
lemma explains_feature (j : Json) : (feature j).Explains := by
  refine explains_object (fun fields => ?_) _ j
  have hname := explains_required explains_string "name" ["Name"] fields
  have henabled := explains_optional explains_boolean enabledKeys false fields
  have hdefault := explains_optional explains_boolean defaultKeys false fields
  have hdepends := explains_optional (explains_listOf explains_string) dependsKeys [] fields
  have hrules := explains_optional (explains_listOf explains_rule) rulesKeys [] fields
  exact hname.both ((henabled.both hdefault _).both (hdepends.both hrules _) _) _

lemma features_append (xs ys : List Json) :
    features (xs ++ ys) =
      Checked.both (· ++ ·) (features xs)
        ((features ys).mapError (List.map (Issue.raised xs.length))) := by
  rw [features, Checked.all_append, Nat.zero_add, ← Nat.add_zero xs.length, Checked.all_add]
  rfl

end Record

/-! ## Documents -/

namespace Payload

variable {source : String} {payload : Payload} {items : List Json}

/-- Whether a payload is refused for exactly these issues, with their number and a list of them, or is
accepted and there are none. -/
def Lists (source : String) (payload : Payload) (issues : List Issue) : Prop :=
  (issues = [] ∧ ∃ catalog, payload.catalog source = .ok catalog) ∨
    issues ≠ [] ∧ ∃ fault, payload.catalog source = .error fault ∧
      fault.failure.report? = some ⟨"CATALOG_ERROR",
        "Feature catalog has invalid records: " ++ toString issues.length ++ " error(s)", 503,
        [("errors", .arr (issues.map Issue.toJson)), ("source", .str source)]⟩

/-- A payload gives a catalog or a fault of the catalog. -/
lemma catalog_or_isOfCatalog (source : String) (payload : Payload) :
    (∃ catalog, payload.catalog source = .ok catalog) ∨
      ∃ fault, payload.catalog source = .error fault ∧ fault.IsOfCatalog source := by
  cases hcatalog : payload.catalog source with
  | ok catalog => exact .inl ⟨catalog, rfl⟩
  | error fault =>
      refine .inr ⟨fault, rfl, ?_⟩
      cases payload with
      | text cs => exact Catalog.isOfCatalog_of_ofText hcatalog
      | bytes bs => exact Catalog.isOfCatalog_of_ofBytes hcatalog

/-- The catalog of an array is what its records are read as, and nothing if there are issues. -/
lemma catalog_eq_ok_iff {catalog : Catalog} (h : payload.Holds (.arr items)) :
    payload.catalog source = .ok catalog ↔ Record.features items = .ok catalog := by
  rw [catalog_of_holds h, Catalog.ofJson_eq_ok_iff]
  constructor
  · rintro ⟨items', hitems, hfeatures⟩
    obtain rfl := Json.arr.inj hitems
    exact hfeatures
  · intro hfeatures
    exact ⟨items, rfl, hfeatures⟩

/-- An array is refused for the issues of its records. -/
lemma lists_issues (h : payload.Holds (.arr items)) (source : String) :
    payload.Lists source (Record.features items).issues := by
  have hexplains : (Record.features items).Explains :=
    Checked.explains_all Record.explains_feature 0 items
  -- a list of issues that is empty would count no errors in a refusal; there is none such
  cases hfeatures : Record.features items with
  | ok catalog => exact .inl ⟨rfl, catalog, (catalog_eq_ok_iff h).mpr hfeatures⟩
  | error issues =>
      refine .inr ⟨fun hnone => ?_, Catalog.invalid source issues, ?_, ?_⟩
      · obtain ⟨catalog, hok⟩ := hexplains (by rw [hfeatures]; exact hnone)
        rw [hfeatures] at hok
        cases hok
      · rw [catalog_of_holds h, Catalog.ofJson, hfeatures]
      · exact Catalog.report?_fault _ _ _ _ rfl

/-- A payload gives a catalog or a fault that names the source.  An array with the records of two arrays is
accepted if both are, and gives their features, one for each record.  If it is refused, then for the issues of
the first array and those of the second, each of which names a record by an index that is now further on. -/
theorem catalog_append (source : String) :
    (∀ payload : Payload, (∃ catalog, payload.catalog source = .ok catalog) ∨
      ∃ fault, payload.catalog source = .error fault ∧ fault.IsOfCatalog source) ∧
      ∀ (xs ys : List Json) (p q r : Payload), p.Holds (.arr xs) → q.Holds (.arr ys) →
        r.Holds (.arr (xs ++ ys)) →
        (∀ catalog, r.catalog source = .ok catalog ↔ ∃ first second,
          p.catalog source = .ok first ∧ q.catalog source = .ok second ∧ catalog = first ++ second) ∧
        (∀ catalog, r.catalog source = .ok catalog ↔
          List.Forall₂ (fun j feature => Record.feature j = .ok feature) (xs ++ ys) catalog) ∧
        ∃ first second, p.Lists source first ∧ q.Lists source second ∧
          r.Lists source (first ++ second.map (Issue.raised xs.length)) ∧
          ∀ issue ∈ second, ∃ i rest, issue.path = .index i :: rest ∧ i < ys.length := by
  refine ⟨catalog_or_isOfCatalog source, fun xs ys p q r hp hq hr => ⟨fun catalog => ?_,
    fun catalog => ?_, ?_⟩⟩
  · rw [catalog_eq_ok_iff hr, Record.features_append, Checked.both_eq_ok_iff]
    simp only [Checked.mapError_eq_ok_iff, catalog_eq_ok_iff hp, catalog_eq_ok_iff hq]
  · rw [catalog_eq_ok_iff hr]
    exact Checked.all_eq_ok_iff Record.feature
  · have hissues := lists_issues hr source
    rw [Record.features_append, Checked.issues_both, Checked.issues_mapError List.map_nil] at hissues
    refine ⟨_, _, lists_issues hp source, lists_issues hq source, hissues, fun issue hissue => ?_⟩
    obtain ⟨i, rest, hpath, hi⟩ := Checked.exists_index_of_mem_issues Record.feature hissue
    exact ⟨i, rest, hpath, by omega⟩

/-- A record in order, and one whose own fields and whose rule are not. -/
def firstRecords : List Json :=
  [.obj [("name", .str "a")],
    .obj [("enabled", .int 2), ("rules", .arr [.obj [("condition", .int 1)]])]]

/-- A number in the place of a record, and a record in order. -/
def secondRecords : List Json := [.int 7, .obj [("name", .str "b")]]

/-- The text of the records of the first array. -/
def firstText : String :=
  "[\x7b\"name\":\"a\"\x7d,\x7b\"enabled\":2,\"rules\":[\x7b\"condition\":1\x7d]\x7d]"

/-- The text of the records of the second array. -/
def secondText : String := "[7,\x7b\"name\":\"b\"\x7d]"

/-- The text of all records. -/
def allText : String :=
  "[\x7b\"name\":\"a\"\x7d,\x7b\"enabled\":2,\"rules\":[\x7b\"condition\":1\x7d]\x7d,7," ++
    "\x7b\"name\":\"b\"\x7d]"

/-- The issues of the second record come first, and then that of the third one, which was the first in its own
array. -/
theorem catalog_append_flawed :
    (text firstText.toList).Holds (.arr firstRecords) ∧
      (text secondText.toList).Holds (.arr secondRecords) ∧
      (text allText.toList).Holds (.arr (firstRecords ++ secondRecords)) ∧
      (∃ first second, (text firstText.toList).Lists "<memory>" first ∧
        (text secondText.toList).Lists "<memory>" second ∧
        (text allText.toList).Lists "<memory>" (first ++ second.map (Issue.raised 2)) ∧
        ∀ issue ∈ second, ∃ i rest, issue.path = .index i :: rest ∧ i < 2) ∧
      (text allText.toList).Lists "<memory>"
        [⟨[.index 1, .key "name"], .missing⟩, ⟨[.index 1, .key "enabled"], .noBooleanText⟩,
          ⟨[.index 1, .key "rules", .index 0, .key "condition"], .notString⟩,
          ⟨[.index 2], .notRecord "FeatureRecord"⟩] := by
  have hfirst : (text firstText.toList).Holds (.arr firstRecords) := by
    show Json.ofChars firstText.toList = .ok (.arr firstRecords)
    cbv
  have hsecond : (text secondText.toList).Holds (.arr secondRecords) := by
    show Json.ofChars secondText.toList = .ok (.arr secondRecords)
    cbv
  have hall : (text allText.toList).Holds (.arr (firstRecords ++ secondRecords)) := by
    show Json.ofChars allText.toList = .ok (.arr (firstRecords ++ secondRecords))
    cbv
  obtain ⟨-, happend⟩ := catalog_append "<memory>"
  refine ⟨hfirst, hsecond, hall, (happend _ _ _ _ _ hfirst hsecond hall).2.2, ?_⟩
  exact lists_issues hall "<memory>"

end Payload

end FeatureToggles
