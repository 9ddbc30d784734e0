import FeatureToggles.Proofs.Number.Place
import FeatureToggles.Proofs.Value.Data
import Mathlib

/-!
# Equality of values

Values are compared part by part: lists item by item, and mappings by looking up the keys of the one in the
other, wherever these stand.  Inside of lists and mappings a boolean counts as a number, so that values of
different sorts may be equal there.  On values that are made of numbers that are numbers, and in which no
mapping has a key twice, the answers are those of an equivalence, and the order of entries does not matter to
them at any depth.

Main statements: `equal_refl`, `equal_symm` and `equal_trans` by induction on the first value, and
`Rearranged.equal`.
-/

namespace FeatureToggles

namespace Value

variable {u v w : Value} {es fs gs : List (Value × Value)}

/-! ## Scalars -/

/-- Null, booleans, numbers that are numbers, and texts. -/
inductive IsScalar : Value → Prop where
  | null : IsScalar .null
  | bool (b : Bool) : IsScalar (.bool b)
  | number {n : Number} : n.isNaN = false → IsScalar (.number n)
  | text (s : String) : IsScalar (.text s)

/-- What a scalar counts as inside of lists and mappings. -/
inductive Mark where
  | null
  | number (place : ℤ ×ₗ ℚ)
  | text (s : String)

/-- The mark of a scalar: a boolean has that of a number, and numbers at the same place have the same. -/
def mark? : Value → Option Mark
  | .null => some .null
  | .bool b => (ofBool b).place?.map .number
  | .number n => n.place?.map .number
  | .text s => some (.text s)
  | _ => none

lemma IsScalar.exists_mark (h : IsScalar v) : ∃ k, v.mark? = some k := by
  cases h with
  | null => exact ⟨_, rfl⟩
  | bool b => exact ⟨_, rfl⟩
  | number hn =>
      obtain ⟨p, hp⟩ := Number.exists_place hn
      exact ⟨.number p, by rw [mark?, hp, Option.map_some]⟩
  | text s => exact ⟨_, rfl⟩

lemma equalNumbers_ofBool (a b : Bool) : equalNumbers (ofBool a) (ofBool b) = .ok (a == b) := by
  cases a <;> cases b <;> rfl

lemma sameNumber_ofBool (a b : Bool) : sameNumber (ofBool a) (ofBool b) = (a == b) := by
  cases a <;> cases b <;> rfl

/-- Whether two values are compared, and told apart as keys, by the marks that they have. -/
def ComparedBy (k l : Mark) (v w : Value) : Prop :=
  ∃ answer, equal v w = .ok answer ∧ v.sameKey w = answer ∧ (answer = true ↔ k = l)

/-- Scalars are compared by their marks. -/
lemma comparedBy_marks {k l : Mark} (hv : v.mark? = some k) (hw : w.mark? = some l) :
    ComparedBy k l v w := by
  have hnumbers : ∀ a b : Number, a.place?.map Mark.number = some k →
      b.place?.map Mark.number = some l →
      ∃ answer, equalNumbers a b = .ok answer ∧ sameNumber a b = answer ∧
        (answer = true ↔ k = l) := by
    intro a b ha hb
    obtain ⟨p, hp, rfl⟩ := Option.map_eq_some_iff.mp ha
    obtain ⟨q, hq, rfl⟩ := Option.map_eq_some_iff.mp hb
    refine ⟨decide (p = q), ?_, ?_, by simp⟩
    · rw [equalNumbers, Number.equal_of_place hp hq, Except.mapError]
    · rw [sameNumber, Number.isSame_of_isNaN (Number.isNaN_of_place hp), Bool.false_or,
        Number.equal_of_place hp hq]
  have hdiffer : equal v w = .ok false → v.sameKey w = false → k ≠ l → ComparedBy k l v w :=
    fun hequal hkey hne => ⟨false, hequal, hkey, by simpa using hne⟩
  cases v with
  | null =>
      obtain rfl : Mark.null = k := Option.some.inj hv
      cases w with
      | null => exact ⟨true, rfl, rfl, by simpa [mark?] using hw⟩
      | bool | number | text => exact hdiffer rfl rfl (by rintro rfl; simp [mark?] at hw)
      | _ => simp [mark?] at hw
  | text s =>
      obtain rfl : Mark.text s = k := Option.some.inj hv
      cases w with
      | text t =>
          obtain rfl : Mark.text t = l := Option.some.inj hw
          exact ⟨s == t, rfl, rfl, by simp⟩
      | null | bool | number => exact hdiffer rfl rfl (by rintro rfl; simp [mark?] at hw)
      | _ => simp [mark?] at hw
  | bool a =>
      cases w with
      | bool b =>
          obtain ⟨answer, hequal, hkey, hanswer⟩ := hnumbers (ofBool a) (ofBool b) hv hw
          rw [equalNumbers_ofBool] at hequal
          rw [sameNumber_ofBool] at hkey
          exact ⟨answer, hequal, hkey, hanswer⟩
      | number n => exact hnumbers _ _ hv hw
      | null | text =>
          obtain rfl := Option.some.inj hw
          exact hdiffer rfl rfl (by rintro rfl; simp [mark?] at hv)
      | _ => simp [mark?] at hw
  | number n =>
      cases w with
      | bool | number => exact hnumbers _ _ hv hw
      | null | text =>
          obtain rfl := Option.some.inj hw
          exact hdiffer rfl rfl (by rintro rfl; simp [mark?] at hv)
      | _ => simp [mark?] at hw
  | _ => simp [mark?] at hv

/-- Scalars with the same mark, and no others, are the same key. -/
lemma sameKey_iff (hv : IsScalar v) (hw : IsScalar w) : v.sameKey w = true ↔ v.mark? = w.mark? := by
  obtain ⟨k, hk⟩ := hv.exists_mark
  obtain ⟨l, hl⟩ := hw.exists_mark
  obtain ⟨answer, -, hkey, hanswer⟩ := comparedBy_marks hk hl
  rw [hkey, hanswer, hk, hl, Option.some.injEq]

/-! ## Entries -/

/-- Whether the keys of some entries are scalars that differ from each other. -/
structure HasKeys (entries : List (Value × Value)) : Prop where
  scalar : ∀ entry ∈ entries, IsScalar entry.1
  distinct : entries.Pairwise fun e f => e.1.sameKey f.1 = false

namespace HasKeys

lemma tail {entry : Value × Value} (h : HasKeys (entry :: es)) : HasKeys es :=
  ⟨fun e he => h.scalar e (.tail _ he), (List.pairwise_cons.mp h.distinct).2⟩

lemma nodup_marks (h : HasKeys es) : (es.map fun entry => entry.1.mark?).Nodup := by
  rw [List.Nodup, List.pairwise_map]
  refine h.distinct.imp_of_mem fun {e f} he hf hkey hmark => ?_
  rw [(sameKey_iff (h.scalar e he) (h.scalar f hf)).mpr hmark] at hkey
  cases hkey

/-- A key stands for the value of the one entry that has its mark. -/
lemma lookup_eq_some_iff (h : HasKeys fs) {key : Value} (hkey : IsScalar key) :
    lookup fs key = some w ↔ ∃ f ∈ fs, f.1.mark? = key.mark? ∧ f.2 = w := by
  induction fs with
  | nil => simp [lookup]
  | cons f fs ih =>
      have hf := sameKey_iff (h.scalar f List.mem_cons_self) hkey
      by_cases hmark : f.1.mark? = key.mark?
      · have hlookup : lookup (f :: fs) key = some f.2 := by simp [lookup, hf.mpr hmark]
        -- an entry further on with this mark would have the same key as the first one
        have hrest : ∀ g ∈ fs, g.1.mark? ≠ key.mark? := by
          intro g hg hgmark
          have hnodup := h.nodup_marks
          rw [List.map_cons, List.nodup_cons] at hnodup
          exact hnodup.1 (List.mem_map.mpr ⟨g, hg, hgmark.trans hmark.symm⟩)
        rw [hlookup, Option.some.injEq]
        constructor
        · rintro rfl
          exact ⟨f, List.mem_cons_self, hmark, rfl⟩
        · rintro ⟨g, hg, hgmark, rfl⟩
          rcases List.mem_cons.mp hg with rfl | hg
          · rfl
          · exact absurd hgmark (hrest g hg)
      · have hdiffer : f.1.sameKey key = false := by
          rw [← Bool.not_eq_true, hf]
          exact hmark
        have hlookup : lookup (f :: fs) key = lookup fs key := by simp [lookup, hdiffer]
        rw [hlookup, ih h.tail]
        simp [hmark]

/-- Where as many entries have all marks of some others, these have all of theirs. -/
lemma exists_mark_of_length (hes : HasKeys es) (hlength : es.length = fs.length)
    (h : ∀ e ∈ es, ∃ f ∈ fs, f.1.mark? = e.1.mark?) :
    ∀ f ∈ fs, ∃ e ∈ es, e.1.mark? = f.1.mark? := by
  have hsubset : (es.map fun e => e.1.mark?) ⊆ fs.map fun f => f.1.mark? := by
    intro mark hmark
    obtain ⟨e, he, rfl⟩ := List.mem_map.mp hmark
    obtain ⟨f, hf, hef⟩ := h e he
    exact List.mem_map.mpr ⟨f, hf, hef⟩
  have hperm := (hes.nodup_marks.subperm hsubset).perm_of_length_le (by simp [hlength])
  intro f hf
  exact List.mem_map.mp (hperm.mem_iff.mpr (List.mem_map.mpr ⟨f, hf, rfl⟩))

end HasKeys

/-- Whether entries are as many, and those of the first list have equal values in the second one. -/
def SameEntries (es fs : List (Value × Value)) : Prop :=
  es.length = fs.length ∧ ∀ e ∈ es, ∃ f ∈ fs, f.1.mark? = e.1.mark? ∧ equal e.2 f.2 = .ok true

/-- Whether a value has to be compared to be found equal to any, as it is no number that is none. -/
def IsCompared (v : Value) : Prop := ∀ w, v.isSame w = false

lemma equalEntries_iff (hes : ∀ e ∈ es, IsCompared e.2) (fs : List (Value × Value)) :
    equalEntries es fs = .ok true ↔
      ∀ e ∈ es, ∃ w, lookup fs e.1 = some w ∧ equal e.2 w = .ok true := by
  induction es with
  | nil => simp [equalEntries]
  | cons e es ih =>
      obtain ⟨key, v⟩ := e
      obtain ⟨hv, hrest⟩ := List.forall_mem_cons.mp hes
      rw [equalEntries, List.forall_mem_cons, ← ih hrest]
      cases hlookup : lookup fs key with
      | none => simp
      | some w =>
          have hsame : v.isSame w = false := hv w
          rcases hequal : equal v w with error | answer
          · simp [hsame, hequal]
          · cases answer <;> simp [hsame, hequal]

lemma sameEntries_iff (hes : HasKeys es) (hfs : HasKeys fs) (hvalues : ∀ e ∈ es, IsCompared e.2) :
    (if es.length = fs.length then equalEntries es fs else .ok false) = .ok true ↔
      SameEntries es fs := by
  have hlookup : (∀ e ∈ es, ∃ w, lookup fs e.1 = some w ∧ equal e.2 w = .ok true) ↔
      ∀ e ∈ es, ∃ f ∈ fs, f.1.mark? = e.1.mark? ∧ equal e.2 f.2 = .ok true := by
    refine forall₂_congr fun e he => ?_
    constructor
    · rintro ⟨w, hw, hequal⟩
      obtain ⟨f, hf, hmark, rfl⟩ := (hfs.lookup_eq_some_iff (hes.scalar e he)).mp hw
      exact ⟨f, hf, hmark, hequal⟩
    · rintro ⟨f, hf, hmark, hequal⟩
      exact ⟨f.2, (hfs.lookup_eq_some_iff (hes.scalar e he)).mpr ⟨f, hf, hmark, rfl⟩, hequal⟩
  rw [SameEntries, ← hlookup, ← equalEntries_iff hvalues]
  split_ifs with hlength <;> simp [hlength]

lemma equal_map_iff (hes : HasKeys es) (hfs : HasKeys fs) (hvalues : ∀ e ∈ es, IsCompared e.2) :
    equal (.map es) (.map fs) = .ok true ↔ SameEntries es fs := by
  rw [equal, sameEntries_iff hes hfs hvalues]

lemma equal_context_iff (hes : HasKeys es) (hfs : HasKeys fs) (hvalues : ∀ e ∈ es, IsCompared e.2) :
    equal (.context es) (.context fs) = .ok true ↔ SameEntries es fs := by
  rw [equal, sameEntries_iff hes hfs hvalues]

namespace SameEntries

lemma refl (h : ∀ e ∈ es, equal e.2 e.2 = .ok true) : SameEntries es es :=
  ⟨rfl, fun e he => ⟨e, he, rfl, h e he⟩⟩

lemma symm (h : SameEntries es fs) (hes : HasKeys es) (hfs : HasKeys fs)
    (hsymm : ∀ e ∈ es, ∀ f ∈ fs, equal e.2 f.2 = .ok true → equal f.2 e.2 = .ok true) :
    SameEntries fs es := by
  obtain ⟨hlength, hentries⟩ := h
  have hmarks := hes.exists_mark_of_length hlength fun e he => by
    obtain ⟨f, hf, hmark, -⟩ := hentries e he
    exact ⟨f, hf, hmark⟩
  refine ⟨hlength.symm, fun f hf => ?_⟩
  obtain ⟨e, he, hmark⟩ := hmarks f hf
  obtain ⟨g, hg, hgmark, hequal⟩ := hentries e he
  -- the entry that the first one is found to equal is the one at hand, as there is no other of its mark
  obtain rfl : f = g := List.inj_on_of_nodup_map hfs.nodup_marks hf hg (hmark.symm.trans hgmark.symm)
  exact ⟨e, he, hmark, hsymm e he f hf hequal⟩

lemma trans (h : SameEntries es fs) (h' : SameEntries fs gs)
    (htrans : ∀ e ∈ es, ∀ f ∈ fs, ∀ g ∈ gs, equal e.2 f.2 = .ok true → equal f.2 g.2 = .ok true →
      equal e.2 g.2 = .ok true) : SameEntries es gs := by
  refine ⟨h.1.trans h'.1, fun e he => ?_⟩
  obtain ⟨f, hf, hef, hequal⟩ := h.2 e he
  obtain ⟨g, hg, hfg, hequal'⟩ := h'.2 f hf
  exact ⟨g, hg, hfg.trans hef, htrans e he f hf g hg hequal hequal'⟩

end SameEntries

/-! ## Items -/

/-- Whether rows of values are as long, and equal at each place. -/
def SameItems (xs ys : List Value) : Prop :=
  xs.length = ys.length ∧
    ∀ i (hx : i < xs.length) (hy : i < ys.length), equal xs[i] ys[i] = .ok true

lemma equal_list_iff {xs : List Value} (hxs : ∀ x ∈ xs, IsCompared x) (ys : List Value) :
    equal (.list xs) (.list ys) = .ok true ↔ SameItems xs ys := by
  have hitems : xs.length = ys.length → (equalItems xs ys = .ok true ↔
      List.Forall₂ (fun x y => equal x y = .ok true) xs ys) := by
    intro hlength
    induction xs generalizing ys with
    | nil =>
        obtain rfl := List.length_eq_zero_iff.mp hlength.symm
        simp [equalItems]
    | cons x xs ih =>
        cases ys with
        | nil => simp at hlength
        | cons y ys =>
            obtain ⟨hx, hrest⟩ := List.forall_mem_cons.mp hxs
            have hsame : x.isSame y = false := hx y
            rw [equalItems, List.forall₂_cons, ← ih hrest ys (Nat.succ.inj hlength)]
            rcases hequal : equal x y with error | answer
            · simp [hsame]
            · cases answer <;> simp [hsame]
  rw [equal, SameItems]
  split_ifs with hlength
  · rw [hitems hlength, List.forall₂_iff_get]
    simp [hlength]
  · simp [hlength]

namespace SameItems

variable {xs ys zs : List Value}

lemma refl (h : ∀ x ∈ xs, equal x x = .ok true) : SameItems xs xs :=
  ⟨rfl, fun _ hx _ => h _ (List.getElem_mem hx)⟩

lemma symm (h : SameItems xs ys)
    (hsymm : ∀ x ∈ xs, ∀ y ∈ ys, equal x y = .ok true → equal y x = .ok true) :
    SameItems ys xs :=
  ⟨h.1.symm, fun i hy hx =>
    hsymm _ (List.getElem_mem hx) _ (List.getElem_mem hy) (h.2 i hx hy)⟩

lemma trans (h : SameItems xs ys) (h' : SameItems ys zs)
    (htrans : ∀ x ∈ xs, ∀ y ∈ ys, ∀ z ∈ zs, equal x y = .ok true → equal y z = .ok true →
      equal x z = .ok true) : SameItems xs zs := by
  refine ⟨h.1.trans h'.1, fun i hx hz => ?_⟩
  have hy : i < ys.length := h.1 ▸ hx
  exact htrans _ (List.getElem_mem hx) _ (List.getElem_mem hy) _ (List.getElem_mem hz)
    (h.2 i hx hy) (h'.2 i hy hz)

end SameItems

/-! ## Values in which nothing is not a number -/

/-- Whether a value is made of null, booleans, numbers that are numbers, and texts by lists, mappings and
evaluation contexts, to any depth. -/
inductive IsRegular : Value → Prop where
  | scalar {v : Value} : IsScalar v → IsRegular v
  | list {items : List Value} : (∀ v ∈ items, IsRegular v) → IsRegular (.list items)
  | map {entries : List (Value × Value)} :
      HasKeys entries → (∀ entry ∈ entries, IsRegular entry.2) → IsRegular (.map entries)
  | context {entries : List (Value × Value)} :
      HasKeys entries → (∀ entry ∈ entries, IsRegular entry.2) → IsRegular (.context entries)

lemma IsRegular.isCompared (hv : IsRegular v) : IsCompared v := by
  intro w
  cases hv with
  | scalar hv =>
      cases hv with
      | number hn => cases w <;> first | rfl | exact Number.isSame_of_isNaN hn _
      | _ => rfl
  | _ => rfl

lemma isCompared_of_regular (h : ∀ e ∈ es, IsRegular e.2) : ∀ e ∈ es, IsCompared e.2 :=
  fun e he => (h e he).isCompared

/-- Lists, mappings and contexts have no mark. -/
lemma IsRegular.isScalar_or (hw : IsRegular w) :
    IsScalar w ∨ w.mark? = none ∧ ∀ v, IsScalar v → equal v w = .ok false := by
  cases hw with
  | scalar hw => exact .inl hw
  | list | map | context =>
      refine .inr ⟨rfl, fun v hv => ?_⟩
      cases hv <;> rfl

/-- Beside a scalar it only matters which mark a value has, if any. -/
lemma IsScalar.exists_equal (hv : IsScalar v) (hw : IsRegular w) :
    ∃ answer, equal v w = .ok answer ∧ (answer = true ↔ v.mark? = w.mark?) := by
  obtain ⟨k, hk⟩ := hv.exists_mark
  rcases hw.isScalar_or with hw | ⟨hnone, hequal⟩
  · obtain ⟨l, hl⟩ := hw.exists_mark
    obtain ⟨answer, hequal, -, hanswer⟩ := comparedBy_marks hk hl
    exact ⟨answer, hequal, by rw [hanswer, hk, hl, Option.some.injEq]⟩
  · exact ⟨false, hequal v hv, by rw [hk, hnone]; simp⟩

lemma IsScalar.equal_iff (hv : IsScalar v) (hw : IsRegular w) :
    equal v w = .ok true ↔ v.mark? = w.mark? := by
  obtain ⟨answer, hequal, hanswer⟩ := hv.exists_equal hw
  rw [hequal, Except.ok.injEq, hanswer]

/-- What has the mark of a scalar is one. -/
lemma IsScalar.of_mark (hv : IsScalar v) (hw : IsRegular w) (h : v.mark? = w.mark?) :
    IsScalar w := by
  obtain ⟨k, hk⟩ := hv.exists_mark
  rcases hw.isScalar_or with hw | ⟨hnone, -⟩
  · exact hw
  · rw [hk, hnone] at h
    cases h

lemma exists_equal_entries (h : ∀ e ∈ es, ∀ w, IsRegular w → ∃ answer, equal e.2 w = .ok answer)
    (hfs : ∀ f ∈ fs, IsRegular f.2) :
    ∃ answer, (if es.length = fs.length then equalEntries es fs else .ok false) = .ok answer := by
  split_ifs
  · exact exists_equalEntries h hfs
  · exact ⟨false, rfl⟩

/-- Regular values can be compared, however deep they are nested. -/
theorem IsRegular.exists_equal (hv : IsRegular v) (hw : IsRegular w) :
    ∃ answer, equal v w = .ok answer := by
  induction hv generalizing w with
  | scalar hv =>
      obtain ⟨answer, hequal, -⟩ := hv.exists_equal hw
      exact ⟨answer, hequal⟩
  | @list xs _ ih =>
      cases hw with
      | @list ys hys =>
          rw [equal]
          split_ifs
          · exact exists_equalItems (fun x hx w hw => ih x hx hw) hys
          · exact ⟨false, rfl⟩
      | scalar hw => cases hw <;> exact ⟨false, rfl⟩
      | map | context => exact ⟨false, rfl⟩
  | map _ _ ih =>
      cases hw with
      | map _ hfs =>
          rw [equal]
          exact exists_equal_entries (fun e he w hw => ih e he hw) hfs
      | scalar hw => cases hw <;> exact ⟨false, rfl⟩
      | list | context => exact ⟨false, rfl⟩
  | context _ _ ih =>
      cases hw with
      | context _ hfs =>
          rw [equal]
          exact exists_equal_entries (fun e he w hw => ih e he hw) hfs
      | scalar hw => cases hw <;> exact ⟨false, rfl⟩
      | list | map => exact ⟨false, rfl⟩

/-- What equals a list is a list whose items equal those of the other one; nothing else equals one. -/
lemma equal_list_cases {xs : List Value} (hxs : ∀ x ∈ xs, IsRegular x) (hw : IsRegular w)
    (h : equal (.list xs) w = .ok true) :
    ∃ ys, w = .list ys ∧ (∀ y ∈ ys, IsRegular y) ∧ SameItems xs ys := by
  cases hw with
  | @list ys hys =>
      exact ⟨ys, rfl, hys, (equal_list_iff (fun x hx => (hxs x hx).isCompared) ys).mp h⟩
  | scalar hw => cases hw <;> simp [equal] at h
  | map | context => simp [equal] at h

lemma equal_map_cases (hes : HasKeys es) (hvalues : ∀ e ∈ es, IsRegular e.2) (hw : IsRegular w)
    (h : equal (.map es) w = .ok true) :
    ∃ fs, w = .map fs ∧ HasKeys fs ∧ (∀ f ∈ fs, IsRegular f.2) ∧ SameEntries es fs := by
  cases hw with
  | @map fs hkeys hfs =>
      exact ⟨fs, rfl, hkeys, hfs, (equal_map_iff hes hkeys (isCompared_of_regular hvalues)).mp h⟩
  | scalar hw => cases hw <;> simp [equal] at h
  | list | context => simp [equal] at h

lemma equal_context_cases (hes : HasKeys es) (hvalues : ∀ e ∈ es, IsRegular e.2)
    (hw : IsRegular w) (h : equal (.context es) w = .ok true) :
    ∃ fs, w = .context fs ∧ HasKeys fs ∧ (∀ f ∈ fs, IsRegular f.2) ∧ SameEntries es fs := by
  cases hw with
  | @context fs hkeys hfs =>
      exact ⟨fs, rfl, hkeys, hfs, (equal_context_iff hes hkeys (isCompared_of_regular hvalues)).mp h⟩
  | scalar hw => cases hw <;> simp [equal] at h
  | list | map => simp [equal] at h

/-! ## Equality as an equivalence -/

theorem IsRegular.equal_refl (hv : IsRegular v) : equal v v = .ok true := by
  induction hv with
  | scalar hv => exact (hv.equal_iff (.scalar hv)).mpr rfl
  | @list xs hxs ih =>
      exact (equal_list_iff (fun x hx => (hxs x hx).isCompared) xs).mpr (.refl ih)
  | map hkeys hes ih =>
      exact (equal_map_iff hkeys hkeys (isCompared_of_regular hes)).mpr (.refl ih)
  | context hkeys hes ih =>
      exact (equal_context_iff hkeys hkeys (isCompared_of_regular hes)).mpr (.refl ih)

theorem IsRegular.equal_symm (hv : IsRegular v) (hw : IsRegular w) (h : equal v w = .ok true) :
    equal w v = .ok true := by
  induction hv generalizing w with
  | scalar hv =>
      have hmark := (hv.equal_iff hw).mp h
      exact ((hv.of_mark hw hmark).equal_iff (.scalar hv)).mpr hmark.symm
  | @list xs hxs ih =>
      obtain ⟨ys, rfl, hys, hsame⟩ := equal_list_cases hxs hw h
      exact (equal_list_iff (fun y hy => (hys y hy).isCompared) xs).mpr
        (hsame.symm fun x hx y hy => ih x hx (hys y hy))
  | map hkeys hes ih =>
      obtain ⟨fs, rfl, hkeys', hfs, hsame⟩ := equal_map_cases hkeys hes hw h
      exact (equal_map_iff hkeys' hkeys (isCompared_of_regular hfs)).mpr
        (hsame.symm hkeys hkeys' fun e he f hf => ih e he (hfs f hf))
  | context hkeys hes ih =>
      obtain ⟨fs, rfl, hkeys', hfs, hsame⟩ := equal_context_cases hkeys hes hw h
      exact (equal_context_iff hkeys' hkeys (isCompared_of_regular hfs)).mpr
        (hsame.symm hkeys hkeys' fun e he f hf => ih e he (hfs f hf))

theorem IsRegular.equal_trans (hu : IsRegular u) (hv : IsRegular v) (hw : IsRegular w)
    (h : equal u v = .ok true) (h' : equal v w = .ok true) : equal u w = .ok true := by
  induction hu generalizing v w with
  | scalar hu =>
      have hmark := (hu.equal_iff hv).mp h
      have hmark' := ((hu.of_mark hv hmark).equal_iff hw).mp h'
      exact (hu.equal_iff hw).mpr (hmark.trans hmark')
  | @list xs hxs ih =>
      obtain ⟨ys, rfl, hys, hsame⟩ := equal_list_cases hxs hv h
      obtain ⟨zs, rfl, hzs, hsame'⟩ := equal_list_cases hys hw h'
      exact (equal_list_iff (fun x hx => (hxs x hx).isCompared) zs).mpr
        (hsame.trans hsame' fun x hx y hy z hz => ih x hx (hys y hy) (hzs z hz))
  | map hkeys hes ih =>
      obtain ⟨fs, rfl, hkeys', hfs, hsame⟩ := equal_map_cases hkeys hes hv h
      obtain ⟨gs, rfl, hkeys'', hgs, hsame'⟩ := equal_map_cases hkeys' hfs hw h'
      exact (equal_map_iff hkeys hkeys'' (isCompared_of_regular hes)).mpr
        (hsame.trans hsame' fun e he f hf g hg => ih e he (hfs f hf) (hgs g hg))
  | context hkeys hes ih =>
      obtain ⟨fs, rfl, hkeys', hfs, hsame⟩ := equal_context_cases hkeys hes hv h
      obtain ⟨gs, rfl, hkeys'', hgs, hsame'⟩ := equal_context_cases hkeys' hfs hw h'
      exact (equal_context_iff hkeys hkeys'' (isCompared_of_regular hes)).mpr
        (hsame.trans hsame' fun e he f hf g hg => ih e he (hfs f hf) (hgs g hg))

/-- Regular values have the same answer as others if both are equal, or neither are. -/
lemma IsRegular.equal_congr {v' w' : Value} (hv : IsRegular v) (hw : IsRegular w)
    (hv' : IsRegular v') (hw' : IsRegular w')
    (h : equal v w = .ok true ↔ equal v' w' = .ok true) : equal v w = equal v' w' := by
  obtain ⟨answer, hanswer⟩ := hv.exists_equal hw
  obtain ⟨answer', hanswer'⟩ := hv'.exists_equal hw'
  rw [hanswer, hanswer', Except.ok.injEq, Except.ok.injEq] at h
  rw [hanswer, hanswer', Bool.eq_iff_iff.mpr h]

/-- It does not matter in which order two values are asked whether they are equal. -/
lemma IsRegular.equal_comm (hv : IsRegular v) (hw : IsRegular w) : equal v w = equal w v :=
  hv.equal_congr hw hw hv ⟨hv.equal_symm hw, hw.equal_symm hv⟩

/-! ## The order of entries -/

/-- Values that differ in the order of the entries of mappings and contexts at most, at any depth. -/
inductive Rearranged : Value → Value → Prop where
  | same (v : Value) : Rearranged v v
  | list {xs ys : List Value} : xs.length = ys.length →
      (∀ pair ∈ xs.zip ys, Rearranged pair.1 pair.2) → Rearranged (.list xs) (.list ys)
  /-- The entries in another order, and then other values in the place of theirs. -/
  | map {es gs fs : List (Value × Value)} : es.Perm gs → gs.map (·.1) = fs.map (·.1) →
      (∀ pair ∈ gs.zip fs, Rearranged pair.1.2 pair.2.2) → Rearranged (.map es) (.map fs)
  | context {es gs fs : List (Value × Value)} : es.Perm gs → gs.map (·.1) = fs.map (·.1) →
      (∀ pair ∈ gs.zip fs, Rearranged pair.1.2 pair.2.2) → Rearranged (.context es) (.context fs)

lemma HasKeys.of_marks (h : ∀ entry ∈ es, IsScalar entry.1)
    (hnodup : (es.map fun entry => entry.1.mark?).Nodup) : HasKeys es := by
  refine ⟨h, ?_⟩
  rw [List.Nodup, List.pairwise_map] at hnodup
  refine hnodup.imp_of_mem fun {e f} he hf hmark => ?_
  rw [← Bool.not_eq_true, sameKey_iff (h e he) (h f hf)]
  exact hmark

lemma HasKeys.of_perm (h : HasKeys es) (hperm : es.Perm gs) : HasKeys gs := by
  refine .of_marks (fun e he => h.scalar e (hperm.mem_iff.mpr he)) ?_
  exact (hperm.map _).nodup_iff.mp h.nodup_marks

lemma HasKeys.of_keys (h : HasKeys gs) (hkeys : gs.map (·.1) = fs.map (·.1)) : HasKeys fs := by
  have hmarks : (fs.map fun f => f.1.mark?) = gs.map fun g => g.1.mark? := by
    have hmap := congrArg (List.map mark?) hkeys.symm
    rw [List.map_map, List.map_map] at hmap
    exact hmap
  refine .of_marks (fun f hf => ?_) (hmarks ▸ h.nodup_marks)
  obtain ⟨g, hg, hgf⟩ := List.mem_map.mp (hkeys ▸ List.mem_map.mpr ⟨f, hf, rfl⟩)
  exact hgf ▸ h.scalar g hg

/-- Of rows of one length, everything that stands in one of them stands beside something in the other. -/
lemma exists_mem_zip_left {α β : Type} {xs : List α} {ys : List β} (hlength : xs.length = ys.length) {x : α}
    (hx : x ∈ xs) : ∃ y, (x, y) ∈ xs.zip ys := by
  obtain ⟨i, hi, rfl⟩ := List.mem_iff_getElem.mp hx
  have hi' : i < ys.length := hlength ▸ hi
  refine ⟨ys[i], List.mem_iff_getElem.mpr ⟨i, by simp [hi, hi'], ?_⟩⟩
  rw [List.getElem_zip]

lemma exists_mem_zip_right {α β : Type} {xs : List α} {ys : List β} (hlength : xs.length = ys.length) {y : β}
    (hy : y ∈ ys) : ∃ x, (x, y) ∈ xs.zip ys := by
  obtain ⟨i, hi, rfl⟩ := List.mem_iff_getElem.mp hy
  have hi' : i < xs.length := hlength ▸ hi
  refine ⟨xs[i], List.mem_iff_getElem.mpr ⟨i, by simp [hi, hi'], ?_⟩⟩
  rw [List.getElem_zip]

lemma key_eq_of_mem_zip (hkeys : gs.map (·.1) = fs.map (·.1)) {g f : Value × Value}
    (h : (g, f) ∈ gs.zip fs) : g.1 = f.1 := by
  obtain ⟨i, hi, hpair⟩ := List.mem_iff_getElem.mp h
  rw [List.getElem_zip, Prod.mk.injEq] at hpair
  obtain ⟨rfl, rfl⟩ := hpair
  have hlookup := congrArg (·[i]?) hkeys
  simp only [List.length_zip, lt_inf_iff] at hi
  simpa [hi.1, hi.2] using hlookup

/-- Regular entries in another order, with equal values in the place of theirs, are the same entries, and
regular again. -/
lemma sameEntries_of_perm (hes : HasKeys es) (hvalues : ∀ e ∈ es, IsRegular e.2)
    (hperm : es.Perm gs) (hkeys : gs.map (·.1) = fs.map (·.1))
    (h : ∀ pair ∈ gs.zip fs, IsRegular pair.1.2 →
      IsRegular pair.2.2 ∧ equal pair.1.2 pair.2.2 = .ok true) :
    HasKeys fs ∧ (∀ f ∈ fs, IsRegular f.2) ∧ SameEntries es fs := by
  have hlength : gs.length = fs.length := by simpa using congrArg List.length hkeys
  have hpairs : ∀ pair ∈ gs.zip fs, IsRegular pair.2.2 ∧ equal pair.1.2 pair.2.2 = .ok true := by
    intro pair hpair
    exact h pair hpair (hvalues _ (hperm.mem_iff.mpr (List.of_mem_zip hpair).1))
  refine ⟨(hes.of_perm hperm).of_keys hkeys, fun f hf => ?_, hperm.length_eq.trans hlength,
    fun e he => ?_⟩
  · obtain ⟨g, hmem⟩ := exists_mem_zip_right hlength hf
    exact (hpairs _ hmem).1
  · obtain ⟨f, hmem⟩ := exists_mem_zip_left hlength (hperm.mem_iff.mp he)
    exact ⟨f, (List.of_mem_zip hmem).2, by rw [key_eq_of_mem_zip hkeys hmem], (hpairs _ hmem).2⟩

/-- The order of entries does not matter: a value equals what it is rearranged into, which is regular too. -/
theorem Rearranged.equal (h : Rearranged v w) (hv : IsRegular v) :
    IsRegular w ∧ v.equal w = .ok true := by
  induction h with
  | same v => exact ⟨hv, hv.equal_refl⟩
  | @list xs ys hlength _ ih =>
      cases hv with
      | scalar hv => cases hv
      | list hxs =>
          have hpairs : ∀ pair ∈ xs.zip ys, IsRegular pair.2 ∧ pair.1.equal pair.2 = .ok true :=
            fun pair hpair => ih pair hpair (hxs _ (List.of_mem_zip hpair).1)
          refine ⟨.list fun y hy => ?_, (equal_list_iff (fun x hx => (hxs x hx).isCompared) ys).mpr
            ⟨hlength, fun i hx hy => ?_⟩⟩
          · obtain ⟨x, hmem⟩ := exists_mem_zip_right hlength hy
            exact (hpairs _ hmem).1
          · have hmem : (xs[i], ys[i]) ∈ xs.zip ys :=
              List.mem_iff_getElem.mpr ⟨i, by simp [hx, hy], by rw [List.getElem_zip]⟩
            exact (hpairs _ hmem).2
  | map hperm hkeys _ ih =>
      cases hv with
      | scalar hv => cases hv
      | map hes hvalues =>
          obtain ⟨hfs, hregular, hsame⟩ := sameEntries_of_perm hes hvalues hperm hkeys ih
          exact ⟨.map hfs hregular, (equal_map_iff hes hfs (isCompared_of_regular hvalues)).mpr hsame⟩
  | context hperm hkeys _ ih =>
      cases hv with
      | scalar hv => cases hv
      | context hes hvalues =>
          obtain ⟨hfs, hregular, hsame⟩ := sameEntries_of_perm hes hvalues hperm hkeys ih
          exact ⟨.context hfs hregular, (equal_context_iff hes hfs (isCompared_of_regular hvalues)).mpr hsame⟩

/-- What is rearranged keeps its kind. -/
lemma Rearranged.kind_eq (h : Rearranged v w) : v.kind = w.kind := by
  cases h <;> rfl

/-- Rearranged values have the same answer. -/
lemma Rearranged.equal_eq {v' w' : Value} (hv : IsRegular v) (hw : IsRegular w)
    (h : Rearranged v v') (h' : Rearranged w w') : v'.equal w' = v.equal w := by
  obtain ⟨hv', hequal⟩ := h.equal hv
  obtain ⟨hw', hequal'⟩ := h'.equal hw
  refine hv'.equal_congr hw' hv hw ⟨fun hsame => ?_, fun hsame => ?_⟩
  · have hleft := hv.equal_trans hv' hw' hequal hsame
    exact hv.equal_trans hw' hw hleft (hw.equal_symm hw' hequal')
  · have hleft := hv'.equal_trans hv hw (hv.equal_symm hv' hequal) hsame
    exact hv'.equal_trans hw hw' hleft hequal'

end Value

end FeatureToggles
