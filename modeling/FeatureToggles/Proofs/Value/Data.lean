import FeatureToggles.Context
import FeatureToggles.Json.Value
import Mathlib.Tactic.Common

/-!
# Data

Data are null, booleans, integers, binary numbers and texts, and whatever is made of them by lists and by
mappings with texts as keys, to any depth.  They are what a JSON document can stand for.  Values of other
sorts may fail when they are compared, negated, or asked for their members; data never do.

Main statements: `IsData.exists_equal`, `IsData.members?_eq` and `exists_attributes_of_json`.
-/

namespace FeatureToggles

/-! ## Numbers of the binary and the integer sort -/

namespace Number

variable {a b : Number}

lemma isSignaling_of_isDecimal_eq_false (h : a.isDecimal = false) : a.isSignaling = false := by
  cases a with
  | int | float => rfl
  | decimal => simp [isDecimal] at h

lemma exists_equal (ha : a.isDecimal = false) (hb : b.isDecimal = false) :
    ∃ answer, a.equal b = .ok answer := by
  unfold equal
  rw [isSignaling_of_isDecimal_eq_false ha, isSignaling_of_isDecimal_eq_false hb]
  cases a.extent? <;> cases b.extent? <;> exact ⟨_, rfl⟩

lemma exists_ordered (test : Ordering → Bool) (ha : a.isDecimal = false)
    (hb : b.isDecimal = false) : ∃ answer, ordered test a b = .ok answer := by
  unfold ordered
  rw [ha, hb]
  cases a.extent? <;> cases b.extent? <;> exact ⟨_, rfl⟩

lemma exists_neg (ha : a.isDecimal = false) : ∃ n, a.neg = .ok n ∧ n.isDecimal = false := by
  cases a with
  | int i => exact ⟨.int (-i), rfl, rfl⟩
  | float x => exact ⟨.float x.neg, rfl, rfl⟩
  | decimal => simp [isDecimal] at ha

end Number

namespace Value

/-- Whether a value is made of null, booleans, integers, binary numbers and texts by lists and by mappings
with texts as keys. -/
inductive IsData : Value → Prop where
  | null : IsData .null
  | bool (b : Bool) : IsData (.bool b)
  /-- An integer or a binary number; the latter may be an infinity or not a number. -/
  | number {n : Number} : n.isDecimal = false → IsData (.number n)
  | text (s : String) : IsData (.text s)
  | list {items : List Value} : (∀ v ∈ items, IsData v) → IsData (.list items)
  | map {entries : List (Value × Value)} :
      (∀ entry ∈ entries, ∃ s, entry.1 = .text s) → (∀ entry ∈ entries, IsData entry.2) →
      IsData (.map entries)

/-! ## Equality -/

lemma exists_equalNumbers {a b : Number} (ha : a.isDecimal = false) (hb : b.isDecimal = false) :
    ∃ answer, equalNumbers a b = .ok answer := by
  obtain ⟨answer, hanswer⟩ := Number.exists_equal ha hb
  exact ⟨answer, by rw [equalNumbers, hanswer, Except.mapError]⟩

/-- Rows of values can be compared if the values can. -/
lemma exists_equalItems {P : Value → Prop} {xs ys : List Value}
    (h : ∀ x ∈ xs, ∀ w, P w → ∃ answer, equal x w = .ok answer) (hys : ∀ y ∈ ys, P y) :
    ∃ answer, equalItems xs ys = .ok answer := by
  induction xs generalizing ys with
  | nil => exact ⟨true, by rw [equalItems]⟩
  | cons x xs ih =>
      cases ys with
      | nil => exact ⟨false, by rw [equalItems]⟩
      | cons y ys =>
          obtain ⟨answer, hanswer⟩ := h x (by simp) y (hys y (by simp))
          have hrest : ∃ answer, equalItems xs ys = .ok answer :=
            ih (fun x' hx' => h x' (by simp [hx'])) fun y' hy' => hys y' (by simp [hy'])
          rw [equalItems, hanswer]
          split
          · exact hrest
          · cases answer with
            | false => exact ⟨false, rfl⟩
            | true => exact hrest

lemma of_lookup {P : Value → Prop} {entries : List (Value × Value)}
    (h : ∀ entry ∈ entries, P entry.2) {key v : Value} (hv : lookup entries key = some v) : P v := by
  obtain ⟨entry, hfind, rfl⟩ := Option.map_eq_some_iff.mp hv
  exact h entry (List.mem_of_find?_eq_some hfind)

lemma exists_equalEntries {P : Value → Prop} {es fs : List (Value × Value)}
    (h : ∀ entry ∈ es, ∀ w, P w → ∃ answer, equal entry.2 w = .ok answer)
    (hfs : ∀ entry ∈ fs, P entry.2) : ∃ answer, equalEntries es fs = .ok answer := by
  induction es with
  | nil => exact ⟨true, by rw [equalEntries]⟩
  | cons entry es ih =>
      obtain ⟨key, v⟩ := entry
      rw [equalEntries]
      cases hlookup : lookup fs key with
      | none => exact ⟨false, rfl⟩
      | some w =>
          obtain ⟨answer, hanswer⟩ := h (key, v) (by simp) w (of_lookup hfs hlookup)
          have hrest : ∃ answer, equalEntries es fs = .ok answer :=
            ih fun entry' hentry' => h entry' (by simp [hentry'])
          simp only [hanswer]
          split
          · exact hrest
          · cases answer with
            | false => exact ⟨false, rfl⟩
            | true => exact hrest

/-- Data can be asked whether they are equal, however deep they are nested. -/
theorem IsData.exists_equal {v w : Value} (hv : IsData v) (hw : IsData w) :
    ∃ answer, equal v w = .ok answer := by
  induction hv generalizing w with
  | null => exact ⟨_, equal_null w⟩
  | bool b =>
      cases hw with
      | number hn => exact exists_equalNumbers rfl hn
      | _ => exact ⟨_, rfl⟩
  | @number n hn =>
      cases hw with
      | bool b => exact exists_equalNumbers hn rfl
      | number hn' => exact exists_equalNumbers hn hn'
      | _ => exact ⟨_, rfl⟩
  | text s => cases hw <;> exact ⟨_, rfl⟩
  | @list xs _ ih =>
      cases hw with
      | @list ys hys =>
          rw [equal]
          split_ifs
          · exact exists_equalItems (fun x hx w hw => ih x hx hw) hys
          · exact ⟨false, rfl⟩
      | _ => exact ⟨_, rfl⟩
  | @map es _ _ ih =>
      cases hw with
      | @map fs _ hfs =>
          rw [equal]
          split_ifs
          · exact exists_equalEntries (fun entry hentry w hw => ih entry hentry hw) hfs
          · exact ⟨false, rfl⟩
      | _ => exact ⟨_, rfl⟩

/-! ## Members -/

/-- Among data only mappings have members. -/
lemma IsData.members?_eq {v : Value} (h : IsData v) :
    (v.members? = .ok none) ∨
      ∃ entries, v.members? = .ok (some entries) ∧ ∀ entry ∈ entries, IsData entry.2 := by
  cases h with
  | @map entries _ hentries => exact .inr ⟨entries, rfl, hentries⟩
  | _ => exact .inl rfl

/-! ## JSON -/

mutual

/-- What a JSON value stands for is data. -/
theorem isData_toValue : ∀ j : Json, IsData j.toValue
  | .null => .null
  | .bool b => .bool b
  | .int _ => .number rfl
  | .float _ => .number rfl
  | .str s => .text s
  | .arr items => .list (isData_toValues items)
  | .obj fields => .map (fun entry h => (isData_toEntries fields entry h).1)
      fun entry h => (isData_toEntries fields entry h).2

theorem isData_toValues : ∀ items : List Json, ∀ v ∈ Json.toValues items, IsData v
  | [], v, h => by simp [Json.toValues] at h
  | j :: items, v, h => by
      rcases List.mem_cons.mp h with rfl | h
      · exact isData_toValue j
      · exact isData_toValues items v h

theorem isData_toEntries : ∀ fields : List (String × Json), ∀ entry ∈ Json.toEntries fields,
    (∃ s, entry.1 = .text s) ∧ IsData entry.2
  | [], entry, h => by simp [Json.toEntries] at h
  | (key, j) :: fields, entry, h => by
      rcases List.mem_cons.mp h with rfl | h
      · exact ⟨⟨key, rfl⟩, isData_toValue j⟩
      · exact isData_toEntries fields entry h

end

end Value

/-! ## Contexts -/

namespace Context

open Value (IsData)

lemma attributesOfRows_entries {es : List (Value × Value)}
    (hkeys : ∀ entry ∈ es, ∃ s, entry.1 = .text s) (hes : ∀ entry ∈ es, IsData entry.2) :
    ∃ attributes, attributesOfRows (es.map fun entry => [entry.1, entry.2]) = .ok attributes ∧
      ∀ a ∈ attributes, IsData a.2 := by
  induction es with
  | nil => exact ⟨[], rfl, by simp⟩
  | cons entry es ih =>
      obtain ⟨key, v⟩ := entry
      obtain ⟨s, rfl⟩ := hkeys (key, v) (by simp)
      obtain ⟨attributes, hattributes, hdata⟩ :=
        ih (fun e he => hkeys e (by simp [he])) fun e he => hes e (by simp [he])
      refine ⟨(s, v) :: attributes, ?_, ?_⟩
      · simp only [List.map_cons, attributesOfRows, Value.toText, hattributes, Except.map]
      · exact List.forall_mem_cons.mpr ⟨hes (.text s, v) (by simp), hdata⟩

/-- The object that a JSON document holds is a context over data, all of whose attributes are listed. -/
theorem exists_attributes_of_json (fields : Json.Fields) :
    ∃ c attributes, ofValue (Json.obj fields).toValue = .ok (some c) ∧
      c.attributes = .ok attributes ∧ ∀ a ∈ attributes, IsData a.2 := by
  have hdata := Value.isData_toEntries fields
  obtain ⟨attributes, hattributes, hvalues⟩ :=
    attributesOfRows_entries (fun e he => (hdata e he).1) fun e he => (hdata e he).2
  refine ⟨.entries (Json.toEntries fields), attributes, rfl, ?_, hvalues⟩
  simp only [Context.attributes, rows, failure?, hattributes]

end Context

end FeatureToggles
