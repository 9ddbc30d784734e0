import FeatureToggles.Value.Render
import Mathlib.Tactic.Common

/-!
# Values without a text

A value has no text if it is an integer with too many digits or an object that raises an error instead of
telling one, and a container has none if one of its parts has none, at whatever depth.  These are the only
reasons, and the error with which the writing ends is that of such a part.

Main statements: `exists_error_toQuoted_iff` about values inside containers, and `exists_error_toText_iff`.
-/

namespace FeatureToggles.Value

/-- What a container holds: the items of a list, or the keys and the values of its entries. -/
def parts : Value → List Value
  | .list items => items
  | .map entries => entries.flatMap fun entry => [entry.1, entry.2]
  | .context entries => entries.flatMap fun entry => [entry.1, entry.2]
  | _ => []

/-- Whether a value has no text because of an error of it or of one of its parts. -/
inductive Lacks : Value → Error → Prop where
  | integer {i : Int} :
      Nat.pow 10 digitLimit ≤ i.natAbs → Lacks (.number (.int i)) .oversizedInteger
  | provider {self : Object} {fault : Fault} (rows : List (List Value)) (failure : Option Fault) :
      self.text = .error fault → Lacks (.provider self rows failure) (.raised fault)
  | foreign {self : Object} {fault : Fault} (failure : Option Fault) :
      self.text = .error fault → Lacks (.foreign self failure) (.raised fault)
  | part {v p : Value} {e : Error} : p ∈ v.parts → Lacks p e → Lacks v e

/-- Whether a value has no text. -/
def Unwritable (v : Value) : Prop := ∃ e, v.Lacks e

lemma map_eq_error_iff {α β : Type} {f : α → β} {x : Except Error α} {e : Error} :
    x.map f = .error e ↔ x = .error e := by
  cases x <;> simp [Except.map]

lemma objectText_eq_error_iff {self : Object} {e : Error} :
    objectText self = .error e ↔ ∃ fault, self.text = .error fault ∧ e = .raised fault := by
  unfold objectText
  cases self.text <;> simp [Except.mapError, eq_comm]

/-! ## What is not written has no text -/

mutual

lemma lacks_of_toQuoted : ∀ v : Value, ∀ e, v.toQuoted = .error e → Lacks v e
  | .null | .bool _ | .text _ | .number (.float _) | .number (.decimal _) => by
      intro e h
      simp [toQuoted] at h
  | .number (.int i) => by
      intro e h
      rw [toQuoted, intText] at h
      split_ifs at h with hi
      obtain rfl := Except.error.inj h
      exact .integer hi
  | .provider self rows failure => by
      intro e h
      rw [toQuoted, objectText_eq_error_iff] at h
      obtain ⟨fault, htext, rfl⟩ := h
      exact .provider rows failure htext
  | .foreign self failure => by
      intro e h
      rw [toQuoted, objectText_eq_error_iff] at h
      obtain ⟨fault, htext, rfl⟩ := h
      exact .foreign failure htext
  | .list items => by
      intro e h
      rw [toQuoted, map_eq_error_iff] at h
      obtain ⟨v, hv, hlacks⟩ := exists_lacks_of_quotedItems items e h
      exact .part (v := .list items) hv hlacks
  | .map entries => by
      intro e h
      rw [toQuoted, map_eq_error_iff] at h
      obtain ⟨v, hv, hlacks⟩ := exists_lacks_of_quotedEntries entries e h
      exact .part (v := .map entries) hv hlacks
  | .context entries => by
      intro e h
      rw [toQuoted, map_eq_error_iff] at h
      obtain ⟨v, hv, hlacks⟩ := exists_lacks_of_quotedEntries entries e h
      exact .part (v := .context entries) hv hlacks

lemma exists_lacks_of_quotedItems : ∀ items : List Value, ∀ e,
    quotedItems items = .error e → ∃ v ∈ items, Lacks v e
  | [] => by
      intro e h
      simp [quotedItems] at h
  | v :: items => by
      intro e h
      rw [quotedItems] at h
      cases hv : v.toQuoted with
      | error e' =>
          obtain rfl : e' = e := by simpa [hv] using h
          exact ⟨v, by simp, lacks_of_toQuoted v e' hv⟩
      | ok text =>
          simp only [hv, map_eq_error_iff] at h
          obtain ⟨w, hw, hlacks⟩ := exists_lacks_of_quotedItems items e h
          exact ⟨w, List.mem_cons_of_mem v hw, hlacks⟩

lemma exists_lacks_of_quotedEntries : ∀ entries : List (Value × Value), ∀ e,
    quotedEntries entries = .error e →
      ∃ v ∈ entries.flatMap fun entry => [entry.1, entry.2], Lacks v e
  | [] => by
      intro e h
      simp [quotedEntries] at h
  | (key, v) :: entries => by
      intro e h
      rw [quotedEntries] at h
      cases hkey : key.toQuoted with
      | error e' =>
          obtain rfl : e' = e := by simpa [hkey] using h
          exact ⟨key, by simp, lacks_of_toQuoted key e' hkey⟩
      | ok keyText =>
          cases hv : v.toQuoted with
          | error e' =>
              obtain rfl : e' = e := by simpa [hkey, hv] using h
              exact ⟨v, by simp, lacks_of_toQuoted v e' hv⟩
          | ok text =>
              simp only [hkey, hv, map_eq_error_iff] at h
              obtain ⟨w, hw, hlacks⟩ := exists_lacks_of_quotedEntries entries e h
              refine ⟨w, ?_, hlacks⟩
              rw [List.flatMap_cons]
              exact List.mem_append_right _ hw

end

/-! ## What has no text is not written -/

/-- One item that fails is enough for the row to fail. -/
lemma exists_error_quotedItems {items : List Value} {v : Value} (hv : v ∈ items)
    (h : ∃ e, v.toQuoted = .error e) : ∃ e, quotedItems items = .error e := by
  induction items with
  | nil => simp at hv
  | cons w items ih =>
      rw [quotedItems]
      cases hw : w.toQuoted with
      | error e => exact ⟨e, rfl⟩
      | ok text =>
          simp only [map_eq_error_iff]
          rcases List.mem_cons.mp hv with rfl | hv
          · obtain ⟨e, he⟩ := h
            simp [he] at hw
          · exact ih hv

/-- One key or value that fails is enough for the entries to fail. -/
lemma exists_error_quotedEntries {entries : List (Value × Value)} {v : Value}
    (hv : v ∈ entries.flatMap fun entry => [entry.1, entry.2]) (h : ∃ e, v.toQuoted = .error e) :
    ∃ e, quotedEntries entries = .error e := by
  induction entries with
  | nil => simp at hv
  | cons entry entries ih =>
      obtain ⟨key, w⟩ := entry
      obtain ⟨e, he⟩ := h
      rw [quotedEntries]
      cases hkey : key.toQuoted with
      | error e' => exact ⟨e', rfl⟩
      | ok keyText =>
          cases hw : w.toQuoted with
          | error e' => exact ⟨e', rfl⟩
          | ok text =>
              simp only [map_eq_error_iff]
              rw [List.flatMap_cons, List.mem_append] at hv
              rcases hv with hv | hv
              · obtain rfl | rfl : v = key ∨ v = w := by simpa using hv
                · simp [he] at hkey
                · simp [he] at hw
              · exact ih hv

/-- Inside a container exactly the values without a text cannot be written. -/
theorem exists_error_toQuoted_iff (v : Value) : (∃ e, v.toQuoted = .error e) ↔ Unwritable v := by
  constructor
  · rintro ⟨e, h⟩
    exact ⟨e, lacks_of_toQuoted v e h⟩
  · rintro ⟨e, h⟩
    induction h with
    | @integer i hi => exact ⟨.oversizedInteger, by rw [toQuoted, intText, if_pos hi]⟩
    | provider _ _ htext | foreign _ htext =>
        exact ⟨_, by rw [toQuoted, objectText_eq_error_iff]; exact ⟨_, htext, rfl⟩⟩
    | @part v p e hp _ ih =>
        cases v with
        | list items =>
            have hitems : p ∈ items := hp
            obtain ⟨e, he⟩ := exists_error_quotedItems hitems ih
            exact ⟨e, by rw [toQuoted, he, Except.map]⟩
        | map entries =>
            obtain ⟨e, he⟩ := exists_error_quotedEntries hp ih
            exact ⟨e, by rw [toQuoted, he, Except.map]⟩
        | context entries =>
            obtain ⟨e, he⟩ := exists_error_quotedEntries hp ih
            exact ⟨e, by rw [toQuoted, he, Except.map]⟩
        | _ => simp [parts] at hp

lemma Lacks.ne_text_and_decimal {v : Value} {e : Error} (h : Lacks v e) :
    (∀ s, v ≠ .text s) ∧ ∀ d, v ≠ .number (.decimal d) := by
  cases h with
  | integer | provider | foreign => simp
  | part hp => constructor <;> rintro _ rfl <;> simp [parts] at hp

lemma lacks_of_toText {v : Value} {e : Error} (h : v.toText = .error e) : Lacks v e := by
  refine lacks_of_toQuoted v e ?_
  rwa [toText_eq_toQuoted] at h
  · rintro s rfl
    simp [toText] at h
  · rintro d rfl
    simp [toText] at h

/-- Exactly the values without a text cannot be written on their own. -/
theorem exists_error_toText_iff (v : Value) : (∃ e, v.toText = .error e) ↔ Unwritable v := by
  constructor
  · rintro ⟨e, h⟩
    exact ⟨e, lacks_of_toText h⟩
  · rintro ⟨e, h⟩
    obtain ⟨htext, hdecimal⟩ := h.ne_text_and_decimal
    rw [toText_eq_toQuoted htext hdecimal]
    exact (exists_error_toQuoted_iff v).mpr ⟨e, h⟩

end FeatureToggles.Value
