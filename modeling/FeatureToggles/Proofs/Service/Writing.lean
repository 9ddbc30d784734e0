import FeatureToggles.Service
import Mathlib.Tactic.Common

/-!
# Which replies can be written

A reply with JSON is written unless it holds a number that is not finite, or a text with half of a pair.
Where the text stands does not matter: it may be the name of a field.  What is written besides texts is
ASCII, and no half is hidden by an escape, so the halves of what is written are those of the texts.

Main statements: `Json.mem_write_iff`, and from it `Reply.isWritable_json_iff`.
-/

namespace FeatureToggles

/-- Whether a text holds no half of a pair. -/
def Text.IsWhole (s : String) : Prop := ∀ c ∈ s.toList, isHalf c = false

instance (s : String) : Decidable (Text.IsWhole s) :=
  decidable_of_iff (s.toList.all fun c => !Text.isHalf c) (by simp [Text.IsWhole])

lemma Text.IsWhole.append {s t : String} (hs : IsWhole s) (ht : IsWhole t) : IsWhole (s ++ t) := by
  intro c hc
  rw [String.toList_append, List.mem_append] at hc
  exact hc.elim (hs c) (ht c)

open Text (isHalf IsWhole)

/-! ## Numbers -/

variable {c : Char}

lemma Text.isHalf_of_lt (h : c.toNat < 0x80) : isHalf c = false := by
  simp only [isHalf, Bool.and_eq_false_iff, decide_eq_false_iff_not]
  omega

lemma Text.isHalf_of_all (cs : List Char) (h : cs.all (fun d => !isHalf d) = true) (hc : c ∈ cs) :
    isHalf c = false := by
  simpa using List.all_eq_true.mp h c hc

lemma Text.isHalf_of_isDigit (h : c.isDigit = true) : isHalf c = false := by
  refine isHalf_of_lt ?_
  simp only [Char.isDigit, Bool.and_eq_true, decide_eq_true_eq] at h
  have hle : c.toNat ≤ 57 := h.2
  omega

lemma Text.isHalf_of_mem_toDigits {n : Nat} (h : c ∈ Nat.toDigits 10 n) : isHalf c = false :=
  isHalf_of_isDigit (Nat.isDigit_of_mem_toDigits (by decide) (by decide) h)

lemma Text.isHalf_of_mem_toString {i : Int} (h : c ∈ (toString i).toList) : isHalf c = false := by
  cases i with
  | ofNat n => exact isHalf_of_mem_toDigits (by simpa [toString, Int.repr, Nat.repr] using h)
  | negSucc n =>
      have hsign : c = '-' ∨ c ∈ Nat.toDigits 10 (n + 1) := by
        simpa [toString, Int.repr, Nat.repr] using h
      rcases hsign with rfl | hdigit
      · decide
      · exact isHalf_of_mem_toDigits hdigit

namespace Binary64

lemma isHalf_of_mem_paddedDigits {width n : Nat} (h : c ∈ paddedDigits width n) : isHalf c = false := by
  simp only [paddedDigits, List.mem_append, List.mem_replicate] at h
  rcases h with ⟨-, rfl⟩ | hdigit
  · decide
  · exact Text.isHalf_of_mem_toDigits hdigit

/-- Digits that are laid out have signs, zeros, a point and an exponent put among them. -/
lemma isHalf_of_mem_layOut {layout : Layout} {ds : List Char} {lead : Int}
    (hds : ∀ d ∈ ds, isHalf d = false) (h : c ∈ layOut layout ds lead) : isHalf c = false := by
  have htake : ∀ n, c ∈ ds.take n → isHalf c = false := fun n hc => hds c (List.mem_of_mem_take hc)
  have hdrop : ∀ n, c ∈ ds.drop n → isHalf c = false := fun n hc => hds c (List.mem_of_mem_drop hc)
  unfold layOut at h
  split at h
  · split at h
    · simp only [List.cons_append, List.mem_cons, List.mem_append, List.mem_replicate] at h
      rcases h with rfl | rfl | ⟨-, rfl⟩ | hc
      · decide
      · decide
      · decide
      · exact hds c hc
    · simp only [List.mem_append, List.mem_cons, List.mem_replicate] at h
      rcases h with (hc | ⟨-, rfl⟩) | rfl | hc
      · exact htake _ hc
      · decide
      · decide
      · split_ifs at hc
        · obtain rfl := List.mem_singleton.mp hc
          decide
        · exact hdrop _ hc
  · have hsign : isHalf (if lead < 0 then '-' else '+') = false := by split_ifs <;> decide
    simp only [List.mem_append, List.mem_cons] at h
    rcases h with (hc | hc) | rfl | rfl | hc
    · exact htake _ hc
    · split_ifs at hc
      · simp at hc
      · rcases List.mem_cons.mp hc with rfl | hc
        · decide
        · exact hdrop _ hc
    · decide
    · exact hsign
    · exact isHalf_of_mem_paddedDigits hc

lemma isHalf_of_mem_toText {x : Binary64} (h : c ∈ x.toText.toList) : isHalf c = false := by
  cases x with
  | finite negative m e =>
      have hbody : ∀ body : List Char, (∀ d ∈ body, isHalf d = false) →
          c ∈ (if negative then '-' :: body else body) → isHalf c = false := by
        intro body hbody hc
        split_ifs at hc
        · rcases List.mem_cons.mp hc with rfl | hc
          · decide
          · exact hbody c hc
        · exact hbody c hc
      rw [toText, String.toList_ofList] at h
      refine hbody _ (fun d hd => ?_) h
      split_ifs at hd
      · simp only [List.mem_cons, List.not_mem_nil, or_false] at hd
        rcases hd with rfl | rfl | rfl <;> decide
      · refine isHalf_of_mem_layOut (fun d hd => ?_) hd
        have hdigit := (List.dropWhile_sublist _).mem (List.mem_reverse.mp hd)
        exact Text.isHalf_of_mem_toDigits (List.mem_reverse.mp hdigit)
  | infinite negative =>
      cases negative
      · exact Text.isHalf_of_all "inf".toList (by decide) h
      · exact Text.isHalf_of_all "-inf".toList (by decide) h
  | nan _ => exact Text.isHalf_of_all "nan".toList (by decide) h

end Binary64

/-! ## Texts inside JSON -/

namespace Json

/-- Whether a text stands in a value: as a string, or as the name of a field. -/
inductive HasText : Json → String → Prop where
  | str (s : String) : HasText (.str s) s
  | item {items : List Json} {j : Json} {s : String} : j ∈ items → HasText j s → HasText (.arr items) s
  | key {fields : Fields} {key : String} {j : Json} : (key, j) ∈ fields → HasText (.obj fields) key
  | field {fields : Fields} {key : String} {j : Json} {s : String} :
      (key, j) ∈ fields → HasText j s → HasText (.obj fields) s

/-- What stands for a character that is no half holds no half. -/
lemma isHalf_of_mem_escapeChar {d : Char} (hd : isHalf d = false) (h : c ∈ escapeChar d) :
    isHalf c = false := by
  have hhex : ∀ n < 0x20, (Text.hex 4 n).toList.all fun d => !isHalf d := by decide
  unfold escapeChar at h
  split_ifs at h with _ _ _ _ _ _ _ hcontrol
  -- escapes by a letter are left to the end
  rotate_left 7
  · refine Text.isHalf_of_all (['\\', 'u'] ++ (Text.hex 4 d.toNat).toList) ?_ h
    rw [List.all_append, hhex _ hcontrol, Bool.and_true]
    decide
  · obtain rfl := List.mem_singleton.mp h
    exact hd
  all_goals exact Text.isHalf_of_all _ (by decide) h

/-- A half stands for itself. -/
lemma escapeChar_of_isHalf (h : isHalf c = true) : escapeChar c = [c] := by
  have hne : ∀ d, isHalf d = false → c ≠ d := by
    rintro d hd rfl
    rw [hd] at h
    cases h
  have hpoint : 0x20 ≤ c.toNat := by
    by_contra hlt
    exact hne c (Text.isHalf_of_lt (by omega)) rfl
  exact escapeChar_plain (hne '"' (by decide)) (hne '\\' (by decide)) hpoint

/-- The halves of what is written are those of the text. -/
lemma mem_writeString_iff (hc : isHalf c = true) {s : String} : c ∈ writeString s ↔ c ∈ s.toList := by
  have hquote : c ≠ '"' := by
    rintro rfl
    exact absurd hc (by decide)
  simp only [writeString, List.mem_append, List.mem_cons, hquote, List.not_mem_nil, or_false,
    false_or, List.mem_flatMap]
  constructor
  · rintro ⟨d, hd, hmem⟩
    cases hhalf : isHalf d with
    | true => 
        rw [escapeChar_of_isHalf hhalf] at hmem
        exact List.mem_singleton.mp hmem ▸ hd
    | false => simp [isHalf_of_mem_escapeChar hhalf hmem] at hc
  · intro hmem
    exact ⟨c, hmem, by simp [escapeChar_of_isHalf hc]⟩

lemma isHalf_of_mem_writeFloat {x : Binary64} (h : c ∈ writeFloat x) : isHalf c = false := by
  cases x with
  | finite => exact Binary64.isHalf_of_mem_toText h
  | infinite negative =>
      cases negative
      · exact Text.isHalf_of_all "Infinity".toList (by decide) h
      · exact Text.isHalf_of_all "-Infinity".toList (by decide) h
  | nan => exact Text.isHalf_of_all "NaN".toList (by decide) h

mutual

/-- The halves of what is written are those of the texts that stand in the value. -/
theorem mem_write_iff (hc : isHalf c = true) : ∀ j : Json,
    c ∈ j.write ↔ ∃ s, j.HasText s ∧ c ∈ s.toList
  | .null => by
      refine iff_of_false (fun h => ?_) (by rintro ⟨s, ⟨⟩, -⟩)
      simp [Text.isHalf_of_all _ (by decide) h] at hc
  | .bool b => by
      refine iff_of_false (fun h => ?_) (by rintro ⟨s, ⟨⟩, -⟩)
      cases b <;> simp [Text.isHalf_of_all _ (by decide) h] at hc
  | .int i => by
      refine iff_of_false (fun h => ?_) (by rintro ⟨s, ⟨⟩, -⟩)
      simp [Text.isHalf_of_mem_toString h] at hc
  | .float x => by
      refine iff_of_false (fun h => ?_) (by rintro ⟨s, ⟨⟩, -⟩)
      simp [isHalf_of_mem_writeFloat h] at hc
  | .str s => by
      rw [write, mem_writeString_iff hc]
      refine ⟨fun h => ⟨s, .str s, h⟩, ?_⟩
      rintro ⟨s, ⟨⟩, h⟩
      exact h
  | .arr items => by
      have hbracket : c ≠ '[' := by
        rintro rfl
        exact absurd hc (by decide)
      rw [write, List.mem_cons, or_iff_right hbracket, mem_writeItems_iff hc items]
      constructor
      · rintro ⟨j, hj, s, hs, h⟩
        exact ⟨s, .item hj hs, h⟩
      · rintro ⟨s, hs | ⟨hj, hs⟩, h⟩
        exact ⟨_, hj, s, hs, h⟩
  | .obj fields => by
      have hbrace : c ≠ '\x7b' := by
        rintro rfl
        exact absurd hc (by decide)
      rw [write, List.mem_cons, or_iff_right hbrace, mem_writeFields_iff hc fields]
      constructor
      · rintro ⟨⟨key, j⟩, hfield, hkey | ⟨s, hs, h⟩⟩
        · exact ⟨key, .key hfield, hkey⟩
        · exact ⟨s, .field hfield hs, h⟩
      · rintro ⟨s, hs, h⟩
        cases hs with
        | key hfield => exact ⟨_, hfield, .inl h⟩
        | field hfield hs => exact ⟨_, hfield, .inr ⟨s, hs, h⟩⟩

theorem mem_writeItems_iff (hc : isHalf c = true) : ∀ items : List Json,
    c ∈ writeItems items ↔ ∃ j ∈ items, ∃ s, j.HasText s ∧ c ∈ s.toList
  | [] => by
      refine iff_of_false (fun h => ?_) (by simp)
      simp [Text.isHalf_of_all _ (by decide) h] at hc
  | [j] => by
      have hbracket : c ≠ ']' := by
        rintro rfl
        exact absurd hc (by decide)
      simp only [writeItems, List.mem_append, List.mem_singleton, hbracket, or_false,
        mem_write_iff hc j, exists_eq_left]
  | j :: j' :: items => by
      have hcomma : c ≠ ',' := by
        rintro rfl
        exact absurd hc (by decide)
      have hwritten : writeItems (j :: j' :: items) = j.write ++ ',' :: writeItems (j' :: items) := rfl
      rw [hwritten, List.mem_append, List.mem_cons, or_iff_right hcomma, mem_write_iff hc j,
        mem_writeItems_iff hc (j' :: items)]
      simp only [List.mem_cons, exists_eq_or_imp]

theorem mem_writeFields_iff (hc : isHalf c = true) : ∀ fields : Fields,
    c ∈ writeFields fields ↔
      ∃ field ∈ fields, c ∈ field.1.toList ∨ ∃ s, field.2.HasText s ∧ c ∈ s.toList
  | [] => by
      refine iff_of_false (fun h => ?_) (by simp)
      simp [Text.isHalf_of_all _ (by decide) h] at hc
  | [(key, j)] => by
      have hsigns : c ≠ ':' ∧ c ≠ '\x7d' := by
        constructor <;> (rintro rfl; exact absurd hc (by decide))
      simp only [writeFields, List.mem_append, List.mem_cons, List.not_mem_nil, hsigns, or_false,
        false_or, mem_writeString_iff hc, mem_write_iff hc j, exists_eq_left]
  | (key, j) :: field :: fields => by
      have hsigns : c ≠ ':' ∧ c ≠ ',' := by
        constructor <;> (rintro rfl; exact absurd hc (by decide))
      have hwritten : writeFields ((key, j) :: field :: fields) =
          writeString key ++ ':' :: j.write ++ ',' :: writeFields (field :: fields) := rfl
      rw [hwritten, List.mem_append, List.mem_append, List.mem_cons, List.mem_cons,
        or_iff_right hsigns.1, or_iff_right hsigns.2, mem_writeString_iff hc, mem_write_iff hc j,
        mem_writeFields_iff hc (field :: fields)]
      simp only [List.mem_cons, exists_eq_or_imp]

end

/-! ## Values that can be sent -/

/-- Whether all numbers in a value are finite, and all texts in it are whole. -/
def IsSendable (j : Json) : Prop := j.isFinite = true ∧ ∀ s, j.HasText s → IsWhole s

lemma areFinite_iff {items : List Json} : areFinite items = true ↔ ∀ j ∈ items, j.isFinite = true := by
  induction items with
  | nil => simp [areFinite]
  | cons j items ih => simp [areFinite, ih]

lemma areFiniteFields_iff {fields : Fields} :
    areFiniteFields fields = true ↔ ∀ field ∈ fields, field.2.isFinite = true := by
  induction fields with
  | nil => simp [areFiniteFields]
  | cons field fields ih => simp [areFiniteFields, ih]

@[simp] lemma isSendable_null : IsSendable .null := ⟨rfl, by rintro s ⟨⟩⟩

@[simp] lemma isSendable_bool (b : Bool) : IsSendable (.bool b) := ⟨rfl, by rintro s ⟨⟩⟩

@[simp] lemma isSendable_int (i : Int) : IsSendable (.int i) := ⟨rfl, by rintro s ⟨⟩⟩

@[simp] lemma isSendable_str_iff {s : String} : IsSendable (.str s) ↔ IsWhole s := by
  refine ⟨fun h => h.2 s (.str s), fun h => ⟨rfl, ?_⟩⟩
  rintro s' ⟨⟩
  exact h

@[simp] lemma isSendable_arr_iff {items : List Json} :
    IsSendable (.arr items) ↔ ∀ j ∈ items, IsSendable j := by
  simp only [IsSendable, isFinite, areFinite_iff]
  constructor
  · rintro ⟨hfinite, hwhole⟩ j hj
    exact ⟨hfinite j hj, fun s hs => hwhole s (.item hj hs)⟩
  · intro h
    refine ⟨fun j hj => (h j hj).1, fun s hs => ?_⟩
    cases hs with
    | item hj hs => exact (h _ hj).2 s hs

@[simp] lemma isSendable_obj_iff {fields : Fields} :
    IsSendable (.obj fields) ↔ ∀ field ∈ fields, IsWhole field.1 ∧ IsSendable field.2 := by
  simp only [IsSendable, isFinite, areFiniteFields_iff]
  constructor
  · rintro ⟨hfinite, hwhole⟩ ⟨key, j⟩ hfield
    exact ⟨hwhole key (.key hfield), hfinite _ hfield, fun s hs => hwhole s (.field hfield hs)⟩
  · intro h
    refine ⟨fun field hfield => (h field hfield).2.1, fun s hs => ?_⟩
    cases hs with
    | key hfield => exact (h _ hfield).1
    | field hfield hs => exact (h _ hfield).2.2 s hs

end Json

namespace Reply

/-- A reply with JSON is written exactly if all numbers in it are finite and all texts in it are whole. -/
theorem isWritable_json_iff {status : Nat} {j : Json} :
    (json status j).isWritable = true ↔ j.IsSendable := by
  have hwhole : Text.Encoding.unwritable? j.write = none ↔ ∀ s, j.HasText s → IsWhole s := by
    rw [Text.Encoding.unwritable?_eq_none_iff]
    constructor
    · intro h s hs c hmem
      cases hc : isHalf c with
      | false => rfl
      | true => exact hc ▸ h c ((Json.mem_write_iff hc j).mpr ⟨s, hs, hmem⟩)
    · intro h c hmem
      cases hc : isHalf c with
      | false => rfl
      | true =>
          obtain ⟨s, hs, hmem⟩ := (Json.mem_write_iff hc j).mp hmem
          exact hc ▸ h s hs c hmem
  rw [isWritable, json, Body.flaw?, Json.IsSendable]
  split_ifs with hfinite
  · simp [hfinite, hwhole]
  · simp [hfinite]

/-- A report is written exactly if its code, its text and its details can be. -/
lemma isWritable_ofReport_iff {report : Failure.Report} : (ofReport none report).isWritable = true ↔
    IsWhole report.code ∧ IsWhole report.message ∧ (Json.obj report.details).IsSendable := by
  have hkeys : ∀ key ∈ ["trace_id", "code", "message", "details"], IsWhole key := by decide
  have hreport := @isWritable_json_iff report.status (reportBody none report)
  simp only [List.forall_mem_cons, List.not_mem_nil, false_imp_iff, implies_true, and_true] at hkeys
  rw [json] at hreport
  rw [ofReport, hreport, reportBody, Json.isSendable_obj_iff]
  simp only [List.forall_mem_cons, List.not_mem_nil, false_imp_iff, implies_true, and_true, hkeys,
    true_and, Json.isSendable_str_iff, Option.map_none, Option.getD_none, Json.isSendable_null]

end Reply

/-! ## Features -/

/-- The texts of a feature. -/
def Feature.texts (f : Feature) : List String := f.name :: f.dependsOn ++ f.rules.map (·.condition)

lemma Feature.isSendable_toJson_iff {f : Feature} :
    f.toJson.IsSendable ↔ ∀ s ∈ f.texts, IsWhole s := by
  have hkeys : ∀ key ∈ ["name", "enabled", "default_enabled", "depends_on", "rules", "condition",
      "disabled"], IsWhole key := by decide
  simp only [List.forall_mem_cons, List.not_mem_nil, false_imp_iff, implies_true, and_true] at hkeys
  simp [toJson, Rule.toJson, texts, hkeys, or_imp, forall_and]

end FeatureToggles
