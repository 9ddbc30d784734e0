import FeatureToggles.Json.Printer
import FeatureToggles.Proofs.Json.Grammar
import Mathlib.Tactic.IntervalCases

/-!
# What is written as JSON is read again

The text of a value is JSON, and it is read as the value itself: no character of a string gets lost by
its escape, the parts of a text do not run into each other, and every part begins without white space.
Numbers are left out here; and of the fields of an object none may replace another.

Main statements: `Plain.derives_write`, and `ofChars_write` for whole documents.
-/

namespace FeatureToggles

namespace Json

/-- Values without numbers, in which no object has a key twice. -/
inductive Plain : Json → Prop where
  | null : Plain .null
  | bool (b : Bool) : Plain (.bool b)
  | str (s : String) : Plain (.str s)
  | arr {items : List Json} : (∀ j ∈ items, Plain j) → Plain (.arr items)
  | obj {fields : Fields} :
      (fields.map (·.1)).Nodup → (∀ field ∈ fields, Plain field.2) → Plain (.obj fields)

/-! ## Strings -/

/-- A control character is written by a number of four digits, which is its own. -/
lemma hex_control {n : Nat} (h : n < 0x20) :
    ∃ a b c d, (Text.hex 4 n).toList = [a, b, c, d] ∧ hexUnit? a b c d = some n := by
  interval_cases n <;> exact ⟨_, _, _, _, rfl, by decide⟩

lemma ofUnit_toNat {c : Char} (h : c.toNat < 0x20) : ofUnit c.toNat = c := by
  have hhalf : ¬ Text.isHalfUnit c.toNat = true := by
    simp only [Text.isHalfUnit, Bool.and_eq_true, decide_eq_true_eq]
    omega
  rw [ofUnit, if_neg hhalf, Char.ofNat_toNat]

/-- A character is read from its escape. -/
lemma Quoted.escapeChar {cs text rest : List Char} (h : Quoted cs text rest) (c : Char) :
    Quoted (escapeChar c ++ cs) (c :: text) rest := by
  unfold Json.escapeChar
  split_ifs with hquote hbackslash hn hr ht hb hf hcontrol
  · exact .letter (by decide) (by rw [hquote]; rfl) h
  · exact .letter (by decide) (by rw [hbackslash]; rfl) h
  · exact .letter (by decide) (by rw [hn]; rfl) h
  · exact .letter (by decide) (by rw [hr]; rfl) h
  · exact .letter (by decide) (by rw [ht]; rfl) h
  · exact .letter (by decide) (by rw [hb]; rfl) h
  · exact .letter (by decide) (by rw [hf]; rfl) h
  · obtain ⟨a, b, d, e, hhex, hunit⟩ := hex_control hcontrol
    have hhigh : ¬ IsHigh c.toNat := fun hhigh => by
      have := hhigh.1
      omega
    have hquoted := Quoted.unit hunit (fun h => absurd h hhigh) h
    rw [hhex]
    rwa [ofUnit_toNat hcontrol] at hquoted
  · exact .plain hquote hbackslash (Nat.le_of_not_lt hcontrol) h

/-- A string is read from what is written between its quotes. -/
lemma quoted_write (text rest : List Char) :
    Quoted (text.flatMap escapeChar ++ '"' :: rest) text rest := by
  induction text with
  | nil => exact .closing rest
  | cons c text ih =>
      rw [List.flatMap_cons, List.append_assoc]
      exact ih.escapeChar c

lemma writeString_append (s : String) (rest : List Char) :
    writeString s ++ rest = '"' :: (s.toList.flatMap escapeChar ++ '"' :: rest) := by
  simp [writeString]

/-! ## Objects -/

lemma Fields.set_of_not_mem {fields : Fields} {key : String} (h : key ∉ fields.map (·.1))
    (j : Json) : fields.set key j = fields ++ [(key, j)] := by
  induction fields with
  | nil => rfl
  | cons field fields ih =>
      rw [List.map_cons, List.mem_cons, not_or] at h
      have hkey : (field.1 == key) = false := by simpa using Ne.symm h.1
      rw [set, hkey, ih h.2]
      rfl

/-- Fields with different keys stay as they are listed. -/
lemma Fields.ofList_of_nodup {fields : Fields} (h : (fields.map (·.1)).Nodup) :
    Fields.ofList fields = fields := by
  -- the fields that are listed before the others are there already
  have hlisted : ∀ (before after : Fields), ((before ++ after).map (·.1)).Nodup →
      after.foldl (fun acc field => Fields.set acc field.1 field.2) before = before ++ after := by
    intro before after hnodup
    induction after generalizing before with
    | nil => simp
    | cons field after ih =>
        have hfresh : field.1 ∉ before.map (·.1) := by
          rw [List.map_append, List.nodup_append] at hnodup
          exact fun hmem => hnodup.2.2 _ hmem _ (by simp) rfl
        rw [List.foldl_cons, set_of_not_mem hfresh, ih _ (by simpa using hnodup)]
        simp
  exact hlisted [] fields (by simpa using h)

/-! ## Values -/

lemma Derives.skipSpace_eq {cs rest : List Char} {part : Part} (h : Derives cs part rest) :
    skipSpace cs = cs := by
  obtain ⟨c, tail, rfl, hc⟩ := h.exists_start
  have hspace : isSpace c = false := by
    by_contra hspace
    simp only [isSpace, Bool.not_eq_false, Bool.or_eq_true, beq_iff_eq] at hspace
    rcases hspace with ((rfl | rfl) | rfl) | rfl <;> simp [isStart, Char.isDigit] at hc
  rw [skipSpace, List.dropWhile_cons, hspace]
  rfl

lemma taken_readScalar_word {word : List Char} {j : Json} (h : (word, j) ∈ wordValues)
    (rest : List Char) : taken (readScalar (word ++ rest)) = some (j, rest) := by
  simp only [wordValues, List.mem_cons, Prod.mk.injEq, List.not_mem_nil, or_false] at h
  rcases h with ⟨rfl, rfl⟩ | ⟨rfl, rfl⟩ | ⟨rfl, rfl⟩ | ⟨rfl, rfl⟩ | ⟨rfl, rfl⟩ | ⟨rfl, rfl⟩ <;>
    simp [taken_readScalar, wordValues]

/-- A word is read as its value, whatever follows it. -/
lemma derives_word {word : List Char} {j : Json} (h : (word, j) ∈ wordValues) (rest : List Char) :
    Derives (word ++ rest) (.value j) rest := by
  have hread := taken_readScalar_word h rest
  have hall : wordValues.all (fun word => word.1.head?.any fun c => c ≠ '"' ∧ c ≠ '[' ∧ c ≠ '\x7b') =
      true := by decide
  have hstart := List.all_eq_true.mp hall _ h
  cases word with
  | nil => simp at hstart
  | cons c word =>
      simp only [List.head?_cons, Option.any_some, decide_eq_true_eq] at hstart
      exact .scalar hstart.1 hstart.2.1 hstart.2.2 hread

lemma writeItems_append_singleton (j : Json) (rest : List Char) :
    writeItems [j] ++ rest = write j ++ ']' :: rest := by
  simp [writeItems]

lemma writeItems_append_cons (j j' : Json) (items : List Json) (rest : List Char) :
    writeItems (j :: j' :: items) ++ rest = write j ++ ',' :: (writeItems (j' :: items) ++ rest) := by
  simp [writeItems]

lemma writeFields_append_singleton (key : String) (j : Json) (rest : List Char) :
    writeFields [(key, j)] ++ rest =
      '"' :: (key.toList.flatMap escapeChar ++ '"' :: ':' :: (write j ++ '\x7d' :: rest)) := by
  simp [writeFields, writeString]

lemma writeFields_append_cons (key : String) (j : Json) (field : String × Json) (fields : Fields)
    (rest : List Char) :
    writeFields ((key, j) :: field :: fields) ++ rest =
      '"' :: (key.toList.flatMap escapeChar ++
        '"' :: ':' :: (write j ++ ',' :: (writeFields (field :: fields) ++ rest))) := by
  simp [writeFields, writeString]

/-- Items are read from what is written, if each of them is. -/
lemma derives_writeItems {items : List Json} (hne : items ≠ [])
    (h : ∀ j ∈ items, ∀ rest, Derives (write j ++ rest) (.value j) rest) (rest : List Char) :
    Derives (writeItems items ++ rest) (.items items) rest := by
  induction items with
  | nil => exact absurd rfl hne
  | cons j items ih =>
      have hj := h j (by simp)
      cases items with
      | nil =>
          rw [writeItems_append_singleton]
          exact .lastItem (hj _) rfl
      | cons j' items =>
          have hitems := ih (by simp) fun j hj => h j (by simp [hj])
          rw [writeItems_append_cons]
          refine .item (hj _) rfl ?_
          rwa [hitems.skipSpace_eq]

/-- Fields are read from what is written, if their values are. -/
lemma derives_writeFields {fields : Fields} (hne : fields ≠ [])
    (h : ∀ field ∈ fields, ∀ rest, Derives (write field.2 ++ rest) (.value field.2) rest)
    (rest : List Char) : Derives (writeFields fields ++ rest) (.fields fields) rest := by
  induction fields with
  | nil => exact absurd rfl hne
  | cons field fields ih =>
      obtain ⟨key, j⟩ := field
      obtain ⟨text, rfl⟩ : ∃ text, key = String.ofList text := ⟨key.toList, String.ofList_toList.symm⟩
      have hj : ∀ rest, Derives (skipSpace (write j ++ rest)) (.value j) rest := fun rest => by
        have hread := h _ List.mem_cons_self rest
        rwa [hread.skipSpace_eq]
      cases fields with
      | nil =>
          rw [writeFields_append_singleton, String.toList_ofList]
          exact .lastField (quoted_write text _) rfl (hj _) rfl
      | cons field fields =>
          have hfields := ih (by simp) fun field hfield => h field (by simp [hfield])
          rw [writeFields_append_cons, String.toList_ofList]
          refine .field (quoted_write text _) rfl (hj _) rfl ?_
          rwa [hfields.skipSpace_eq]

/-- What is written is read again, whatever follows it. -/
theorem Plain.derives_write {j : Json} (h : Plain j) (rest : List Char) :
    Derives (write j ++ rest) (.value j) rest := by
  induction h generalizing rest with
  | null => exact derives_word (.head _) rest
  | bool b =>
      cases b with
      | true => exact derives_word (.tail _ (.head _)) rest
      | false => exact derives_word (.tail _ (.tail _ (.head _))) rest
  | str s =>
      rw [write, writeString_append]
      have hstring := Derives.string (quoted_write s.toList rest)
      rwa [String.ofList_toList] at hstring
  | @arr items _ ih =>
      rw [write, List.cons_append]
      by_cases hitems : items = []
      · rw [hitems]
        exact .emptyArray rfl
      · have hread := derives_writeItems hitems ih rest
        refine .array ?_
        rwa [hread.skipSpace_eq]
  | @obj fields hnodup _ ih =>
      rw [write, List.cons_append]
      by_cases hfields : fields = []
      · rw [hfields]
        exact .emptyObject rfl
      · have hread := derives_writeFields hfields ih rest
        have hobject : Derives ('\x7b' :: (writeFields fields ++ rest))
            (.value (.obj (Fields.ofList fields))) rest := .object (by rwa [hread.skipSpace_eq])
        rwa [Fields.ofList_of_nodup hnodup] at hobject

/-- The text of a value is a document of it. -/
theorem ofChars_write {j : Json} (h : Plain j) : ofChars (write j) = .ok j := by
  have hread := h.derives_write []
  rw [List.append_nil] at hread
  rw [ofChars_eq_ok_iff, readDocument_eq_ok_iff]
  exact ⟨hread.head?_ne rfl, [], by rwa [hread.skipSpace_eq], rfl⟩

end Json

end FeatureToggles
