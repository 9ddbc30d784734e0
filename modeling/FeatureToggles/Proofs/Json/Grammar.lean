import FeatureToggles.Proofs.Json.Scalar

/-!
# The grammar of JSON

What begins a text as JSON is told by rules (`Derives`), one for each kind of value and for each way in
which items and fields go on.  The rules have neither the bounds that only the ending of the reader
needs, nor its errors, so that what holds of everything that is read is proved by an induction on
derivations.

Main statements: the derivations are the reader (`derives_iff`), also for whole documents
(`readDocument_eq_ok_iff`).
-/

namespace FeatureToggles

namespace Json

/-- What the reader looks for: a value, the items of an array up to its closing bracket, or the fields of
an object up to its closing brace. -/
inductive Part where
  | value (j : Json)
  | items (js : List Json)
  | fields (fs : List (String × Json))

/-- What begins a text, and what follows it.  White space is passed where it may stand, but not in
front of a part. -/
inductive Derives : List Char → Part → List Char → Prop where
  | string {cs text rest : List Char} :
      Quoted cs text rest → Derives ('"' :: cs) (.value (.str (String.ofList text))) rest
  | emptyArray {cs rest : List Char} :
      skipSpace cs = ']' :: rest → Derives ('[' :: cs) (.value (.arr [])) rest
  | array {cs rest : List Char} {js : List Json} :
      Derives (skipSpace cs) (.items js) rest → Derives ('[' :: cs) (.value (.arr js)) rest
  | emptyObject {cs rest : List Char} :
      skipSpace cs = '\x7d' :: rest → Derives ('\x7b' :: cs) (.value (.obj [])) rest
  | object {cs rest : List Char} {fs : List (String × Json)} :
      Derives (skipSpace cs) (.fields fs) rest →
      Derives ('\x7b' :: cs) (.value (.obj (Fields.ofList fs))) rest
  | scalar {c : Char} {cs rest : List Char} {j : Json} :
      c ≠ '"' → c ≠ '[' → c ≠ '\x7b' → taken (readScalar (c :: cs)) = some (j, rest) →
      Derives (c :: cs) (.value j) rest
  | lastItem {cs rest rest' : List Char} {j : Json} :
      Derives cs (.value j) rest → skipSpace rest = ']' :: rest' → Derives cs (.items [j]) rest'
  | item {cs rest rest' rest'' : List Char} {j : Json} {js : List Json} :
      Derives cs (.value j) rest → skipSpace rest = ',' :: rest' →
      Derives (skipSpace rest') (.items js) rest'' → Derives cs (.items (j :: js)) rest''
  | lastField {cs key rest rest₁ rest₂ rest₃ : List Char} {j : Json} :
      Quoted cs key rest → skipSpace rest = ':' :: rest₁ →
      Derives (skipSpace rest₁) (.value j) rest₂ → skipSpace rest₂ = '\x7d' :: rest₃ →
      Derives ('"' :: cs) (.fields [(String.ofList key, j)]) rest₃
  | field {cs key rest rest₁ rest₂ rest₃ rest₄ : List Char} {j : Json} {fs : List (String × Json)} :
      Quoted cs key rest → skipSpace rest = ':' :: rest₁ →
      Derives (skipSpace rest₁) (.value j) rest₂ → skipSpace rest₂ = ',' :: rest₃ →
      Derives (skipSpace rest₃) (.fields fs) rest₄ →
      Derives ('"' :: cs) (.fields ((String.ofList key, j) :: fs)) rest₄

lemma taken_readValue_nil : taken (readValue []) = none := by
  rw [readValue]
  rfl

lemma taken_readValue_string (cs : List Char) :
    taken (readValue ('"' :: cs)) =
      (taken (readString (cs.length + 1) cs)).map fun r => (.str (String.ofList r.1), r.2) := by
  rw [readValue.eq_def]
  simp only [↓reduceIte]
  cases readString (cs.length + 1) cs <;> rfl

lemma taken_readValue_emptyArray {cs rest : List Char} (h : skipSpace cs = ']' :: rest) :
    taken (readValue ('[' :: cs)) = some (.arr [], rest) := by
  rw [readValue.eq_def]
  simp only [↓reduceIte, Char.reduceEq]
  split
  · rename_i rest' h'
    obtain rfl : rest = rest' := by simpa [h] using h'
    rfl
  · rename_i hne
    exact absurd h (hne rest)

lemma taken_readValue_array {cs : List Char} (h : ∀ rest, skipSpace cs ≠ ']' :: rest) :
    taken (readValue ('[' :: cs)) =
      (taken (readItems (skipSpace cs))).map fun r => (.arr r.1, r.2) := by
  rw [readValue.eq_def]
  simp only [↓reduceIte, Char.reduceEq]
  cases readItems (skipSpace cs) <;> rfl

lemma taken_readValue_emptyObject {cs rest : List Char} (h : skipSpace cs = '\x7d' :: rest) :
    taken (readValue ('\x7b' :: cs)) = some (.obj [], rest) := by
  rw [readValue.eq_def]
  simp only [↓reduceIte, Char.reduceEq]
  split
  · rename_i rest' h'
    obtain rfl : rest = rest' := by simpa [h] using h'
    rfl
  · rename_i hne
    exact absurd h (hne rest)

lemma taken_readValue_object {cs : List Char} (h : ∀ rest, skipSpace cs ≠ '\x7d' :: rest) :
    taken (readValue ('\x7b' :: cs)) =
      (taken (readFields (skipSpace cs))).map fun r => (.obj (Fields.ofList r.1), r.2) := by
  rw [readValue.eq_def]
  simp only [↓reduceIte, Char.reduceEq]
  cases readFields (skipSpace cs) <;> rfl

lemma taken_readValue_scalar {c : Char} (cs : List Char) (hstring : c ≠ '"') (harray : c ≠ '[')
    (hobject : c ≠ '\x7b') : taken (readValue (c :: cs)) = taken (readScalar (c :: cs)) := by
  rw [readValue.eq_def]
  simp only [hstring, harray, hobject, ↓reduceIte]

/-- What comes of an item that was read: it is the last one, or others follow. -/
def nextItems (j : Json) (rest : List Char) : Option (List Json × List Char) :=
  match skipSpace rest with
  | ']' :: rest => some ([j], rest)
  | ',' :: rest => (taken (readItems (skipSpace rest))).map fun r => (j :: r.1, r.2)
  | _ => none

lemma taken_readItems (cs : List Char) :
    taken (readItems cs) = (taken (readValue cs)).bind fun r => nextItems r.1 r.2 := by
  rw [readItems.eq_def]
  cases readValue cs with
  | error e => rfl
  | ok r =>
      obtain ⟨j, rest, h⟩ := r
      rw [taken_ok, Option.bind_some, nextItems]
      simp only
      split
      · rename_i hrest
        rw [hrest]
        rfl
      · rename_i d rest' hrest
        simp only [hrest]
        split_ifs with hclosing hcomma
        · simp only [hclosing]
          rfl
        · simp only [hcomma]
          cases readItems (skipSpace rest') <;> rfl
        · split <;> simp_all [taken]

/-- What comes of a field that was read: it is the last one, or others follow. -/
def nextFields (f : String × Json) (rest : List Char) :
    Option (List (String × Json) × List Char) :=
  match skipSpace rest with
  | '\x7d' :: rest => some ([f], rest)
  | ',' :: rest => (taken (readFields (skipSpace rest))).map fun r => (f :: r.1, r.2)
  | _ => none

/-- What comes of a key that was read: a value follows it. -/
def nextValue (key : String) (rest : List Char) : Option (List (String × Json) × List Char) :=
  match skipSpace rest with
  | ':' :: rest => (taken (readValue (skipSpace rest))).bind fun r => nextFields (key, r.1) r.2
  | _ => none

lemma taken_readFields_of_ne {cs : List Char} (h : cs.head? ≠ some '"') :
    taken (readFields cs) = none := by
  rw [readFields.eq_def]
  cases cs with
  | nil => rfl
  | cons c cs =>
      have hc : c ≠ '"' := by simpa using h
      simp only [hc, ne_eq, not_false_eq_true, ↓reduceIte]
      rfl

lemma taken_readFields (cs : List Char) :
    taken (readFields ('"' :: cs)) =
      (taken (readString (cs.length + 1) cs)).bind fun r => nextValue (String.ofList r.1) r.2 := by
  rw [readFields.eq_def]
  simp only [ne_eq, not_true_eq_false, ↓reduceIte]
  cases readString (cs.length + 1) cs with
  | error e => rfl
  | ok r =>
      obtain ⟨key, rest, h⟩ := r
      rw [taken_ok, Option.bind_some, nextValue]
      simp only
      split
      · rename_i hrest
        rw [hrest]
        rfl
      · rename_i d rest' hrest
        simp only [hrest]
        split_ifs with hcolon
        · simp only [hcolon]
          cases readValue (skipSpace rest') with
          | error e => rfl
          | ok r =>
              obtain ⟨j, rest₂, h₂⟩ := r
              rw [taken_ok, Option.bind_some, nextFields]
              simp only
              split
              · rename_i hrest₂
                rw [hrest₂]
                rfl
              · rename_i d rest₃ hrest₂
                simp only [hrest₂]
                split_ifs with hclosing hcomma
                · simp only [hclosing]
                  rfl
                · simp only [hcomma]
                  cases readFields (skipSpace rest₃) <;> rfl
                · split <;> simp_all [taken]
        · split <;> simp_all [taken]

/-- Whether a part is read at the beginning of a text, and what is left. -/
def Reads (cs : List Char) (part : Part) (rest : List Char) : Prop :=
  match part with
  | .value j => taken (readValue cs) = some (j, rest)
  | .items js => taken (readItems cs) = some (js, rest)
  | .fields fs => taken (readFields cs) = some (fs, rest)

/-! ## Beginnings -/

/-- Every part begins with a character with which a value may begin. -/
lemma Derives.exists_start {cs rest : List Char} {part : Part} (h : Derives cs part rest) :
    ∃ c tail, cs = c :: tail ∧ isStart c = true := by
  induction h with
  | string | emptyArray | array | emptyObject | object | lastField | field => exact ⟨_, _, rfl, rfl⟩
  | scalar _ _ _ hread => exact ⟨_, _, rfl, isStart_of_taken_readScalar hread⟩
  | lastItem _ _ ih => exact ih
  | item _ _ _ ih => exact ih

/-- No part begins with anything else. -/
lemma Derives.head?_ne {cs rest : List Char} {part : Part} {c : Char} (h : Derives cs part rest)
    (hc : isStart c = false) : cs.head? ≠ some c := by
  obtain ⟨d, tail, rfl, hd⟩ := h.exists_start
  rintro hhead
  obtain rfl := Option.some.inj hhead
  simp [hc] at hd

/-! ## Rests -/

lemma skipSpace_suffix (cs : List Char) : skipSpace cs <:+ cs := List.dropWhile_suffix isSpace

lemma suffix_of_skipSpace {cs rest : List Char} {c : Char} (h : skipSpace cs = c :: rest) :
    rest <:+ cs :=
  (List.suffix_cons c rest).trans (h ▸ skipSpace_suffix cs)

/-- What follows a part stands at the end of the text. -/
lemma Derives.suffix {cs rest : List Char} {part : Part} (h : Derives cs part rest) :
    rest <:+ cs := by
  induction h with
  | string hquoted => exact hquoted.suffix.trans (List.suffix_cons _ _)
  | emptyArray hclosing | emptyObject hclosing =>
      exact (suffix_of_skipSpace hclosing).trans (List.suffix_cons _ _)
  | array _ ih | object _ ih => exact (ih.trans (skipSpace_suffix _)).trans (List.suffix_cons _ _)
  | scalar _ _ _ hread => exact suffix_of_taken_readScalar hread
  | lastItem _ hclosing ih => exact (suffix_of_skipSpace hclosing).trans ih
  | item _ hcomma _ ih ihitems =>
      exact (ihitems.trans (skipSpace_suffix _)).trans ((suffix_of_skipSpace hcomma).trans ih)
  | lastField hkey hcolon _ hclosing ih =>
      have hrest₁ := ((suffix_of_skipSpace hclosing).trans ih).trans (skipSpace_suffix _)
      refine List.IsSuffix.trans ?_ (List.suffix_cons _ _)
      exact hrest₁.trans ((suffix_of_skipSpace hcolon).trans hkey.suffix)
  | field hkey hcolon _ hcomma _ ih ihfields =>
      have hrest₂ := (ihfields.trans (skipSpace_suffix _)).trans (suffix_of_skipSpace hcomma)
      have hrest₁ := (hrest₂.trans ih).trans (skipSpace_suffix _)
      refine List.IsSuffix.trans ?_ (List.suffix_cons _ _)
      exact hrest₁.trans ((suffix_of_skipSpace hcolon).trans hkey.suffix)

/-! ## What is read is derived -/

section

variable {cs rest : List Char}

/-- A value is derived, if the parts of shorter texts are. -/
lemma derives_of_readValue {j : Json}
    (ih : ∀ tail part rest, tail.length < cs.length → Reads tail part rest →
      Derives tail part rest)
    (h : taken (readValue cs) = some (j, rest)) : Derives cs (.value j) rest := by
  match cs with
  | [] => simp [taken_readValue_nil] at h
  | c :: cs =>
      have hspace : (skipSpace cs).length < (c :: cs).length :=
        Nat.lt_succ_of_le (length_skipSpace_le cs)
      by_cases hstring : c = '"'
      · subst hstring
        rw [taken_readValue_string] at h
        simp only [Option.map_eq_some_iff, Prod.mk.injEq, Prod.exists] at h
        obtain ⟨text, rest, hread, rfl, rfl⟩ := h
        exact .string (quoted_of_taken hread)
      by_cases harray : c = '['
      · subst harray
        by_cases hempty : ∃ rest, skipSpace cs = ']' :: rest
        · obtain ⟨rest', hrest⟩ := hempty
          rw [taken_readValue_emptyArray hrest] at h
          simp only [Option.some.injEq, Prod.mk.injEq] at h
          obtain ⟨rfl, rfl⟩ := h
          exact .emptyArray hrest
        · rw [taken_readValue_array (not_exists.mp hempty)] at h
          simp only [Option.map_eq_some_iff, Prod.mk.injEq, Prod.exists] at h
          obtain ⟨js, rest, hread, rfl, rfl⟩ := h
          exact .array (ih _ (.items js) _ hspace hread)
      by_cases hobject : c = '\x7b'
      · subst hobject
        by_cases hempty : ∃ rest, skipSpace cs = '\x7d' :: rest
        · obtain ⟨rest', hrest⟩ := hempty
          rw [taken_readValue_emptyObject hrest] at h
          simp only [Option.some.injEq, Prod.mk.injEq] at h
          obtain ⟨rfl, rfl⟩ := h
          exact .emptyObject hrest
        · rw [taken_readValue_object (not_exists.mp hempty)] at h
          simp only [Option.map_eq_some_iff, Prod.mk.injEq, Prod.exists] at h
          obtain ⟨fs, rest, hread, rfl, rfl⟩ := h
          exact .object (ih _ (.fields fs) _ hspace hread)
      · rw [taken_readValue_scalar cs hstring harray hobject] at h
        exact .scalar hstring harray hobject h

/-- Items are derived, if the parts of shorter texts are. -/
lemma derives_of_readItems {js : List Json}
    (ih : ∀ tail part rest, tail.length < cs.length → Reads tail part rest →
      Derives tail part rest)
    (h : taken (readItems cs) = some (js, rest)) : Derives cs (.items js) rest := by
  rw [taken_readItems] at h
  simp only [Option.bind_eq_some_iff, Prod.exists] at h
  obtain ⟨j, rest', hread, h⟩ := h
  have hvalue := derives_of_readValue ih hread
  have hshort : rest'.length < cs.length := of_taken hread
  have hspace := length_skipSpace_le rest'
  unfold nextItems at h
  split at h
  · rename_i rest'' hrest
    simp only [Option.some.injEq, Prod.mk.injEq] at h
    obtain ⟨rfl, rfl⟩ := h
    exact .lastItem hvalue hrest
  · rename_i rest'' hrest
    simp only [Option.map_eq_some_iff, Prod.mk.injEq, Prod.exists] at h
    obtain ⟨js, rest, hread, rfl, rfl⟩ := h
    have hspace' := length_skipSpace_le rest''
    refine .item hvalue hrest (ih _ (.items js) _ ?_ hread)
    simp only [hrest, List.length_cons] at hspace
    omega
  · simp at h

/-- Fields are derived, if the parts of shorter texts are. -/
lemma derives_of_readFields {fs : List (String × Json)}
    (ih : ∀ tail part rest, tail.length < cs.length → Reads tail part rest →
      Derives tail part rest)
    (h : taken (readFields cs) = some (fs, rest)) : Derives cs (.fields fs) rest := by
  match cs with
  | [] =>
      rw [taken_readFields_of_ne (by simp)] at h
      simp at h
  | c :: cs =>
      by_cases hquote : c = '"'
      · subst hquote
        rw [taken_readFields] at h
        simp only [Option.bind_eq_some_iff, Prod.exists] at h
        obtain ⟨key, rest₀, hkey, h⟩ := h
        have hshort : rest₀.length < cs.length := of_taken hkey
        have hspace := length_skipSpace_le rest₀
        unfold nextValue at h
        split at h
        · rename_i rest₁ hcolon
          simp only [Option.bind_eq_some_iff, Prod.exists] at h
          obtain ⟨j, rest₂, hread, h⟩ := h
          have hspace₁ := length_skipSpace_le rest₁
          have hspace₂ := length_skipSpace_le rest₂
          have hshort₂ : rest₂.length < (skipSpace rest₁).length := of_taken hread
          simp only [hcolon, List.length_cons] at hspace
          have hvalue : Derives (skipSpace rest₁) (.value j) rest₂ :=
            ih _ (.value j) _ (by simp only [List.length_cons]; omega) hread
          have hstring := quoted_of_taken hkey
          unfold nextFields at h
          split at h
          · rename_i rest₃ hclosing
            simp only [Option.some.injEq, Prod.mk.injEq] at h
            obtain ⟨rfl, rfl⟩ := h
            exact .lastField hstring hcolon hvalue hclosing
          · rename_i rest₃ hcomma
            simp only [Option.map_eq_some_iff, Prod.mk.injEq, Prod.exists] at h
            obtain ⟨fs, rest, hread, rfl, rfl⟩ := h
            have hspace₃ := length_skipSpace_le rest₃
            simp only [hcomma, List.length_cons] at hspace₂
            exact .field hstring hcolon hvalue hcomma
              (ih _ (.fields fs) _ (by simp only [List.length_cons]; omega) hread)
          · simp at h
        · simp at h
      · rw [taken_readFields_of_ne (by simpa using hquote)] at h
        simp at h

end

/-- What is read is derived. -/
lemma derives_of_reads {cs rest : List Char} {part : Part} (h : Reads cs part rest) :
    Derives cs part rest := by
  induction hn : cs.length using Nat.strongRecOn generalizing cs part rest with
  | ind n ih =>
      subst hn
      have ih' : ∀ tail part rest, tail.length < cs.length → Reads tail part rest →
          Derives tail part rest := fun tail part rest hlt hread => ih _ hlt hread rfl
      cases part with
      | value j => exact derives_of_readValue ih' h
      | items js => exact derives_of_readItems ih' h
      | fields fs => exact derives_of_readFields ih' h

/-! ## What is derived is read -/

lemma Derives.head_eq {cs rest : List Char} {fs : List (String × Json)}
    (h : Derives cs (.fields fs) rest) : ∃ cs', cs = '"' :: cs' := by
  cases h with
  | lastField => exact ⟨_, rfl⟩
  | field => exact ⟨_, rfl⟩

/-- What is derived is read. -/
lemma Derives.reads {cs rest : List Char} {part : Part} (h : Derives cs part rest) :
    Reads cs part rest := by
  induction h with
  | string hquoted =>
      simp only [Reads]
      rw [taken_readValue_string, hquoted.taken_eq, Option.map_some]
  | emptyArray hrest => exact taken_readValue_emptyArray hrest
  | @array cs rest js hitems ih =>
      simp only [Reads] at ih ⊢
      have hclosing : ∀ rest, skipSpace cs ≠ ']' :: rest :=
        fun rest h => hitems.head?_ne (c := ']') rfl (by rw [h]; rfl)
      rw [taken_readValue_array hclosing, ih, Option.map_some]
  | emptyObject hrest => exact taken_readValue_emptyObject hrest
  | @object cs rest fs hfields ih =>
      obtain ⟨cs', hcs'⟩ := hfields.head_eq
      simp only [Reads] at ih ⊢
      rw [taken_readValue_object (by simp [hcs']), ih, Option.map_some]
  | scalar hstring harray hobject hread =>
      simp only [Reads]
      rw [taken_readValue_scalar _ hstring harray hobject, hread]
  | lastItem _ hclosing ih =>
      simp only [Reads] at ih ⊢
      rw [taken_readItems, ih, Option.bind_some, nextItems]
      simp only [hclosing]
  | item _ hcomma _ ih ihitems =>
      simp only [Reads] at ih ihitems ⊢
      rw [taken_readItems, ih, Option.bind_some, nextItems]
      simp only [hcomma, ihitems, Option.map_some]
  | lastField hkey hcolon _ hclosing ih =>
      simp only [Reads] at ih ⊢
      rw [taken_readFields, hkey.taken_eq, Option.bind_some, nextValue]
      simp only [hcolon, ih, Option.bind_some, nextFields, hclosing]
  | field hkey hcolon _ hcomma _ ih ihfields =>
      simp only [Reads] at ih ihfields ⊢
      rw [taken_readFields, hkey.taken_eq, Option.bind_some, nextValue]
      simp only [hcolon, ih, Option.bind_some, nextFields, hcomma, ihfields, Option.map_some]

/-- The derivations are the reader. -/
theorem derives_iff {cs rest : List Char} {part : Part} :
    Derives cs part rest ↔ Reads cs part rest :=
  ⟨Derives.reads, derives_of_reads⟩

/-! ## Documents -/

/-- A document is a value with white space around it. -/
theorem readDocument_eq_ok_iff {cs : List Char} {j : Json} :
    readDocument cs = .ok j ↔
      ∃ rest, Derives (skipSpace cs) (.value j) rest ∧ skipSpace rest = [] := by
  simp only [derives_iff, Reads]
  unfold readDocument
  cases hread : readValue (skipSpace cs) with
  | error stop => simp [taken]
  | ok r =>
      obtain ⟨j', rest, h⟩ := r
      simp only [taken_ok, Option.some.injEq, Prod.mk.injEq]
      cases hrest : skipSpace rest with
      | nil => simp [hrest]
      | cons c tail => simp [hrest]

lemma ofChars_eq_ok_iff {cs : List Char} {j : Json} :
    ofChars cs = .ok j ↔ cs.head? ≠ some '\uFEFF' ∧ readDocument cs = .ok j := by
  unfold ofChars
  split
  · simp
  · rename_i hmark
    have hhead : cs.head? ≠ some '\uFEFF' := by
      intro h
      obtain ⟨tail, rfl⟩ := List.head?_eq_some_iff.mp h
      exact hmark tail rfl
    simp [hhead]

end Json

end FeatureToggles
