import FeatureToggles.Proofs.Json.Grammar

/-!
# Where a value is wanted

A text that is not JSON stops being so in one of many ways.  One of them is that a value is wanted at
some place and none begins there; this is told by rules (`Wants`), which go through what was read
before that place.

Main statements: `wants_iff` says that a reading stops for the want of a value as the rules have it,
and `wanted?_eq_some_iff` that a document is refused for it where they have it.
-/

namespace FeatureToggles

namespace Json

/-- How many characters are left where a value is wanted, if a stop is for the want of one. -/
def Stop.wanted? : Stop → Option Nat
  | .flaw .expectingValue left => some left
  | _ => none

/-- How many characters are left where a reading stops for the want of a value, if it does. -/
def wanting {α : Type} : Except Stop α → Option Nat
  | .error stop => stop.wanted?
  | .ok _ => none

@[simp] lemma wanting_error {α : Type} (stop : Stop) :
    wanting (.error stop : Except Stop α) = stop.wanted? := rfl

@[simp] lemma wanting_ok {α : Type} (a : α) : wanting (.ok a : Except Stop α) = none := rfl

lemma wanting_of_taken {α : Type} {P : List Char → Prop}
    {r : Except Stop (α × { rest : List Char // P rest })} {x : α × List Char}
    (h : taken r = some x) : wanting r = none := by
  cases r with
  | error stop => simp [taken] at h
  | ok a => rfl

/-! ## Strings -/

lemma wanting_secondHalf? (cs : List Char) : wanting (secondHalf? cs) = none := by
  unfold secondHalf?
  split
  · split
    · rfl
    · split_ifs <;> rfl
  · rfl

lemma wanting_unicodeEscape (cs : List Char) : wanting (unicodeEscape cs) = none := by
  unfold unicodeEscape
  split
  · rename_i e rest
    have hhalf := wanting_secondHalf? (e :: rest)
    split
    · rfl
    · split_ifs
      · split <;> simp_all
      · rfl
  · rfl

/-- No string is refused for the want of a value. -/
lemma wanting_readString (start : Nat) (cs : List Char) : wanting (readString start cs) = none := by
  fun_induction readString start cs with
  | case4 cs e he hescape =>
      have hunicode := wanting_unicodeEscape cs
      rwa [he] at hunicode
  | _ => simp_all [Stop.wanted?]

/-! ## Words and numbers -/

/-- Whether a text begins with no value: with no string, array or object, no word, and no number. -/
structure NoValue (cs : List Char) : Prop where
  opening : ∀ c ∈ cs.head?, c ≠ '"' ∧ c ≠ '[' ∧ c ≠ '\x7b'
  word : ∀ w ∈ wordValues, ¬ w.1 <+: cs
  number : ∀ c ∈ (unsigned cs).head?, c.isDigit = false

lemma isEmpty_wholeDigits (cs : List Char) :
    (wholeDigits cs).isEmpty = true ↔ ∀ c ∈ cs.head?, c.isDigit = false := by
  cases cs with
  | nil => simp [wholeDigits]
  | cons c cs =>
      simp only [wholeDigits, List.head?_cons, Option.mem_def, Option.some.injEq, forall_eq']
      split_ifs with hzero hdigit
      · simp [hzero]
      · simp [hdigit]
      · simpa using hdigit

lemma wanting_numberOf (negative : Bool) (whole fraction exponent : List Char) :
    wanting (numberOf negative whole fraction exponent) = none := by
  unfold numberOf
  split
  · split_ifs <;> rfl
  · split <;> rfl

lemma wanting_readNumber (cs : List Char) :
    wanting (readNumber cs) = if (wholeDigits (unsigned cs)).isEmpty then some cs.length else none := by
  rcases readNumber_cases cs with ⟨hempty, h⟩ |
    ⟨hempty, _, hnumber, ⟨stop, rfl, h⟩ | ⟨j, rest, rfl, h, -⟩⟩
  · rw [h, if_pos hempty]
    rfl
  · have hnone := wanting_numberOf (isNegative cs) (wholeDigits (unsigned cs))
      (fractionAfter (unsigned cs)) (exponentAfter (unsigned cs))
    rw [hnumber] at hnone
    rw [h, hempty]
    exact hnone
  · rw [h, hempty]
    rfl

/-- A word or a number is wanted where neither stands. -/
lemma wanting_readScalar {cs : List Char} {left : Nat} :
    wanting (readScalar cs) = some left ↔
      (∀ w ∈ wordValues, ¬ w.1 <+: cs) ∧ (∀ c ∈ (unsigned cs).head?, c.isDigit = false) ∧
        left = cs.length := by
  have hwords : (wordValues.find? fun w => w.1.isPrefixOf cs) = none ↔
      ∀ w ∈ wordValues, ¬ w.1 <+: cs := by
    rw [List.find?_eq_none]
    simp [List.isPrefixOf_iff_prefix]
  cases hfind : wordValues.find? fun w => w.1.isPrefixOf cs with
  | some found =>
      have htaken : taken (readScalar cs) = some (found.2, cs.drop found.1.length) := by
        rw [taken_readScalar, hfind]
      rw [wanting_of_taken htaken, ← hwords, hfind]
      simp
  | none =>
      have hnumber : readScalar cs = readNumber cs := by rw [readScalar, hfind]
      rw [hnumber, wanting_readNumber, ← hwords, hfind, ← isEmpty_wholeDigits]
      split_ifs with hempty
      · simp [hempty, eq_comm]
      · simp [hempty]

/-! ## Values, items and fields -/

lemma wanting_readValue_nil : wanting (readValue []) = some 0 := by
  rw [readValue]
  rfl

lemma wanting_readValue_string (cs : List Char) : wanting (readValue ('"' :: cs)) = none := by
  have hstring := wanting_readString (cs.length + 1) cs
  rw [readValue.eq_def]
  simp only [↓reduceIte]
  cases hread : readString (cs.length + 1) cs with
  | error stop => rwa [hread] at hstring
  | ok r => rfl

lemma wanting_readValue_array {cs : List Char} {left : Nat} :
    wanting (readValue ('[' :: cs)) = some left ↔
      (∀ rest, skipSpace cs ≠ ']' :: rest) ∧ wanting (readItems (skipSpace cs)) = some left := by
  by_cases hempty : ∃ rest, skipSpace cs = ']' :: rest
  · obtain ⟨rest, hrest⟩ := hempty
    rw [wanting_of_taken (taken_readValue_emptyArray hrest)]
    simp [hrest]
  · have hne := not_exists.mp hempty
    have hread : wanting (readValue ('[' :: cs)) = wanting (readItems (skipSpace cs)) := by
      rw [readValue.eq_def]
      simp only [↓reduceIte, Char.reduceEq]
      cases readItems (skipSpace cs) <;> rfl
    rw [hread]
    exact (and_iff_right hne).symm

lemma wanting_readFields_of_ne {cs : List Char} (h : cs.head? ≠ some '"') :
    wanting (readFields cs) = none := by
  rw [readFields.eq_def]
  cases cs with
  | nil => rfl
  | cons c cs =>
      have hc : c ≠ '"' := by simpa using h
      simp only [hc, ne_eq, not_false_eq_true, ↓reduceIte]
      rfl

lemma wanting_readValue_object (cs : List Char) :
    wanting (readValue ('\x7b' :: cs)) = wanting (readFields (skipSpace cs)) := by
  by_cases hempty : ∃ rest, skipSpace cs = '\x7d' :: rest
  · obtain ⟨rest, hrest⟩ := hempty
    rw [wanting_of_taken (taken_readValue_emptyObject hrest), hrest,
      wanting_readFields_of_ne (by simp)]
  · have hne := not_exists.mp hempty
    rw [readValue.eq_def]
    simp only [↓reduceIte, Char.reduceEq]
    cases readFields (skipSpace cs) <;> rfl

lemma wanting_readValue_scalar {c : Char} (cs : List Char) (hstring : c ≠ '"') (harray : c ≠ '[')
    (hobject : c ≠ '\x7b') : wanting (readValue (c :: cs)) = wanting (readScalar (c :: cs)) := by
  rw [readValue.eq_def]
  simp only [hstring, harray, hobject, ↓reduceIte]

/-- A value is wanted among items at the first of them, or among those that follow it. -/
lemma wanting_readItems {cs : List Char} {left : Nat} :
    wanting (readItems cs) = some left ↔
      wanting (readValue cs) = some left ∨
        ∃ j rest rest', taken (readValue cs) = some (j, rest) ∧ skipSpace rest = ',' :: rest' ∧
          wanting (readItems (skipSpace rest')) = some left := by
  rw [readItems.eq_def]
  cases hread : readValue cs with
  | error stop => simp [taken]
  | ok r =>
      -- after an item it is only a comma that leads to another place where a value is wanted
      obtain ⟨j, rest, h⟩ := r
      simp only [taken_ok, wanting_ok, Option.some.injEq, Prod.mk.injEq]
      split
      · rename_i hrest
        simp [hrest, Stop.wanted?]
      · rename_i d rest' hrest
        split_ifs with hclosing hcomma
        · simp [hrest, hclosing]
        · cases hitems : readItems (skipSpace rest') <;> simp [hrest, hcomma, hitems]
        · simp [hrest, hcomma, Stop.wanted?]

/-- A value is wanted among fields after the first key, or among the fields that follow. -/
lemma wanting_readFields {cs : List Char} {left : Nat} :
    wanting (readFields ('"' :: cs)) = some left ↔
      ∃ key rest rest₁, Quoted cs key rest ∧ skipSpace rest = ':' :: rest₁ ∧
        (wanting (readValue (skipSpace rest₁)) = some left ∨
          ∃ j rest₂ rest₃, taken (readValue (skipSpace rest₁)) = some (j, rest₂) ∧
            skipSpace rest₂ = ',' :: rest₃ ∧ wanting (readFields (skipSpace rest₃)) = some left) := by
  have hstring := wanting_readString (cs.length + 1) cs
  simp only [@quoted_iff (cs.length + 1)]
  rw [readFields.eq_def]
  simp only [ne_eq, not_true_eq_false, ↓reduceIte]
  cases hread : readString (cs.length + 1) cs with
  | error stop =>
      rw [hread] at hstring
      simp_all [taken]
  | ok r =>
      -- after a key it is only a colon that leads on, and after the value behind it only a comma
      obtain ⟨key, rest, h⟩ := r
      simp only [taken_ok, Option.some.injEq, Prod.mk.injEq]
      split
      · rename_i hrest
        simp [hrest, Stop.wanted?]
      · rename_i d rest₁ hrest
        split_ifs with hcolon
        · cases hvalue : readValue (skipSpace rest₁) with
          | error stop => simp [hrest, hcolon, hvalue, taken]
          | ok r =>
              obtain ⟨j, rest₂, h₂⟩ := r
              simp only
              split
              · rename_i hrest₂
                simp [hrest, hcolon, hvalue, taken_ok, hrest₂, Stop.wanted?]
              · rename_i d rest₃ hrest₂
                split_ifs with hclosing hcomma
                · simp [hrest, hcolon, hvalue, taken_ok, hrest₂, hclosing]
                · cases hfields : readFields (skipSpace rest₃) <;>
                    simp [hrest, hcolon, hvalue, taken_ok, hrest₂, hcomma, hfields]
                · simp [hrest, hcolon, hvalue, taken_ok, hrest₂, hcomma, Stop.wanted?]
        · simp [hrest, hcolon, Stop.wanted?]

/-! ## The rules -/

/-- What a reading looks for. -/
inductive Sought where
  | value
  | items
  | fields

/-- Whether a reading of what is sought, from the beginning of a text on, comes to a place at which a
value is wanted and none begins.  The place is given by what is left of the text. -/
inductive Wants : Sought → List Char → List Char → Prop where
  | here {cs : List Char} : NoValue cs → Wants .value cs cs
  | array {cs place : List Char} :
      (∀ rest, skipSpace cs ≠ ']' :: rest) → Wants .items (skipSpace cs) place →
      Wants .value ('[' :: cs) place
  | object {cs place : List Char} :
      Wants .fields (skipSpace cs) place → Wants .value ('\x7b' :: cs) place
  | item {cs place : List Char} : Wants .value cs place → Wants .items cs place
  | nextItem {cs rest rest' place : List Char} {j : Json} :
      Derives cs (.value j) rest → skipSpace rest = ',' :: rest' →
      Wants .items (skipSpace rest') place → Wants .items cs place
  | field {cs key rest rest₁ place : List Char} :
      Quoted cs key rest → skipSpace rest = ':' :: rest₁ → Wants .value (skipSpace rest₁) place →
      Wants .fields ('"' :: cs) place
  | nextField {cs key rest rest₁ rest₂ rest₃ place : List Char} {j : Json} :
      Quoted cs key rest → skipSpace rest = ':' :: rest₁ →
      Derives (skipSpace rest₁) (.value j) rest₂ → skipSpace rest₂ = ',' :: rest₃ →
      Wants .fields (skipSpace rest₃) place → Wants .fields ('"' :: cs) place

/-- How many characters are left where the reading of what is sought stops for the want of a value. -/
def Sought.wanting (cs : List Char) : Sought → Option Nat
  | .value => Json.wanting (readValue cs)
  | .items => Json.wanting (readItems cs)
  | .fields => Json.wanting (readFields cs)

lemma wanting_readScalar_cons {c : Char} {cs : List Char} (hstring : c ≠ '"') (harray : c ≠ '[')
    (hobject : c ≠ '\x7b') {left : Nat} :
    wanting (readScalar (c :: cs)) = some left ↔ NoValue (c :: cs) ∧ left = (c :: cs).length := by
  rw [wanting_readScalar]
  constructor
  · rintro ⟨hword, hnumber, hleft⟩
    refine ⟨⟨?_, hword, hnumber⟩, hleft⟩
    rintro d ⟨⟩
    exact ⟨hstring, harray, hobject⟩
  · rintro ⟨⟨-, hword, hnumber⟩, hleft⟩
    exact ⟨hword, hnumber, hleft⟩

lemma noValue_nil : NoValue [] := by
  refine ⟨by simp, ?_, by simp [unsigned, isNegative]⟩
  simp [wordValues]

section

-- the rules hold of all shorter texts
variable {cs : List Char} {left : Nat}
  (ih : ∀ tail sought, tail.length < cs.length → sought.wanting tail = some left →
    ∃ place, Wants sought tail place ∧ left = place.length)

include ih

/-- A value is wanted as the rules have it. -/
lemma wants_of_readValue (h : wanting (readValue cs) = some left) :
    ∃ place, Wants .value cs place ∧ left = place.length := by
  match cs with
  | [] =>
      rw [wanting_readValue_nil, Option.some.injEq] at h
      exact ⟨[], .here noValue_nil, h.symm⟩
  | c :: cs =>
      have hspace : (skipSpace cs).length < (c :: cs).length :=
        Nat.lt_succ_of_le (length_skipSpace_le cs)
      by_cases hstring : c = '"'
      · subst hstring
        simp [wanting_readValue_string] at h
      by_cases harray : c = '['
      · subst harray
        obtain ⟨hnonempty, hitems⟩ := wanting_readValue_array.mp h
        obtain ⟨place, hwants, hleft⟩ := ih _ .items hspace hitems
        exact ⟨place, .array hnonempty hwants, hleft⟩
      by_cases hobject : c = '\x7b'
      · subst hobject
        rw [wanting_readValue_object] at h
        obtain ⟨place, hwants, hleft⟩ := ih _ .fields hspace h
        exact ⟨place, .object hwants, hleft⟩
      · rw [wanting_readValue_scalar cs hstring harray hobject,
          wanting_readScalar_cons hstring harray hobject] at h
        exact ⟨c :: cs, .here h.1, h.2⟩

/-- Among items a value is wanted as the rules have it. -/
lemma wants_of_readItems (h : wanting (readItems cs) = some left) :
    ∃ place, Wants .items cs place ∧ left = place.length := by
  rcases wanting_readItems.mp h with hvalue | ⟨j, rest, rest', hread, hcomma, hitems⟩
  · obtain ⟨place, hwants, hleft⟩ := wants_of_readValue ih hvalue
    exact ⟨place, .item hwants, hleft⟩
  · have hshort : rest.length < cs.length := of_taken hread
    have hspace := length_skipSpace_le rest
    have hspace' := length_skipSpace_le rest'
    simp only [hcomma, List.length_cons] at hspace
    obtain ⟨place, hwants, hleft⟩ := ih _ .items (by omega) hitems
    exact ⟨place, .nextItem (derives_iff.mpr hread) hcomma hwants, hleft⟩

/-- Among fields a value is wanted as the rules have it. -/
lemma wants_of_readFields (h : wanting (readFields cs) = some left) :
    ∃ place, Wants .fields cs place ∧ left = place.length := by
  by_cases hquote : cs.head? = some '"'
  · obtain ⟨cs, rfl⟩ := List.head?_eq_some_iff.mp hquote
    obtain ⟨key, rest, rest₁, hkey, hcolon, h⟩ := wanting_readFields.mp h
    have hshort : rest.length < cs.length := of_taken (@Quoted.taken_eq 0 _ _ _ hkey)
    have hspace := length_skipSpace_le rest
    have hspace₁ := length_skipSpace_le rest₁
    simp only [hcolon, List.length_cons] at hspace
    rcases h with hvalue | ⟨j, rest₂, rest₃, hread, hcomma, hfields⟩
    · obtain ⟨place, hwants, hleft⟩ :=
        ih _ .value (by simp only [List.length_cons]; omega) hvalue
      exact ⟨place, .field hkey hcolon hwants, hleft⟩
    · have hshort₂ : rest₂.length < (skipSpace rest₁).length := of_taken hread
      have hspace₂ := length_skipSpace_le rest₂
      have hspace₃ := length_skipSpace_le rest₃
      simp only [hcomma, List.length_cons] at hspace₂
      obtain ⟨place, hwants, hleft⟩ :=
        ih _ .fields (by simp only [List.length_cons]; omega) hfields
      exact ⟨place, .nextField hkey hcolon (derives_iff.mpr hread) hcomma hwants, hleft⟩
  · simp [wanting_readFields_of_ne hquote] at h

end

/-- A reading that comes to a place at which a value is wanted stops there. -/
lemma Wants.wanting_eq {sought : Sought} {cs place : List Char} (h : Wants sought cs place) :
    sought.wanting cs = some place.length := by
  induction h with
  | @here cs hnone =>
      match cs, hnone with
      | [], _ => exact wanting_readValue_nil
      | c :: cs, hnone =>
          obtain ⟨hstring, harray, hobject⟩ := hnone.opening c rfl
          rw [Sought.wanting, wanting_readValue_scalar cs hstring harray hobject,
            wanting_readScalar_cons hstring harray hobject]
          exact ⟨hnone, rfl⟩
  | array hnonempty _ ih => exact wanting_readValue_array.mpr ⟨hnonempty, ih⟩
  | object _ ih => exact (wanting_readValue_object _).trans ih
  | item _ ih => exact wanting_readItems.mpr (.inl ih)
  | nextItem hitem hcomma _ ih =>
      exact wanting_readItems.mpr (.inr ⟨_, _, _, derives_iff.mp hitem, hcomma, ih⟩)
  | field hkey hcolon _ ih => exact wanting_readFields.mpr ⟨_, _, _, hkey, hcolon, .inl ih⟩
  | nextField hkey hcolon hvalue hcomma _ ih =>
      exact wanting_readFields.mpr
        ⟨_, _, _, hkey, hcolon, .inr ⟨_, _, _, derives_iff.mp hvalue, hcomma, ih⟩⟩

/-- A reading stops for the want of a value where the rules have it. -/
theorem wants_iff {sought : Sought} {cs : List Char} {left : Nat} :
    sought.wanting cs = some left ↔ ∃ place, Wants sought cs place ∧ left = place.length := by
  refine ⟨fun h => ?_, fun ⟨place, hwants, hleft⟩ => hleft ▸ hwants.wanting_eq⟩
  induction hn : cs.length using Nat.strongRecOn generalizing cs sought with
  | ind n ih =>
      subst hn
      have ih' : ∀ tail sought, tail.length < cs.length → sought.wanting tail = some left →
          ∃ place, Wants sought tail place ∧ left = place.length :=
        fun tail sought hlt hwanting => ih _ hlt hwanting rfl
      cases sought with
      | value => exact wants_of_readValue ih' h
      | items => exact wants_of_readItems ih' h
      | fields => exact wants_of_readFields ih' h

/-- The place at which a value is wanted stands at the end of the text. -/
lemma Wants.suffix {sought : Sought} {cs place : List Char} (h : Wants sought cs place) :
    place <:+ cs := by
  induction h with
  | here => exact List.suffix_refl _
  | array _ _ ih | object _ ih =>
      exact (ih.trans (skipSpace_suffix _)).trans (List.suffix_cons _ _)
  | item _ ih => exact ih
  | nextItem hitem hcomma _ ih =>
      exact (ih.trans (skipSpace_suffix _)).trans ((suffix_of_skipSpace hcomma).trans hitem.suffix)
  | field hkey hcolon _ ih =>
      refine List.IsSuffix.trans ?_ (List.suffix_cons _ _)
      exact (ih.trans (skipSpace_suffix _)).trans ((suffix_of_skipSpace hcolon).trans hkey.suffix)
  | nextField hkey hcolon hvalue hcomma _ ih =>
      have hrest := (ih.trans (skipSpace_suffix _)).trans (suffix_of_skipSpace hcomma)
      have hrest₁ := (hrest.trans hvalue.suffix).trans (skipSpace_suffix _)
      refine List.IsSuffix.trans ?_ (List.suffix_cons _ _)
      exact hrest₁.trans ((suffix_of_skipSpace hcolon).trans hkey.suffix)

/-! ## Documents -/

/-- Whether the reading of a document comes to an index at which a value is wanted and none begins. -/
structure WantsAt (cs : List Char) (index : Nat) : Prop where
  head : cs.head? ≠ some '\uFEFF'
  le : index ≤ cs.length
  wants : Wants .value (skipSpace cs) (cs.drop index)

lemma wantsAt_iff {cs : List Char} {index : Nat} :
    WantsAt cs index ↔ cs.head? ≠ some '\uFEFF' ∧
      ∃ place, Wants .value (skipSpace cs) place ∧ index = cs.length - place.length := by
  constructor
  · rintro ⟨hhead, hle, hwants⟩
    refine ⟨hhead, _, hwants, ?_⟩
    rw [List.length_drop]
    omega
  · rintro ⟨hhead, place, hwants, rfl⟩
    have hsuffix := hwants.suffix.trans (skipSpace_suffix cs)
    refine ⟨hhead, Nat.sub_le _ _, ?_⟩
    rwa [← List.suffix_iff_eq_drop.mp hsuffix]

/-- The index at which a value was expected, if that is what is wrong with a text. -/
def ReadError.wanted? : ReadError → Option Nat
  | .flaw .expectingValue index _ _ => some index
  | _ => none

lemma wanted?_toError (cs : List Char) (stop : Stop) :
    (stop.toError cs).wanted? = stop.wanted?.map (cs.length - ·) := by
  cases stop with
  | flaw what left => cases what <;> rfl
  | oversizedInteger digits => rfl

/-- What is wrong with a document is told by the reading of its value, or it is what follows that. -/
lemma wanted?_of_readDocument {cs : List Char} {e : ReadError} (h : readDocument cs = .error e) :
    e.wanted? = (wanting (readValue (skipSpace cs))).map (cs.length - ·) := by
  unfold readDocument at h
  cases hread : readValue (skipSpace cs) with
  | error stop =>
      simp only [hread, Except.error.injEq] at h
      rw [← h, wanted?_toError, wanting_error]
  | ok r =>
      simp only [hread] at h
      split_ifs at h
      obtain rfl := Except.error.inj h
      rfl

/-- A document is refused because a value was expected at an index exactly if the reading comes to a
place there at which a value is wanted and none begins. -/
theorem wanted?_eq_some_iff {cs : List Char} {e : ReadError} (h : ofChars cs = .error e)
    {index : Nat} : e.wanted? = some index ↔ WantsAt cs index := by
  rw [wantsAt_iff]
  by_cases hhead : cs.head? = some '\uFEFF'
  · obtain ⟨tail, rfl⟩ := List.head?_eq_some_iff.mp hhead
    obtain rfl := Except.error.inj h
    simp [ReadError.wanted?, errorAt]
  · have hdocument : readDocument cs = .error e := by
      unfold ofChars at h
      split at h
      · simp at hhead
      · exact h
    rw [wanted?_of_readDocument hdocument, Option.map_eq_some_iff]
    constructor
    · rintro ⟨left, hleft, rfl⟩
      obtain ⟨place, hwants, rfl⟩ := (@wants_iff .value (skipSpace cs) left).mp hleft
      exact ⟨hhead, place, hwants, rfl⟩
    · rintro ⟨-, place, hwants, rfl⟩
      exact ⟨_, hwants.wanting_eq, rfl⟩

end Json

end FeatureToggles
