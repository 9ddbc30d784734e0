import FeatureToggles.Proofs.Catalog.Concatenation
import FeatureToggles.Proofs.Json.Grammar
import FeatureToggles.Proofs.Text.Encoded
import Mathlib

/-!
# Encoded catalogs

The bytes of a document do not say in which form of Unicode they are written, unless a mark stands before
them; the form is told by where the zeros are among the first four.  This is right for a text that begins with
two ASCII characters other than the first one of all, and every text that holds a catalog does: it has white
space, an opening bracket, and behind it an opening brace or a closing bracket.

Main statements: `Json.ofBytes_encode` and `Payload.catalog_encoded`.
-/

namespace FeatureToggles

open Text (Encoding)

/-! ## How the form of a text is told -/

namespace Text

/-- Whether a character is one of ASCII, but not the first one. -/
def IsPlain (c : Char) : Prop := 0 < c.toNat ∧ c.toNat < 0x80

/-- Whether a text begins with two such characters. -/
def BeginsPlain (cs : List Char) : Prop := ∃ c d rest, cs = c :: d :: rest ∧ IsPlain c ∧ IsPlain d

variable {c : Char}

/-- The byte of such a character is no zero and no byte of a mark. -/
lemma IsPlain.byte_ne (h : IsPlain c) :
    UInt8.ofNat c.toNat ≠ 0 ∧ UInt8.ofNat c.toNat ≠ 0xEF ∧ UInt8.ofNat c.toNat ≠ 0xFE ∧
      UInt8.ofNat c.toNat ≠ 0xFF := by
  obtain ⟨hpos, hlt⟩ := h
  have hbyte : (UInt8.ofNat c.toNat).toNat = c.toNat := by
    rw [UInt8.toNat_ofNat']
    omega
  refine ⟨?_, ?_, ?_, ?_⟩ <;>
  · intro heq
    have htoNat := congrArg UInt8.toNat heq
    rw [hbyte] at htoNat
    simp at htoNat
    omega

/-- It is written with zeros beside its byte, on the side that the order tells. -/
lemma IsPlain.encodeChar_utf16 (h : IsPlain c) :
    Encoding.encodeChar (.utf16 .little) c = [UInt8.ofNat c.toNat, 0] ∧
      Encoding.encodeChar (.utf16 .big) c = [0, UInt8.ofNat c.toNat] := by
  obtain ⟨-, hlt⟩ := h
  have hunit : c.toNat < 0x10000 := by omega
  have hbytes := ByteOrder.bytes_little_of_lt (show c.toNat < 256 by omega) 1
  constructor
  · exact (if_pos hunit).trans hbytes
  · exact (if_pos hunit).trans (congrArg List.reverse hbytes)

lemma IsPlain.encodeChar_utf32 (h : IsPlain c) :
    Encoding.encodeChar (.utf32 .little) c = [UInt8.ofNat c.toNat, 0, 0, 0] ∧
      Encoding.encodeChar (.utf32 .big) c = [0, 0, 0, UInt8.ofNat c.toNat] := by
  obtain ⟨-, hlt⟩ := h
  have hbytes := ByteOrder.bytes_little_of_lt (show c.toNat < 256 by omega) 3
  constructor
  · exact hbytes
  · exact congrArg List.reverse hbytes

end Text

namespace Json

open Text

/-- Bytes of which the first begins no mark have none. -/
lemma markedEncoding?_of_first {a : UInt8} (h : a ≠ 0 ∧ a ≠ 0xEF ∧ a ≠ 0xFE ∧ a ≠ 0xFF)
    (bs : List UInt8) : markedEncoding? (a :: bs) = none := by
  obtain ⟨h₀, h₁, h₂, h₃⟩ := h
  simp [markedEncoding?, h₀.symm, h₁.symm, h₂.symm, h₃.symm]

/-- Neither have bytes that begin with a zero, unless they begin as the one mark that does. -/
lemma markedEncoding?_of_zero {b c : UInt8} (h : b ≠ 0 ∨ c ≠ 0xFE) (bs : List UInt8) :
    markedEncoding? (0 :: b :: c :: bs) = none := by
  have hmark : 0 = b → 0xFE = c → ¬ [0xFF] <+: bs := by
    rintro rfl rfl
    simp at h
  simpa [markedEncoding?] using hmark

lemma unmarkedEncoding_of_ne {a b : UInt8} (ha : a ≠ 0) (hb : b ≠ 0) (bs : List UInt8) :
    unmarkedEncoding (a :: b :: bs) = .utf8 := by
  rcases bs with _ | ⟨c, _ | ⟨d, bs⟩⟩ <;> simp [unmarkedEncoding, ha, hb]

lemma encodingOf_of_unmarked {bs : List UInt8} {e : Encoding} (hmark : markedEncoding? bs = none)
    (h : unmarkedEncoding bs = e) : encodingOf bs = e := by
  rw [encodingOf, hmark, Option.getD_none, h]

variable {cs : List Char} {e : Encoding}

/-- The form of a text without a mark is told by its zeros. -/
lemma encodingOf_encode (h : BeginsPlain cs) (he : e ∈ Encoding.forms) :
    encodingOf (e.encode cs) = e := by
  obtain ⟨c, d, rest, rfl, hc, hd⟩ := h
  have hc₀ := hc.byte_ne.1
  have hd₀ := hd.byte_ne.1
  simp only [Encoding.encode, List.flatMap_cons]
  rcases Encoding.mem_forms.mp he with rfl | ⟨order, rfl⟩ | ⟨order, rfl⟩
  · rw [Encoding.encodeChar_utf8_ascii hc.2, Encoding.encodeChar_utf8_ascii hd.2]
    exact encodingOf_of_unmarked (markedEncoding?_of_first hc.byte_ne _)
      (unmarkedEncoding_of_ne hc₀ hd₀ _)
  · cases order with
    | little =>
        rw [hc.encodeChar_utf16.1, hd.encodeChar_utf16.1]
        refine encodingOf_of_unmarked (markedEncoding?_of_first hc.byte_ne _) ?_
        simp [unmarkedEncoding, hc₀, hd₀]
    | big =>
        rw [hc.encodeChar_utf16.2, hd.encodeChar_utf16.2]
        refine encodingOf_of_unmarked (markedEncoding?_of_zero (.inl hc₀) _) ?_
        simp [unmarkedEncoding, hc₀]
  · cases order with
    | little =>
        rw [hc.encodeChar_utf32.1, hd.encodeChar_utf32.1]
        refine encodingOf_of_unmarked (markedEncoding?_of_first hc.byte_ne _) ?_
        simp [unmarkedEncoding, hc₀]
    | big =>
        rw [hc.encodeChar_utf32.2, hd.encodeChar_utf32.2]
        refine encodingOf_of_unmarked (markedEncoding?_of_zero (.inr (by decide)) _) ?_
        simp [unmarkedEncoding]

/-- A mark tells the form.  The one of UTF-16 begins another one, but behind that would come zeros. -/
lemma encodingOf_mark_encode (h : BeginsPlain cs) (he : e ∈ Encoding.forms) :
    encodingOf (e.mark ++ e.encode cs) = e.marked := by
  obtain ⟨c, d, rest, rfl, hc, -⟩ := h
  have hc₀ := hc.byte_ne.1
  rcases Encoding.mem_forms.mp he with rfl | ⟨order, rfl⟩ | ⟨order, rfl⟩
  · simp [encodingOf, markedEncoding?, Encoding.marked]
  · cases order with
    | little =>
        simp only [Encoding.encode, List.flatMap_cons, hc.encodeChar_utf16.1]
        simp [encodingOf, markedEncoding?, Encoding.marked, hc₀.symm]
    | big => simp [encodingOf, markedEncoding?, Encoding.marked]
  · cases order <;> simp [encodingOf, markedEncoding?, Encoding.marked]

/-- A text in a form of Unicode is read as the text itself, with a mark before it or without. -/
theorem ofBytes_encode (h : BeginsPlain cs) (he : e ∈ Encoding.forms) :
    ofBytes (e.encode cs) = (readDocument cs).mapError .notJson ∧
      ofBytes (e.mark ++ e.encode cs) = (readDocument cs).mapError .notJson := by
  constructor
  · rw [ofBytes, encodingOf_encode h he, decode_encode _ _ he]
  · rw [ofBytes, encodingOf_mark_encode h he, decode_mark_encode _ _ he]

end Json

/-! ## How a catalog begins -/

namespace Json

open Text

/-- White space and the brackets of arrays and objects are plain. -/
lemma isPlain_of_isSpace {c : Char} (h : isSpace c = true) : IsPlain c := by
  simp only [isSpace, Bool.or_eq_true, beq_iff_eq] at h
  rcases h with ((rfl | rfl) | rfl) | rfl <;> exact ⟨by decide, by decide⟩

/-- A text begins with what stands behind white space, or with white space. -/
lemma exists_cons_of_skipSpace {cs tail : List Char} {c : Char} (h : skipSpace cs = c :: tail) :
    (cs = c :: tail) ∨ ∃ d rest, cs = d :: rest ∧ isSpace d = true ∧ skipSpace rest = c :: tail := by
  cases cs with
  | nil => simp [skipSpace] at h
  | cons d rest =>
      rw [skipSpace, List.dropWhile_cons] at h
      split_ifs at h with hspace
      · exact .inr ⟨d, rest, rfl, hspace, h⟩
      · exact .inl h

/-- A text begins with a plain character if what stands behind white space does. -/
lemma exists_isPlain_of_skipSpace {cs tail : List Char} {c : Char} (h : skipSpace cs = c :: tail)
    (hc : IsPlain c) : ∃ d rest, cs = d :: rest ∧ IsPlain d := by
  rcases exists_cons_of_skipSpace h with rfl | ⟨d, rest, rfl, hspace, -⟩
  · exact ⟨c, tail, rfl, hc⟩
  · exact ⟨d, rest, rfl, isPlain_of_isSpace hspace⟩

/-- An object begins with a brace. -/
lemma Derives.exists_of_obj {cs rest : List Char} {fields : List (String × Json)}
    (h : Derives cs (.value (.obj fields)) rest) : ∃ tail, cs = '\x7b' :: tail := by
  cases h with
  | emptyObject => exact ⟨_, rfl⟩
  | object => exact ⟨_, rfl⟩
  | scalar _ _ _ hread => exact absurd rfl ((ne_of_taken_readScalar hread).2 fields)

/-- An array begins with a bracket, behind which it is closed or has items. -/
lemma Derives.exists_of_arr {cs rest : List Char} {items : List Json}
    (h : Derives cs (.value (.arr items)) rest) :
    ∃ tail, cs = '[' :: tail ∧ ((∃ rest', skipSpace tail = ']' :: rest') ∨
      ∃ rest', Derives (skipSpace tail) (.items items) rest') := by
  cases h with
  | emptyArray hclosing => exact ⟨_, rfl, .inl ⟨_, hclosing⟩⟩
  | array hitems => exact ⟨_, rfl, .inr ⟨_, hitems⟩⟩
  | scalar _ _ _ hread => exact absurd rfl ((ne_of_taken_readScalar hread).1 items)

/-- Items begin with the first one. -/
lemma Derives.exists_of_items {cs rest : List Char} {items : List Json}
    (h : Derives cs (.items items) rest) :
    ∃ j js rest', items = j :: js ∧ Derives cs (.value j) rest' := by
  cases h with
  | lastItem hvalue => exact ⟨_, _, _, rfl, hvalue⟩
  | item hvalue => exact ⟨_, _, _, rfl, hvalue⟩

end Json

namespace Catalog

open Text

/-- What is read as a feature is an object. -/
lemma exists_fields_of_feature {j : Json} {feature : Feature} (h : Record.feature j = .ok feature) :
    ∃ fields, j = .obj fields := by
  cases j with
  | obj fields => exact ⟨fields, rfl⟩
  | _ => simp [Record.feature, Record.object, Checked.fail] at h

/-- A text that holds a catalog begins with two plain characters. -/
lemma beginsPlain_of_ofText {source : String} {cs : List Char} {catalog : Catalog}
    (h : ofText source cs = .ok catalog) : BeginsPlain cs := by
  obtain ⟨items, hread, hfeatures⟩ := ofText_eq_ok_iff.mp h
  obtain ⟨rest, harray, -⟩ := Json.readDocument_eq_ok_iff.mp (Json.ofChars_eq_ok_iff.mp hread).2
  obtain ⟨tail, htail, hinside⟩ := harray.exists_of_arr
  have hbracket : IsPlain '[' := ⟨by decide, by decide⟩
  -- behind the bracket there is white space, a closing bracket or the brace of the first record
  have hinner : ∃ c rest', Json.skipSpace tail = c :: rest' ∧ IsPlain c := by
    rcases hinside with ⟨rest', hclosing⟩ | ⟨rest', hitems⟩
    · exact ⟨']', rest', hclosing, by decide, by decide⟩
    · obtain ⟨j, js, rest', rfl, hvalue⟩ := hitems.exists_of_items
      obtain ⟨feature, -, hfeature, -, -⟩ :=
        List.forall₂_cons_left_iff.mp ((Checked.all_eq_ok_iff Record.feature).mp hfeatures)
      obtain ⟨fields, rfl⟩ := exists_fields_of_feature hfeature
      obtain ⟨rest', hbrace⟩ := hvalue.exists_of_obj
      exact ⟨'\x7b', rest', hbrace, by decide, by decide⟩
  rcases Json.exists_cons_of_skipSpace htail with rfl | ⟨d, rest', rfl, hspace, hrest⟩
  · obtain ⟨c, rest', hc, hplain⟩ := hinner
    obtain ⟨d, rest'', rfl, hd⟩ := Json.exists_isPlain_of_skipSpace hc hplain
    exact ⟨'[', d, rest'', rfl, hbracket, hd⟩
  · obtain ⟨c, rest'', rfl, hc⟩ := Json.exists_isPlain_of_skipSpace hrest hbracket
    exact ⟨d, c, rest'', rfl, Json.isPlain_of_isSpace hspace, hc⟩

end Catalog

/-! ## Documents -/

namespace Payload

/-- A text that holds a catalog holds it as bytes as well, in every form of Unicode, behind the mark of the form
or without a mark. -/
theorem catalog_encoded {source : String} {cs : List Char} {catalog : Catalog}
    (h : (text cs).catalog source = .ok catalog) {e : Encoding} (he : e ∈ Encoding.forms) :
    (bytes (e.encode cs)).catalog source = .ok catalog ∧
      (bytes (e.mark ++ e.encode cs)).catalog source = .ok catalog := by
  have htext : Catalog.ofText source cs = .ok catalog := h
  obtain ⟨items, hread, hfeatures⟩ := Catalog.ofText_eq_ok_iff.mp htext
  have hdocument : Json.readDocument cs = .ok (.arr items) := (Json.ofChars_eq_ok_iff.mp hread).2
  obtain ⟨hplain, hmarked⟩ := Json.ofBytes_encode (Catalog.beginsPlain_of_ofText htext) he
  rw [hdocument] at hplain hmarked
  have hholds : (bytes (e.encode cs)).Holds (.arr items) := hplain
  have hholds' : (bytes (e.mark ++ e.encode cs)).Holds (.arr items) := hmarked
  exact ⟨(catalog_eq_ok_iff hholds).mpr hfeatures, (catalog_eq_ok_iff hholds').mpr hfeatures⟩

/-- The text of a feature whose name is beyond the characters of one unit. -/
def pairText : List Char := "[\x7b\"name\":\"😀\"\x7d]".toList

/-- In UTF-16 the name is a pair of units; and the mark of the little order begins that of UTF-32. -/
theorem catalog_encoded_pair :
    (text pairText).catalog "<memory>" = .ok [⟨"😀", false, false, [], []⟩] ∧
      Encoding.mark (.utf16 .little) ++ Encoding.encode (.utf16 .little) pairText =
        [0xFF, 0xFE, 0x5B, 0, 0x7B, 0, 0x22, 0, 0x6E, 0, 0x61, 0, 0x6D, 0, 0x65, 0, 0x22, 0, 0x3A, 0,
          0x22, 0, 0x3D, 0xD8, 0, 0xDE, 0x22, 0, 0x7D, 0, 0x5D, 0] ∧
      (bytes (Encoding.mark (.utf16 .little) ++ Encoding.encode (.utf16 .little) pairText)).catalog
        "<memory>" = .ok [⟨"😀", false, false, [], []⟩] := by
  have hread : Json.ofChars pairText = .ok (.arr [.obj [("name", .str "😀")]]) := by
    cbv
  have hcatalog : (text pairText).catalog "<memory>" = .ok [⟨"😀", false, false, [], []⟩] := by
    refine (catalog_eq_ok_iff (show (text pairText).Holds _ from hread)).mpr ?_
    rfl
  exact ⟨hcatalog, by decide +kernel, (catalog_encoded hcatalog (by decide)).2⟩

end Payload

end FeatureToggles
