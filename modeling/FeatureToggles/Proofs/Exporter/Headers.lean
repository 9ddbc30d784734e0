import FeatureToggles.Exporter
import FeatureToggles.Proofs.Lookup
import FeatureToggles.Proofs.Text.Padding
import Mathlib.Data.List.Induction

/-!
# Headers as a text

Headers are written in segments between commas.  Each header is a segment of its own, with any white space
around its key and its value, and other segments, which write no header, may stand anywhere between them.
The text is read back as the headers that were written, and of those with one key the last counts.

Main statement: `headers_read_back`.
-/

namespace FeatureToggles

namespace Exporter

/-! ## Segments -/

/-- Whether a key and a value make a header: what separates the parts of the text is not in them, no white
space is at their ends, and the key is there. -/
structure IsHeader (key value : List Char) : Prop where
  key_ne_nil : key ≠ []
  key_trimmed : Text.IsTrimmed key
  comma_not_mem_key : ',' ∉ key
  equals_not_mem_key : '=' ∉ key
  value_trimmed : Text.IsTrimmed value
  comma_not_mem_value : ',' ∉ value

/-- The segments that write a header, with white space around its key and its value. -/
inductive Writes (key value : List Char) : List Char → Prop
  | intro {before after before' after' : List Char} :
      IsHeader key value → Text.IsPadding before → Text.IsPadding after → Text.IsPadding before' →
      Text.IsPadding after' →
      Writes key value (before ++ key ++ after ++ '=' :: (before' ++ value ++ after'))

/-- The segments that write no header: those without an equals sign, the empty one among them, and those
with white space for a key. -/
inductive Idle : List Char → Prop
  | bare {segment : List Char} : ',' ∉ segment → '=' ∉ segment → Idle segment
  | keyless {padding rest : List Char} : Text.IsPadding padding → ',' ∉ rest →
      Idle (padding ++ '=' :: rest)

/-- How segments write headers, in order. -/
inductive Written : List (List Char) → List (String × String) → Prop
  | nil : Written [] []
  | header {segment : List Char} {segments : List (List Char)} {headers : List (String × String)}
      {key value : String} :
      Writes key.toList value.toList segment → Written segments headers →
      Written (segment :: segments) ((key, value) :: headers)
  | idle {segment : List Char} {segments : List (List Char)} {headers : List (String × String)} :
      Idle segment → Written segments headers → Written (segment :: segments) headers

section

variable {key value segment : List Char} {segments : List (List Char)}
  {headers : List (String × String)}

lemma Writes.comma_not_mem (h : Writes key value segment) : ',' ∉ segment := by
  obtain ⟨hheader, hbefore, hafter, hbefore', hafter'⟩ := h
  have hcomma : Text.isBlank ',' = false := by decide
  simp [hbefore.not_mem hcomma, hafter.not_mem hcomma, hbefore'.not_mem hcomma,
    hafter'.not_mem hcomma, hheader.comma_not_mem_key, hheader.comma_not_mem_value]

lemma Idle.comma_not_mem (h : Idle segment) : ',' ∉ segment := by
  cases h with
  | bare hcomma _ => exact hcomma
  | keyless hpadding hrest => simp [hpadding.not_mem (c := ',') (by decide), hrest]

lemma Written.comma_not_mem (h : Written segments headers) : ∀ segment ∈ segments, ',' ∉ segment := by
  induction h with
  | nil => simp
  | header hwrites _ ih => simpa [hwrites.comma_not_mem] using ih
  | idle hidle _ ih => simpa [hidle.comma_not_mem] using ih

/-- A segment is divided at its first equals sign. -/
lemma header?_append {left right : List Char} (h : '=' ∉ left) :
    header? (left ++ '=' :: right) =
      if (Text.trim left).isEmpty then none else some (Text.trim left, Text.trim right) := by
  have hleft : ∀ c ∈ left, (c != '=') = true := by
    intro c hc
    simpa using ne_of_mem_of_not_mem hc h
  have hkey : (left ++ '=' :: right).takeWhile (· != '=') = left := by
    rw [List.takeWhile_append_of_pos hleft]
    simp
  have hvalue : (left ++ '=' :: right).dropWhile (· != '=') = '=' :: right := by
    rw [List.dropWhile_append_of_pos hleft]
    simp
  simp [header?, hkey, hvalue]

lemma Writes.header?_eq (h : Writes key value segment) : header? segment = some (key, value) := by
  obtain ⟨hheader, hbefore, hafter, hbefore', hafter'⟩ := h
  have hequals : Text.isBlank '=' = false := by decide
  rw [header?_append (by
      simp [hbefore.not_mem hequals, hafter.not_mem hequals, hheader.equals_not_mem_key]),
    Text.trim_padded hbefore hheader.key_trimmed hafter,
    Text.trim_padded hbefore' hheader.value_trimmed hafter']
  simp [hheader.key_ne_nil]

lemma Idle.header?_eq (h : Idle segment) : header? segment = none := by
  cases h with
  | bare _ hequals => exact header?_of_not_mem hequals
  | keyless hpadding _ =>
      rw [header?_append (hpadding.not_mem (by decide)), Text.trim_padding hpadding]
      rfl

lemma Written.filterMap_header? (h : Written segments headers) :
    segments.filterMap header? = headers.map fun header => (header.1.toList, header.2.toList) := by
  induction h with
  | nil => rfl
  | header hwrites _ ih => simp [hwrites.header?_eq, ih]
  | idle hidle _ ih => simp [hidle.header?_eq, ih]

/-! ## Setting headers one after the other -/

variable {name text : String}

lemma mem_keys_setHeader {other : String} :
    other ∈ (setHeader headers name text).map (·.1) ↔ other = name ∨ other ∈ headers.map (·.1) := by
  induction headers with
  | nil => simp [setHeader]
  | cons header rest ih =>
      by_cases h : header.1 = name
      · simp [setHeader, h]
      · rw [setHeader, if_neg h, List.map_cons, List.mem_cons, ih, List.map_cons, List.mem_cons]
        tauto

/-- No key stands twice after a header is set if none did before. -/
lemma nodup_keys_setHeader (h : (headers.map (·.1)).Nodup) :
    ((setHeader headers name text).map (·.1)).Nodup := by
  induction headers with
  | nil => simp [setHeader]
  | cons header rest ih =>
      rw [List.map_cons, List.nodup_cons] at h
      by_cases hkey : header.1 = name
      · rw [setHeader, if_pos hkey, List.map_cons, List.nodup_cons, ← hkey]
        exact h
      · rw [setHeader, if_neg hkey, List.map_cons, List.nodup_cons, mem_keys_setHeader]
        exact ⟨not_or.mpr ⟨hkey, h.1⟩, ih h.2⟩

/-- The header that is set takes the place of that with its key, and the others stay. -/
lemma mem_setHeader (h : (headers.map (·.1)).Nodup) {header : String × String} :
    header ∈ setHeader headers name text ↔
      (name, text) = header ∨ name ≠ header.1 ∧ header ∈ headers := by
  induction headers with
  | nil => simp [setHeader, eq_comm]
  | cons first rest ih =>
      rw [List.map_cons, List.nodup_cons] at h
      by_cases hkey : first.1 = name
      · rw [setHeader, if_pos hkey, List.mem_cons, List.mem_cons]
        have hrest : header ∈ rest → name ≠ header.1 := by
          rintro hmem heq
          exact h.1 (List.mem_map.mpr ⟨header, hmem, (hkey.trans heq).symm⟩)
        have hfirst : header = first → name = header.1 := by
          rintro rfl
          exact hkey.symm
        constructor
        · rintro (heq | hmem)
          · exact .inl heq.symm
          · exact .inr ⟨hrest hmem, .inr hmem⟩
        · rintro (heq | ⟨hne, heq | hmem⟩)
          · exact .inl heq.symm
          · exact absurd (hfirst heq) hne
          · exact .inr hmem
      · rw [setHeader, if_neg hkey, List.mem_cons, List.mem_cons, ih h.2]
        have hfirst : header = first → name ≠ header.1 := by
          rintro rfl
          exact Ne.symm hkey
        tauto

/-- A key that is not there is set at the end. -/
lemma setHeader_of_not_mem (h : name ∉ headers.map (·.1)) :
    setHeader headers name text = headers ++ [(name, text)] := by
  induction headers with
  | nil => rfl
  | cons header rest ih =>
      rw [List.map_cons, List.mem_cons, not_or] at h
      rw [setHeader, if_neg (Ne.symm h.1), ih h.2, List.cons_append]

/-- Headers set one after the other. -/
def setAll (headers : List (String × String)) : List (String × String) :=
  headers.foldl (fun headers header => setHeader headers header.1 header.2) []

lemma setAll_append_singleton (header : String × String) :
    setAll (headers ++ [header]) = setHeader (setAll headers) header.1 header.2 := by
  simp [setAll]

lemma nodup_keys_setAll : ((setAll headers).map (·.1)).Nodup := by
  induction headers using List.reverseRecOn with
  | nil => simp [setAll]
  | append_singleton headers header ih =>
      rw [setAll_append_singleton]
      exact nodup_keys_setHeader ih

/-- Of the headers with one key the last is there. -/
lemma mem_setAll : (name, text) ∈ setAll headers ↔ IsLast headers name text := by
  induction headers using List.reverseRecOn with
  | nil => simp [setAll, not_isLast_nil]
  | append_singleton headers header ih =>
      rw [setAll_append_singleton, mem_setHeader nodup_keys_setAll, isLast_append_singleton, ih]

/-- Headers with keys of their own are there in their order. -/
lemma setAll_of_nodup (h : (headers.map (·.1)).Nodup) : setAll headers = headers := by
  induction headers using List.reverseRecOn with
  | nil => rfl
  | append_singleton headers header ih =>
      rw [List.map_append, List.nodup_append] at h
      have hkey : header.1 ∉ headers.map (·.1) := by
        intro hmem
        exact h.2.2 _ hmem header.1 (by simp) rfl
      rw [setAll_append_singleton, ih h.1, setHeader_of_not_mem hkey]

/-- Without headers nothing is set, and only then. -/
lemma setAll_eq_nil_iff : setAll headers = [] ↔ headers = [] := by
  induction headers using List.reverseRecOn with
  | nil => simp [setAll]
  | append_singleton headers header ih =>
      have hmem : header ∈ setHeader (setAll headers) header.1 header.2 :=
        (mem_setHeader nodup_keys_setAll).mpr (.inl rfl)
      rw [setAll_append_singleton]
      simp [List.ne_nil_of_mem hmem]

/-! ## From the text to the headers -/

/-- The headers that segments write are set one after the other. -/
lemma Written.headersOf_intercalate (h : Written segments headers) :
    headersOf ([','].intercalate segments) = setAll headers := by
  cases segments with
  | nil =>
      cases h
      rfl
  | cons segment segments =>
      rw [headersOf, Text.split_intercalate (by simp) h.comma_not_mem, h.filterMap_header?,
        List.foldl_map, setAll]
      simp only [String.ofList_toList]

end

/-- The text in which headers are written is read back as these headers: of those with one key the last
is there, and no other; no key stands twice; headers with keys of their own are there in their order; and
the exporter is without headers exactly if none is written. -/
theorem headers_read_back {segments : List (List Char)} {headers : List (String × String)}
    (hwritten : Written segments headers) {lookup? : String → Option String}
    (htext : lookup? headersVariable = some (String.ofList ([','].intercalate segments)))
    (endpoint : Option String) :
    (∀ key value, (key, value) ∈ (make endpoint lookup?).headers ↔ IsLast headers key value) ∧
      ((make endpoint lookup?).headers.map (·.1)).Nodup ∧
      ((headers.map (·.1)).Nodup → (make endpoint lookup?).headers = headers) ∧
      ((make endpoint lookup?).headers = [] ↔ headers = []) := by
  have hmake : (make endpoint lookup?).headers = setAll headers := by
    rw [make, htext, Option.getD_some, String.toList_ofList, hwritten.headersOf_intercalate]
  rw [hmake]
  exact ⟨fun _ _ => mem_setAll, nodup_keys_setAll, setAll_of_nodup, setAll_eq_nil_iff⟩

/-- A credential that ends with equals signs is read back whole, beside an empty segment, one without an
equals sign and one without a key; of two tenants the last is there. -/
theorem headers_read_back_credential :
    ("authorization", "Bearer YQ==") ∈ (make none fun _ => some
        " authorization = Bearer YQ== ,,junk, =x,tenant=a,tenant=b").headers ∧
      ("tenant", "b") ∈ (make none fun _ => some
        " authorization = Bearer YQ== ,,junk, =x,tenant=a,tenant=b").headers ∧
      ("tenant", "a") ∉ (make none fun _ => some
        " authorization = Bearer YQ== ,,junk, =x,tenant=a,tenant=b").headers := by
  have hspace : Text.IsPadding [' '] := by decide
  have hnone : Text.IsPadding [] := by decide
  have hcredential : IsHeader "authorization".toList "Bearer YQ==".toList := by
    constructor <;> decide
  have htenantA : IsHeader "tenant".toList "a".toList := by constructor <;> decide
  have htenantB : IsHeader "tenant".toList "b".toList := by constructor <;> decide
  have hempty : Idle [] := .bare (by simp) (by simp)
  have hjunk : Idle "junk".toList := .bare (by decide) (by decide)
  have hkeyless : Idle ([' '] ++ '=' :: ['x']) := .keyless hspace (by decide)
  have hwritten : Written _ [("authorization", "Bearer YQ=="), ("tenant", "a"), ("tenant", "b")] :=
    .header (.intro hcredential hspace hspace hspace hspace) <|
      .idle hempty <| .idle hjunk <| .idle hkeyless <|
      .header (.intro htenantA hnone hnone hnone hnone) <|
      .header (.intro htenantB hnone hnone hnone hnone) .nil
  have hread := (@headers_read_back _ _ hwritten
    (fun _ => some " authorization = Bearer YQ== ,,junk, =x,tenant=a,tenant=b") (by decide +kernel)
    none).1
  have hlast : IsLast ([("authorization", "Bearer YQ=="), ("tenant", "a")] ++ [("tenant", "b")])
      "tenant" "b" := isLast_append_singleton.mpr (.inl rfl)
  refine ⟨(hread _ _).mpr ⟨[], _, rfl, by decide⟩, (hread _ _).mpr hlast, fun h => ?_⟩
  exact absurd (((hread _ _).mp h).unique hlast) (by decide)

end Exporter

end FeatureToggles
