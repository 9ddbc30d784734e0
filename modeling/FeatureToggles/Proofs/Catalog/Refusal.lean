import FeatureToggles.Catalog.File
import FeatureToggles.Proofs.Fault.Asking
import Mathlib

/-!
# How the catalog of a file is refused

A fetch gives a catalog or fails.  What stands at the path and cannot be opened, a text that is not
JSON, and a document that holds no catalog are faults of the catalog, which name the path.  Between the
opening of the file and the reading of its text stands the decoding of its bytes, and its faults go
through as they are: an encoding that is not known, and bytes that are not a text of the encoding.  So do
those of paths and encodings that cannot be names.  None of these faults is without a text.

Main statements: `outcome_fetch` and `hasTexts_of_fetch`.
-/

namespace FeatureToggles

/-- Whether a fault is one of the catalog from a source, and reported as such. -/
structure Fault.IsOfCatalog (fault : Fault) (source : String) : Prop where
  failure : ∃ message details, fault.failure = .catalog message (some source) details
  report : ∃ message details, fault.failure.report? = some ⟨"CATALOG_ERROR", message, 503, details⟩ ∧
    details.get? "source" = some (.str source)

namespace Fault

lemma hasTexts_ofDecodeError (e : Text.DecodeError) : (ofDecodeError e).HasTexts := by
  cases e <;> exact (isTellable_other _ _).hasTexts

lemma hasTexts_ofReadError (e : Json.ReadError) : (ofReadError e).HasTexts := by
  unfold ofReadError
  split
  · refine hasTexts_mk rfl (by simp) fun before hbefore => ?_
    obtain rfl := Option.some.inj hbefore
    exact (isTellable_other _ _).hasTexts
  · exact (isTellable_other _ _).hasTexts
  · exact (isTellable_other _ _).hasTexts

end Fault

namespace Catalog

variable {source : String} {f : Fault}

/-- Faults of a document are faults of the catalog, unless their details name another source. -/
lemma isOfCatalog_fault (message : String) (details : Json.Fields) (cause : Option Fault)
    (h : details.get? "source" = none) :
    (fault source message details cause).IsOfCatalog source := by
  refine ⟨⟨message, details, rfl⟩, message, _,
    report?_fault source message details cause (by simp [h]), ?_⟩
  have hnone : details.find? (fun field => field.1 == "source") = none := by
    simpa [Json.Fields.get?] using h
  simp [Json.Fields.get?, List.find?_append, hnone]

lemma isOfCatalog_of_ofJson {j : Json} (h : ofJson source j = .error f) : f.IsOfCatalog source := by
  unfold ofJson at h
  split at h
  · split at h
    · simp at h
    · obtain rfl := Except.error.inj h
      exact isOfCatalog_fault _ _ _ rfl
  · obtain rfl := Except.error.inj h
    exact isOfCatalog_fault _ _ _ rfl

/-- A text that is refused is a fault of the catalog. -/
lemma isOfCatalog_of_ofText {cs : List Char} (h : ofText source cs = .error f) :
    f.IsOfCatalog source := by
  unfold ofText at h
  split at h
  · obtain rfl := Except.error.inj h
    exact isOfCatalog_fault _ _ _ rfl
  · exact isOfCatalog_of_ofJson h

/-- Bytes that are refused are a fault of the catalog, also where they cannot be decoded. -/
lemma isOfCatalog_of_ofBytes {bs : List UInt8} (h : ofBytes source bs = .error f) :
    f.IsOfCatalog source := by
  unfold ofBytes at h
  split at h
  · obtain rfl := Except.error.inj h
    exact isOfCatalog_fault _ _ _ rfl
  · obtain rfl := Except.error.inj h
    exact isOfCatalog_fault _ _ _ rfl
  · exact isOfCatalog_of_ofJson h

/-! ### Texts -/

lemma hasTexts_fault {message : String} {details : Json.Fields} {cause : Option Fault}
    (h : ∀ e, cause = some e → e.HasTexts) : (fault source message details cause).HasTexts :=
  Fault.hasTexts_mk rfl h (by simp)

lemma hasTexts_of_ofJson {j : Json} (h : ofJson source j = .error f) : f.HasTexts := by
  unfold ofJson at h
  split at h
  · split at h
    · simp at h
    · obtain rfl := Except.error.inj h
      refine hasTexts_fault fun cause hcause => ?_
      obtain rfl := Option.some.inj hcause
      exact Fault.hasTexts_mk rfl (by simp) (by simp)
  · obtain rfl := Except.error.inj h
    exact hasTexts_fault (by simp)

/-- A text that is refused tells why. -/
lemma hasTexts_of_ofText {cs : List Char} (h : ofText source cs = .error f) : f.HasTexts := by
  unfold ofText at h
  split at h
  · obtain rfl := Except.error.inj h
    refine hasTexts_fault fun cause hcause => ?_
    obtain rfl := Option.some.inj hcause
    exact Fault.hasTexts_ofReadError _
  · exact hasTexts_of_ofJson h

end Catalog

namespace CatalogFile

/-- The classes of the faults of names and of decoding. -/
def decodingClasses : List ErrorClass := [.lookup, .decoding, .text, .value]

/-- Whether a fault is of one of these classes. -/
def IsOfDecoding (fault : Fault) : Prop :=
  ∃ kind ∈ decodingClasses, ∃ text, fault.failure = .other kind text

variable {file : CatalogFile} {state : FileState} {bs : List UInt8} {f : Fault}

lemma isOfDecoding_of_misnamed (h : file.misnamed? = some f) : IsOfDecoding f := by
  unfold misnamed? at h
  split_ifs at h
  all_goals
    obtain rfl := Option.some.inj h
    exact ⟨.value, by simp [decodingClasses], _, rfl⟩

/-- What is wrong with bytes or with their encoding is no fault of the catalog. -/
lemma isOfDecoding_of_decode (h : file.decode bs = .error f) : IsOfDecoding f := by
  unfold decode at h
  split at h
  · rename_i hmisnamed
    obtain rfl := Except.error.inj h
    exact isOfDecoding_of_misnamed hmisnamed
  · obtain rfl := Except.error.inj h
    exact ⟨.lookup, by simp [decodingClasses], _, rfl⟩
  · split at h
    · rename_i e _
      obtain rfl := Except.error.inj h
      cases e with
      | flawed | told => exact ⟨.decoding, by simp [decodingClasses], _, rfl⟩
      | noMark => exact ⟨.text, by simp [decodingClasses], _, rfl⟩
    · simp at h

lemma not_isOfCatalog_of_isOfDecoding {source : String} (h : IsOfDecoding f) :
    ¬ f.IsOfCatalog source := by
  rintro ⟨⟨message, details, hcatalog⟩, -⟩
  obtain ⟨kind, -, text, hother⟩ := h
  rw [hother] at hcatalog
  cases hcatalog

/-- What is decoded stands in a file that can be looked for. -/
lemma misnamed?_of_decode {cs : List Char} (h : file.decode bs = .ok cs) :
    file.misnamed? = none := by
  unfold decode at h
  cases hmisnamed : file.misnamed? with
  | none => rfl
  | some fault => simp [hmisnamed] at h

/-! ## Texts -/

lemma hasTexts_of_misnamed (h : file.misnamed? = some f) : f.HasTexts := by
  unfold misnamed? at h
  split_ifs at h
  all_goals
    obtain rfl := Option.some.inj h
    exact (Fault.isTellable_other _ _).hasTexts

lemma hasTexts_of_decode (h : file.decode bs = .error f) : f.HasTexts := by
  unfold decode at h
  split at h
  · rename_i hmisnamed
    obtain rfl := Except.error.inj h
    exact hasTexts_of_misnamed hmisnamed
  · obtain rfl := Except.error.inj h
    exact (Fault.isTellable_other _ _).hasTexts
  · split at h
    · obtain rfl := Except.error.inj h
      exact Fault.hasTexts_ofDecodeError _
    · simp at h

/-- A fetch that fails tells why. -/
theorem hasTexts_of_fetch (h : (file.fetch state).outcome = .error f) : f.HasTexts := by
  unfold fetch at h
  split at h
  · rename_i hmisnamed
    obtain rfl := Except.error.inj h
    exact hasTexts_of_misnamed hmisnamed
  · rename_i e _ _
    obtain rfl := Except.error.inj h
    refine Catalog.hasTexts_fault fun cause hcause => ?_
    obtain rfl := Option.some.inj hcause
    exact (Fault.isTellable_other _ _).hasTexts
  · split at h
    · rename_i hparse
      obtain rfl := Except.error.inj h
      unfold parse at hparse
      split at hparse
      · obtain rfl := Except.error.inj hparse
        exact hasTexts_of_decode ‹_›
      · exact Catalog.hasTexts_of_ofText hparse
    · simp at h

/-! ## Fetching -/

/-- A path at which there is nothing to read is a fault of the catalog. -/
lemma isOfCatalog_of_read {e : OpenError} (hnamed : file.misnamed? = none)
    (h : read file.path state = .error e) :
    ∃ fault, (file.fetch state).outcome = .error fault ∧ fault.IsOfCatalog file.path := by
  refine ⟨Catalog.fault file.path ("Cannot read feature catalog: " ++ e.text) [] (some e.fault), ?_, ?_⟩
  · simp only [fetch, hnamed, h]
  · exact Catalog.isOfCatalog_fault _ _ _ rfl

/-- A file that cannot be looked for is a fault of its own, whatever stands at the path. -/
lemma outcome_fetch_of_misnamed (h : file.misnamed? = some f) :
    (file.fetch state).outcome = .error f := by
  rw [fetch, h]

/-- The faults of decoding go through. -/
lemma outcome_fetch_of_decode_error (h : file.decode bs = .error f) :
    (file.fetch (.content bs)).outcome = .error f := by
  cases hnamed : file.misnamed? with
  | none => simp [fetch, hnamed, read, parse, h]
  | some fault =>
      obtain rfl : fault = f := by simpa [decode, hnamed] using h
      exact outcome_fetch_of_misnamed hnamed

/-- Once its bytes are decoded, a file gives what its text holds. -/
lemma outcome_fetch_of_decode_ok {cs : List Char} (h : file.decode bs = .ok cs) :
    (file.fetch (.content bs)).outcome = Catalog.ofText file.path cs := by
  simp only [fetch, misnamed?_of_decode h, read, parse, h]
  cases Catalog.ofText file.path cs <;> rfl

/-- A fetch gives a catalog, or a fault of the catalog that names the path, or the fault by which the
path or the encoding is no name, or else the fault by which the bytes at the path are no text in the
encoding of the file.  The last two ways are the only ones on which a fault of another kind escapes; they
are closed exactly if path and encoding are names, and no bytes stand at the path or those that do can be
decoded. -/
theorem outcome_fetch (file : CatalogFile) (state : FileState) :
    ((∃ catalog, (file.fetch state).outcome = .ok catalog) ∨
      (∃ fault, (file.fetch state).outcome = .error fault ∧ fault.IsOfCatalog file.path) ∨
      (∃ fault, file.misnamed? = some fault ∧ (file.fetch state).outcome = .error fault ∧
        ∃ kind ∈ decodingClasses, ∃ text, fault.failure = .other kind text) ∨
      ∃ bs fault, state = .content bs ∧ file.decode bs = .error fault ∧
        (file.fetch state).outcome = .error fault ∧
        ∃ kind ∈ decodingClasses, ∃ text, fault.failure = .other kind text) ∧
    ((∀ fault, (file.fetch state).outcome = .error fault → fault.IsOfCatalog file.path) ↔
      file.misnamed? = none ∧ ∀ bs, state = .content bs → ∃ cs, file.decode bs = .ok cs) := by
  cases hnamed : file.misnamed? with
  | some f =>
      have houtcome := @outcome_fetch_of_misnamed file state f hnamed
      have hclass := isOfDecoding_of_misnamed hnamed
      refine ⟨.inr (.inr (.inl ⟨f, rfl, houtcome, hclass⟩)), fun h => ?_, fun h => nomatch h.1⟩
      exact absurd (h f houtcome) (not_isOfCatalog_of_isOfDecoding hclass)
  | none =>
  cases hread : read file.path state with
  | error e =>
      obtain ⟨fault, hfault, hcatalog⟩ := isOfCatalog_of_read hnamed hread
      refine ⟨.inr (.inl ⟨fault, hfault, hcatalog⟩), fun _ => ⟨rfl, fun bs hbs => ?_⟩,
        fun _ fault' h => ?_⟩
      · subst hbs
        simp [read] at hread
      · obtain rfl := Except.error.inj (hfault.symm.trans h)
        exact hcatalog
  | ok bs =>
      obtain rfl : state = .content bs := by
        cases state <;> simp_all [read]
      cases hdecode : file.decode bs with
      | error f =>
          have houtcome := outcome_fetch_of_decode_error hdecode
          have hclass := isOfDecoding_of_decode hdecode
          refine ⟨.inr (.inr (.inr ⟨bs, f, rfl, hdecode, houtcome, hclass⟩)),
            fun h => ?_, fun h => ?_⟩
          · exact absurd (h f houtcome) (not_isOfCatalog_of_isOfDecoding hclass)
          · obtain ⟨cs, hcs⟩ := h.2 bs rfl
            simp [hdecode] at hcs
      | ok cs =>
          have houtcome := outcome_fetch_of_decode_ok hdecode
          have hcatalog : ∀ fault, (file.fetch (.content bs)).outcome = .error fault →
              fault.IsOfCatalog file.path := by
            intro fault h
            exact Catalog.isOfCatalog_of_ofText (houtcome.symm.trans h)
          refine ⟨?_, fun _ => ⟨rfl, fun bs' hbs' => ?_⟩, fun _ => hcatalog⟩
          · cases htext : (file.fetch (.content bs)).outcome with
            | ok catalog => exact .inl ⟨catalog, rfl⟩
            | error fault => exact .inr (.inl ⟨fault, rfl, hcatalog fault htext⟩)
          · obtain rfl := FileState.content.inj hbs'
            exact ⟨cs, hdecode⟩

lemma decode_of_ofName {encoding : Text.Encoding} (hnamed : file.misnamed? = none)
    (hname : Text.Encoding.ofName? file.encoding = some encoding) (bs : List UInt8) :
    file.decode bs = ((Text.decode encoding .refuse bs).mapError .ofDecodeError).map
      Text.unifyNewlines := by
  simp only [decode, hnamed, reader?, hname]
  cases Text.decode encoding .refuse bs <;> rfl

/-- The file that a service is usually given is read as UTF-8. -/
lemma decode_usual (bs : List UInt8) :
    (ofPath "features.json" defaultEncoding).decode bs =
      ((Text.decode .utf8 .refuse bs).mapError .ofDecodeError).map Text.unifyNewlines := by
  have hnamed : (ofPath "features.json" defaultEncoding).misnamed?.isNone = true := by
    decide +kernel
  exact decode_of_ofName (Option.isNone_iff_eq_none.mp hnamed) (by decide +kernel) bs

/-- A byte that begins no character of UTF-8 is a fault of its own. -/
theorem outcome_fetch_of_undecodable :
    ∃ fault, ((ofPath "features.json" defaultEncoding).fetch (.content [0xFF])).outcome =
        .error fault ∧
      fault.failure = .other .decoding
        "'utf-8' codec can't decode byte 0xff in position 0: invalid start byte" ∧
      ¬ fault.IsOfCatalog "features.json" := by
  have hdecode : (ofPath "features.json" defaultEncoding).decode [0xFF] = .error (.other .decoding
      "'utf-8' codec can't decode byte 0xff in position 0: invalid start byte") := by
    rw [decode_usual]
    cbv
  exact ⟨_, outcome_fetch_of_decode_error hdecode, rfl,
    not_isOfCatalog_of_isOfDecoding (isOfDecoding_of_decode hdecode)⟩

end CatalogFile

end FeatureToggles
