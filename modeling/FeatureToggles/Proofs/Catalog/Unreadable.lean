import FeatureToggles.Proofs.Catalog.Refusal
import FeatureToggles.Proofs.Engine.Coherence
import FeatureToggles.Proofs.Json.Wanting
import Mathlib

/-!
# Evaluations over a text that is not JSON

While a catalog file holds a text that is not JSON every evaluation over it fails, and the causes it
lists are the fault of the catalog and the error of the reader.  If what the reader wanted was a value,
one more cause stands behind these: the error by which it ran out of data, of which its text is the
index.

Main statement: `causes_evaluateOn_of_notJson`.
-/

namespace FeatureToggles

/-! ## Causes -/

namespace Failure

lemma label_of_text_ne {f : Failure} {text : String} (h : f.text = .ok text) (hne : text ≠ "") :
    f.label = .ok text := by
  simp [label, h, Except.map, hne]

end Failure

namespace Fault

lemma label_other_message (kind : ErrorClass) (e : Json.ReadError) :
    (Failure.other kind e.message).label = .ok e.message := by
  refine Failure.label_of_text_ne rfl fun hempty => ?_
  cases e <;> exact absurd (String.append_eq_empty_iff.mp hempty).2 (by decide)

/-- The causes of a text that is not JSON: the error of the reader, and the index at which it wanted a
value, if it wanted one. -/
lemma causes_ofReadError (e : Json.ReadError) :
    (ofReadError e).causes = .ok (e.message :: e.wanted?.toList.map toString) := by
  cases e with
  | oversizedInteger digits =>
      rw [ofReadError, other, causes_of (label_other_message _ _)]
      rfl
  | flaw what index line column =>
      cases what with
      | expectingValue =>
          have hindex : (other .endOfData (toString index)).causes = .ok [toString index] :=
            causes_of (Failure.label_of_text_ne rfl Nat.repr_ne_empty)
          rw [ofReadError, causes_mk_none (label_other_message _ _) hindex]
          rfl
      | _ => exact causes_of (label_other_message _ _)

end Fault

namespace Catalog

/-- The causes of a document that is not JSON: what is told of the document, and the causes of that. -/
lemma causes_notJson (source : String) (e : Json.ReadError) :
    (notJson source e.message (.ofReadError e)).causes =
      .ok (("Feature catalog is not valid JSON: " ++ e.message) :: e.message ::
        e.wanted?.toList.map toString) := by
  rw [notJson, fault]
  refine Fault.causes_mk (Failure.label_of_text_ne rfl fun hempty => ?_)
    (Fault.causes_ofReadError e) none
  exact absurd (String.append_eq_empty_iff.mp hempty).1 (by decide)

end Catalog

namespace Engine

/-- Without a catalog an evaluation fails, and its causes are those of the fault of the fetch. -/
lemma causes_evaluateOn_of_fetch_error {fetched : Fetched} {cause : Fault} {causes : List String}
    (h : fetched.outcome = .error cause) (hcauses : cause.causes = .ok causes) (name : String)
    (value : Value) :
    ∃ fault f report, (evaluateOn fetched name value).1 = .error fault ∧
      fault.Describes f report ∧ f.feature = name ∧ f.reason = .evaluationFailed ∧
      fault.causes.map List.tail = .ok causes := by
  obtain ⟨message, causes', hcauses', hresult⟩ := evaluateOn_of_fetch_error h
    ((Fault.hasTexts_iff cause).mpr ⟨causes, hcauses⟩) name value
  obtain rfl := Except.ok.inj (hcauses.symm.trans hcauses')
  obtain ⟨f, report, hdescribes⟩ := @isCoherent_of_causes name message cause causes hcauses
  obtain rfl := Failure.feature.inj hdescribes.failure
  exact ⟨_, _, report, hresult, hdescribes, rfl, rfl, by rw [Fault.causes_mk rfl hcauses]; rfl⟩

/-- While a catalog file holds a text that is not JSON, an evaluation over it fails for the error of the
reader. -/
lemma exists_causes_evaluateOn {file : CatalogFile} {bs : List UInt8} {cs : List Char}
    {e : Json.ReadError} (hdecode : file.decode bs = .ok cs)
    (hjson : Json.ofChars cs = .error e) (name : String) (value : Value) :
    ∃ fault f report causes, (evaluateOn (file.fetch (.content bs)) name value).1 = .error fault ∧
      fault.Describes f report ∧ f.feature = name ∧ f.reason = .evaluationFailed ∧
      fault.causes.map List.tail = .ok causes ∧
      report.details.get? "causes" = some (Failure.texts causes) ∧
      causes = ["Feature catalog is not valid JSON: " ++ e.message, e.message] ++
        e.wanted?.toList.map toString := by
  have houtcome : (file.fetch (.content bs)).outcome =
      .error (Catalog.notJson file.path e.message (.ofReadError e)) := by
    rw [CatalogFile.outcome_fetch_of_decode_ok hdecode, Catalog.ofText, hjson]
  obtain ⟨fault, f, report, hfault, hdescribes, hname, hreason, hcauses⟩ :=
    causes_evaluateOn_of_fetch_error houtcome (Catalog.causes_notJson file.path e) name value
  obtain ⟨causes, hcauses', -, hdetail⟩ := hdescribes.causes hreason
  obtain rfl := Except.ok.inj (hcauses.symm.trans hcauses')
  exact ⟨fault, f, report, _, hfault, hdescribes, hname, hreason, hcauses, hdetail, rfl⟩

/-- While a catalog file holds a text that is not JSON, an evaluation over it fails, and the causes in
its details are what is told of the catalog and the error of the reader, and then the index of the
place where a value was wanted, if the text comes to such a place.  So there are two causes exactly if
it does not. -/
theorem causes_evaluateOn_of_notJson {file : CatalogFile} {bs : List UInt8} {cs : List Char}
    (hdecode : file.decode bs = .ok cs) (hjson : ∀ j, Json.ofChars cs ≠ .ok j)
    (name : String) (value : Value) :
    ∃ fault f report e causes behind,
      (evaluateOn (file.fetch (.content bs)) name value).1 = .error fault ∧
        fault.Describes f report ∧ f.feature = name ∧ f.reason = .evaluationFailed ∧
        Json.ofChars cs = .error e ∧
        fault.causes.map List.tail = .ok causes ∧
        report.details.get? "causes" = some (Failure.texts causes) ∧
        causes = ["Feature catalog is not valid JSON: " ++ e.message, e.message] ++ behind ∧
        (∀ index, Json.WantsAt cs index → behind = [toString index]) ∧
        (behind = [] ↔ ∀ index, ¬ Json.WantsAt cs index) := by
  obtain ⟨e, he⟩ : ∃ e, Json.ofChars cs = .error e := by
    cases h : Json.ofChars cs with
    | error e => exact ⟨e, rfl⟩
    | ok j => exact absurd h (hjson j)
  obtain ⟨fault, f, report, causes, hfault, hdescribes, hname, hreason, htail, hdetail, hcauses⟩ :=
    exists_causes_evaluateOn hdecode he name value
  refine ⟨fault, f, report, e, causes, e.wanted?.toList.map toString, hfault, hdescribes, hname,
    hreason, he, htail, hdetail, hcauses, ?_, ?_⟩
  · intro index hwants
    rw [(Json.wanted?_eq_some_iff he).mpr hwants]
    rfl
  · simp only [← Json.wanted?_eq_some_iff he]
    cases e.wanted? <;> simp

/-- Where nothing but the end of the text was expected, nothing stands behind the two causes. -/
theorem causes_evaluateOn_of_extra_data :
    (CatalogFile.ofPath "features.json" CatalogFile.defaultEncoding).decode
        "[]]".toUTF8.toList = .ok "[]]".toList ∧
      (∀ j, Json.ofChars "[]]".toList ≠ .ok j) ∧
      ∃ fault, (evaluateOn ((CatalogFile.ofPath "features.json" CatalogFile.defaultEncoding).fetch
          (.content "[]]".toUTF8.toList)) "a" .null).1 = .error fault ∧
        fault.causes.map List.tail =
          .ok ["Feature catalog is not valid JSON: " ++ "Extra data: line 1 column 3 (char 2)",
            "Extra data: line 1 column 3 (char 2)"] := by
  have hdecode : (CatalogFile.ofPath "features.json" CatalogFile.defaultEncoding).decode
      "[]]".toUTF8.toList = .ok "[]]".toList := by
    rw [CatalogFile.decode_usual]
    cbv
  have hread : Json.ofChars "[]]".toList = .error (.flaw .extraData 2 1 3) := by cbv
  have hjson : ∀ j, Json.ofChars "[]]".toList ≠ .ok j := by
    intro j
    rw [hread]
    simp
  obtain ⟨fault, f, report, e, causes, behind, hfault, -, -, -, he, htail, -, hcauses, -, hbehind⟩ :=
    causes_evaluateOn_of_notJson hdecode hjson "a" .null
  obtain rfl := Except.error.inj (hread.symm.trans he)
  have hnone : behind = [] := by
    refine hbehind.mpr fun index hwants => ?_
    have hindex := (Json.wanted?_eq_some_iff he).mpr hwants
    simp [Json.ReadError.wanted?] at hindex
  have hmessage : (Json.ReadError.flaw .extraData 2 1 3).message =
      "Extra data: line 1 column 3 (char 2)" := by decide
  rw [hnone, List.append_nil, hmessage] at hcauses
  exact ⟨hdecode, hjson, fault, hfault, hcauses ▸ htail⟩

/-- A text that begins with no value has a third cause behind the two. -/
theorem causes_evaluateOn_of_no_value :
    (CatalogFile.ofPath "features.json" CatalogFile.defaultEncoding).decode
        "not json".toUTF8.toList = .ok "not json".toList ∧
      (∀ j, Json.ofChars "not json".toList ≠ .ok j) ∧
      ∃ fault report, (evaluateOn ((CatalogFile.ofPath "features.json"
          CatalogFile.defaultEncoding).fetch (.content "not json".toUTF8.toList)) "a" .null).1 =
            .error fault ∧
        fault.failure.report? = some report ∧
        report.details.get? "causes" = some (Failure.texts
          ["Feature catalog is not valid JSON: " ++ "Expecting value: line 1 column 1 (char 0)",
            "Expecting value: line 1 column 1 (char 0)", "0"]) := by
  have hdecode : (CatalogFile.ofPath "features.json" CatalogFile.defaultEncoding).decode
      "not json".toUTF8.toList = .ok "not json".toList := by
    rw [CatalogFile.decode_usual]
    cbv
  have hread : Json.ofChars "not json".toList = .error (.flaw .expectingValue 0 1 1) := by cbv
  obtain ⟨fault, f, report, causes, hfault, hdescribes, -, -, -, hdetail, hcauses⟩ :=
    exists_causes_evaluateOn hdecode hread "a" .null
  have hmessage : (Json.ReadError.flaw .expectingValue 0 1 1).message =
      "Expecting value: line 1 column 1 (char 0)" := by decide
  refine ⟨hdecode, fun j => ?_, fault, report, hfault, hdescribes.reported, ?_⟩
  · rw [hread]
    simp
  · rw [hdetail, hcauses, hmessage]
    rfl

end Engine

end FeatureToggles
