import FeatureToggles.Catalog.Record
import FeatureToggles.Json.Bytes
import FeatureToggles.Json.Value
import FeatureToggles.Fault

/-!
# Catalog documents

A catalog document is a JSON array of records, given as a text or as bytes.  It is read as a whole or
not at all: the fault of a document that is refused names the source, and where records are at fault
it lists every issue.

Main statements: whatever is refused is a fault of the catalog with the source in its details
(`report?_fault`), and exactly the arrays of records without issues are catalogs
(`ofJson_eq_ok_iff`).
-/

namespace FeatureToggles

/-- The fault of an error in the way in which a text is encoded. -/
def Fault.ofDecodeError (e : Text.DecodeError) : Fault :=
  match e with
  | .noMark _ => .other .text e.message
  | _ => .other .decoding e.message

/-- The fault of a text that is not JSON.  Where a value was expected the reader had run out of
data, at a place that is told by its index. -/
def Fault.ofReadError (e : Json.ReadError) : Fault :=
  match e with
  | .flaw .expectingValue index _ _ =>
    .mk (.other .jsonDecoding e.message) none (some (.other .endOfData (toString index)))
  | .flaw .. => .other .jsonDecoding e.message
  | .oversizedInteger _ => .other .value e.message

namespace Catalog

/-- The fault of a document from a source. -/
def fault (source message : String) (details : Json.Fields) (cause : Option Fault) : Fault :=
  .mk (.catalog message (some source) details) cause none

/-- The fault of a document that is not JSON, by the text of the error that tells so. -/
def notJson (source text : String) (cause : Fault) : Fault :=
  fault source ("Feature catalog is not valid JSON: " ++ text) [] (some cause)

/-- What the items of a document are expected to be. -/
def recordsTitle : String := "list[FeatureRecord]"

/-- The fault of a document whose records have issues. -/
def invalid (source : String) (issues : List Issue) : Fault :=
  fault source ("Feature catalog has invalid records: " ++ toString issues.length ++ " error(s)")
    [("errors", .arr (issues.map Issue.toJson))] (some (.of (.invalid recordsTitle issues)))

/-- The catalog that a JSON value holds. -/
def ofJson (source : String) : Json → Except Fault Catalog
  | .arr items =>
    match Record.features items with
    | .ok catalog => .ok catalog
    | .error issues => .error (invalid source issues)
  | j =>
    .error (fault source ("Feature catalog must be a JSON array, got " ++ j.toValue.typeName) [] none)

/-- The catalog that a text holds. -/
def ofText (source : String) (cs : List Char) : Except Fault Catalog :=
  match Json.ofChars cs with
  | .error e => .error (notJson source e.message (.ofReadError e))
  | .ok j => ofJson source j

/-- The catalog that bytes hold. -/
def ofBytes (source : String) (bs : List UInt8) : Except Fault Catalog :=
  match Json.ofBytes bs with
  | .error (.undecodable e) => .error (notJson source e.message (.ofDecodeError e))
  | .error (.notJson e) => .error (notJson source e.message (.ofReadError e))
  | .ok j => ofJson source j

/-- The source that is named for documents that come from nowhere else. -/
def memorySource : String := "<memory>"

/-! ## Lemmas -/

theorem ofJson_eq_ok_iff {source : String} {j : Json} {catalog : Catalog} :
    ofJson source j = .ok catalog ↔ ∃ items, j = .arr items ∧ Record.features items = .ok catalog := by
  unfold ofJson
  split
  · split <;> simp_all
  · next h =>
    constructor
    · intro hok
      cases hok
    · rintro ⟨items, hitems, _⟩
      exact absurd hitems (h items)

theorem report?_fault (source message : String) (details : Json.Fields) (cause : Option Fault)
    (h : (details.get? "source").isSome = false) :
    (fault source message details cause).failure.report? =
      some ⟨"CATALOG_ERROR", message, 503, details ++ [("source", .str source)]⟩ := by
  simp [fault, Fault.failure, Failure.report?, h]

end Catalog

end FeatureToggles
