import FeatureToggles.Json.Parser
import FeatureToggles.Text.Decoding

/-!
# JSON in bytes

A JSON document that is given as bytes may be written in any encoding of the Unicode family.  The
encoding is told by the mark at the beginning; without one it is told by where the zero bytes are
among the first four, since a document begins with ASCII characters.

Main statement: bytes without zeros among the first two, and without a mark, are read as UTF-8
(`encodingOf_two`).
-/

namespace FeatureToggles

namespace Json

open Text (Encoding ByteOrder DecodeError)

/-- The encoding that a mark at the beginning of some bytes tells.  The mark of the little UTF-32
begins with that of the little UTF-16, so it comes first. -/
def markedEncoding? (bs : List UInt8) : Option Encoding :=
  if (Encoding.utf32 .big).mark.isPrefixOf bs || (Encoding.utf32 .little).mark.isPrefixOf bs then
    some .utf32Marked
  else if (Encoding.utf16 .big).mark.isPrefixOf bs || (Encoding.utf16 .little).mark.isPrefixOf bs
  then some .utf16Marked
  else if Encoding.utf8.mark.isPrefixOf bs then some .utf8Marked
  else none

/-- The encoding of bytes without a mark. -/
def unmarkedEncoding (bs : List UInt8) : Encoding :=
  match bs with
  | [a, b] => if a = 0 then .utf16 .big else if b = 0 then .utf16 .little else .utf8
  | a :: b :: c :: d :: _ =>
    if a = 0 then (if b = 0 then .utf32 .big else .utf16 .big)
    else if b = 0 then (if c = 0 ∧ d = 0 then .utf32 .little else .utf16 .little)
    else .utf8
  | _ => .utf8

/-- The encoding of a document. -/
def encodingOf (bs : List UInt8) : Encoding := (markedEncoding? bs).getD (unmarkedEncoding bs)

/-- Why bytes are not a JSON document. -/
inductive BytesError where
  | undecodable (e : DecodeError)
  | notJson (e : ReadError)

/-- Reads a document that is given as bytes, in which half of a pair may stand alone. -/
def ofBytes (bs : List UInt8) : Except BytesError Json :=
  match Text.decode (encodingOf bs) .keep bs with
  | .error e => .error (.undecodable e)
  | .ok cs => (readDocument cs).mapError .notJson

theorem encodingOf_two {a b : UInt8} (ha : a ≠ 0) (hb : b ≠ 0) (hmark : markedEncoding? [a, b] = none) :
    encodingOf [a, b] = .utf8 := by
  simp [encodingOf, hmark, unmarkedEncoding, ha, hb]

end Json

end FeatureToggles
