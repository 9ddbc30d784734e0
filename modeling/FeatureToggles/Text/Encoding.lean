import FeatureToggles.Text.CodePage
import FeatureToggles.Text.Quoted

/-!
# Encodings

The ways in which texts are written as bytes: the Unicode family, in which the wider forms come in
two byte orders and may be told by a mark at the beginning, and the encodings of one byte a
character.  Encodings are named in many spellings; case and punctuation do not count.

Main statements: an ASCII character is written as its own byte in UTF-8 (`encodeChar_utf8_ascii`),
the writing of a text is the writing of its characters in a row (`encode_append`), and what cannot be
written in UTF-8 are halves of pairs (`unwritable?_eq_none_iff`).
-/

namespace FeatureToggles.Text

/-- The order in which the bytes of a number are written. -/
inductive ByteOrder where
  | little
  | big
deriving DecidableEq

/-- An encoding of texts as bytes. -/
inductive Encoding where
  | utf8
  /-- UTF-8 in which a mark at the beginning is no part of the text. -/
  | utf8Marked
  | utf16 (order : ByteOrder)
  /-- UTF-16 in the byte order that a mark at the beginning tells. -/
  | utf16Marked
  | utf32 (order : ByteOrder)
  /-- UTF-32 in the byte order that a mark at the beginning tells. -/
  | utf32Marked
  | latin1
  | ascii
  /-- An encoding of one byte a character. -/
  | page (page : CodePage)
deriving DecidableEq

/-! ## Writing -/

namespace ByteOrder

/-- The `count` lowest bytes of a number, in this order. -/
def bytes (order : ByteOrder) (count n : Nat) : List UInt8 :=
  let ascending := (List.range count).map fun i => UInt8.ofNat (n / Nat.pow 256 i)
  match order with
  | .little => ascending
  | .big => ascending.reverse

/-- The number that some bytes in this order write. -/
def number (order : ByteOrder) (bs : List UInt8) : Nat :=
  let descending := match order with
    | .little => bs.reverse
    | .big => bs
  descending.foldl (fun n b => n * 256 + b.toNat) 0

end ByteOrder

namespace Encoding

/-- The code point of the byte order mark. -/
def markPoint : Nat := 0xFEFF

/-- A code point in UTF-8. -/
def utf8Bytes (n : Nat) : List UInt8 :=
  let tail (shift : Nat) : UInt8 := UInt8.ofNat (0x80 + n / Nat.pow 64 shift % 64)
  if n < 0x80 then [UInt8.ofNat n]
  else if n < 0x800 then [UInt8.ofNat (0xC0 + n / 64), tail 0]
  else if n < 0x10000 then [UInt8.ofNat (0xE0 + n / Nat.pow 64 2), tail 1, tail 0]
  else [UInt8.ofNat (0xF0 + n / Nat.pow 64 3), tail 2, tail 1, tail 0]

/-- A code point in UTF-16: one unit, or a pair of them beyond the first 65536. -/
def utf16Bytes (order : ByteOrder) (n : Nat) : List UInt8 :=
  if n < 0x10000 then order.bytes 2 n
  else
    order.bytes 2 (0xD800 + (n - 0x10000) / 0x400) ++
      order.bytes 2 (0xDC00 + (n - 0x10000) % 0x400)

/-- A code point in the Unicode forms; other encodings write a question mark for what they do not
have. -/
def pointBytes (encoding : Encoding) (n : Nat) : List UInt8 :=
  match encoding with
  | .utf8 => utf8Bytes n
  | .utf8Marked => utf8Bytes n
  | .utf16 order => utf16Bytes order n
  | .utf16Marked => utf16Bytes .little n
  | .utf32 order => order.bytes 4 n
  | .utf32Marked => ByteOrder.bytes .little 4 n
  | .latin1 => [if n < 0x100 then UInt8.ofNat n else 0x3F]
  | .ascii => [if n < 0x80 then UInt8.ofNat n else 0x3F]
  | .page p =>
    match (List.range 256).find? fun b => p.character? (UInt8.ofNat b) == some (Char.ofNat n) with
    | some b => [UInt8.ofNat b]
    | none => [0x3F]

/-- A character as bytes. -/
def encodeChar (encoding : Encoding) (c : Char) : List UInt8 := encoding.pointBytes c.toNat

/-- The characters of a text as bytes, without a mark. -/
def encode (encoding : Encoding) (cs : List Char) : List UInt8 := cs.flatMap encoding.encodeChar

/-- The mark that tells the encoding. -/
def mark (encoding : Encoding) : List UInt8 := encoding.pointBytes markPoint

theorem encodeChar_utf8_ascii {c : Char} (h : c.toNat < 0x80) :
    encodeChar .utf8 c = [UInt8.ofNat c.toNat] := by
  simp [encodeChar, pointBytes, utf8Bytes, h]

theorem encode_append (encoding : Encoding) (cs ds : List Char) :
    encoding.encode (cs ++ ds) = encoding.encode cs ++ encoding.encode ds := by
  simp [encode]

/-- The halves of pairs that stand first in a text, with the number of characters before them. -/
def firstHalves (cs : List Char) : Nat × List Char :=
  let before := cs.takeWhile fun c => !isHalf c
  (before.length, (cs.drop before.length).takeWhile isHalf)

/-- What keeps a text from being written in UTF-8, if anything does: halves of pairs. -/
def unwritable? (cs : List Char) : Option String :=
  let told (found : String) : String :=
    "'utf-8' codec can't encode " ++ found ++ ": surrogates not allowed"
  match firstHalves cs with
  | (_, []) => none
  | (before, [c]) =>
    some (told ("character '" ++ escape c ++ "' in position " ++ toString before))
  | (before, halves) =>
    some (told ("characters in position " ++ toString before ++ "-" ++
      toString (before + halves.length - 1)))

theorem unwritable?_eq_none_iff (cs : List Char) :
    unwritable? cs = none ↔ ∀ c ∈ cs, isHalf c = false := by
  have hfirst : unwritable? cs = none ↔ (firstHalves cs).2 = [] := by
    unfold unwritable?
    split <;> simp_all
  rw [hfirst]
  clear hfirst
  induction cs with
  | nil => simp [firstHalves]
  | cons c cs ih =>
    cases hc : isHalf c with
    | true => simp [firstHalves, hc]
    | false => simpa [firstHalves, hc] using ih

/-! ## Names -/

/-- Whether a character counts in the name of an encoding. -/
def countsInName (c : Char) : Bool := c.isAlphanum || c == '.'

/-- The name of an encoding in its plain spelling: in lower case, with one underscore for whatever
stands between its words. -/
def plainName (cs : List Char) : List Char :=
  match cs with
  | [] => []
  | c :: cs =>
    if countsInName c then c.toLower :: plainName cs
    else
      match plainName cs with
      | [] => []
      | '_' :: rest => '_' :: rest
      | rest => '_' :: rest

/-- The plain spellings of the names of encodings, but for the code pages. -/
def names : List (Encoding × List String) :=
  [(.utf8, ["utf_8", "utf8", "u8", "utf", "cp65001", "utf8_ucs2", "utf8_ucs4"]),
    (.utf8Marked, ["utf_8_sig"]),
    (.utf16Marked, ["utf_16", "utf16", "u16"]),
    (.utf16 .little, ["utf_16_le", "utf_16le", "unicodelittleunmarked"]),
    (.utf16 .big, ["utf_16_be", "utf_16be", "unicodebigunmarked"]),
    (.utf32Marked, ["utf_32", "utf32", "u32"]),
    (.utf32 .little, ["utf_32_le", "utf_32le"]),
    (.utf32 .big, ["utf_32_be", "utf_32be"]),
    (.latin1, ["latin_1", "latin1", "latin", "l1", "8859", "iso8859", "iso8859_1", "iso_8859_1",
      "iso_8859_1_1987", "iso_ir_100", "cp819", "csisolatin1", "ibm819"]),
    (.ascii, ["ascii", "us_ascii", "us", "646", "iso646_us", "iso_ir_6", "cp367", "csascii",
      "ibm367", "ansi_x3_4_1968", "ansi_x3.4_1968", "ansi_x3_4_1986"])]

/-- What a name is compared by: its plain spelling, without what stands before its first word. -/
def plainNameOf (name : String) : List Char :=
  plainName (name.toList.dropWhile fun c => !countsInName c)

/-- Whether a name is among some plain spellings. -/
def isAmong (spellings : List String) (name : String) : Bool :=
  spellings.any fun spelling => spelling.toList == plainNameOf name

/-- The encoding of a name. -/
def ofName? (name : String) : Option Encoding :=
  match names.find? fun entry => isAmong entry.2 name with
  | some (encoding, _) => some encoding
  | none => (CodePage.all.find? fun page => isAmong page.names name).map .page

/-- The plain spellings of the names of codings that do not lead from bytes to texts: they turn bytes
into bytes or texts into texts. -/
def transforms : List String :=
  ["base64_codec", "base64", "base_64", "bz2_codec", "bz2", "hex_codec", "hex", "quopri_codec",
    "quopri", "quoted_printable", "quotedprintable", "rot_13", "rot13", "uu_codec", "uu",
    "zlib_codec", "zip", "zlib"]

/-- Whether a name is that of a coding that does not lead from bytes to texts. -/
def isTransform (name : String) : Bool := isAmong transforms name

theorem ofName?_utf8 : ofName? "UTF-8" = some .utf8 := by decide +kernel

end Encoding

end FeatureToggles.Text
