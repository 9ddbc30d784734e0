import FeatureToggles.Text.Encoding
import FeatureToggles.Text.Quoted

/-!
# Decoding

Reading bytes as the text that they write in some encoding.  The bytes are read piece by piece, each
piece being one character; where the bytes at a place are none, the decoding fails with the place and
the number of bytes that are to blame.

The wider forms take their byte order from a mark; without one the bytes are read in the little
order, and if that succeeds the missing mark is an error.

Main statements: no bytes are the empty text (`decodePieces_nil`), and a piece is read off the front
(`decodePieces_ok`, `decodePieces_error`).
-/

namespace FeatureToggles.Text

/-- What is wrong with some bytes. -/
inductive ByteFlaw where
  | invalidStart
  | invalidContinuation
  | unexpectedEnd
  | truncated
  /-- The second half of a pair without the first one. -/
  | lowHalf
  /-- The first half of a pair without the second one. -/
  | highHalf
  /-- Half of a pair where whole characters are written. -/
  | half
  | beyondUnicode
  | beyondAscii
  | unassigned
deriving DecidableEq

/-- The words for a flaw. -/
def ByteFlaw.words : ByteFlaw → String
  | .invalidStart => "invalid start byte"
  | .invalidContinuation => "invalid continuation byte"
  | .unexpectedEnd => "unexpected end of data"
  | .truncated => "truncated data"
  | .lowHalf => "illegal encoding"
  | .highHalf => "illegal UTF-16 surrogate"
  | .half => "code point in surrogate code point range(0xd800, 0xe000)"
  | .beyondUnicode => "code point not in range(0x110000)"
  | .beyondAscii => "ordinal not in range(128)"
  | .unassigned => "character maps to <undefined>"

/-- Why some bytes are not a text. -/
inductive DecodeError where
  /-- Bytes from a position on that are no character. -/
  | flawed (codec : String) (flaw : ByteFlaw) (position : Nat) (first : UInt8) (count : Nat)
  /-- No mark where one has to tell the byte order. -/
  | noMark (width : Nat)
  /-- What the reader of an encoding says that is not read here. -/
  | told (words : String)
deriving DecidableEq

/-- The text of an error. -/
def DecodeError.message : DecodeError → String
  | .flawed codec flaw position first count =>
    "'" ++ codec ++ "' codec can't decode " ++
      (if count = 1 then "byte 0x" ++ hex 2 first.toNat ++ " in position " ++ toString position
        else "bytes in position " ++ toString position ++ "-" ++
          toString (position + count - 1)) ++
      ": " ++ flaw.words
  | .noMark width => "UTF-" ++ toString width ++ " stream does not start with BOM"
  | .told words => words

/-! ## Pieces -/

/-- What some bytes begin with: a character and the number of bytes that it takes after the first,
or a flaw and the number of bytes that are to blame. -/
abbrev Piece := Except (ByteFlaw × Nat) (Char × Nat)

/-- How half of a pair is read that stands alone: as a flaw, or as it is. -/
inductive HalfPolicy where
  | refuse
  | keep
deriving DecidableEq

/-- Half of a pair that stands alone and takes `more` bytes after the first. -/
def HalfPolicy.piece (policy : HalfPolicy) (half : Nat) (flaw : ByteFlaw) (count more : Nat) : Piece :=
  match policy with
  | .refuse => .error (flaw, count)
  | .keep => .ok (ofHalf half, more)

/-- What a byte calls for in UTF-8 when it begins a character of several bytes: their number after
it, and the bounds of the next one. -/
def utf8Lead? (a : Nat) : Option (Nat × Nat × Nat) :=
  if 0xC2 ≤ a ∧ a ≤ 0xDF then some (1, 0x80, 0xBF)
  else if a = 0xE0 then some (2, 0xA0, 0xBF)
  else if a = 0xED then some (2, 0x80, 0x9F)
  else if 0xE1 ≤ a ∧ a ≤ 0xEF then some (2, 0x80, 0xBF)
  else if a = 0xF0 then some (3, 0x90, 0xBF)
  else if 0xF1 ≤ a ∧ a ≤ 0xF3 then some (3, 0x80, 0xBF)
  else if a = 0xF4 then some (3, 0x80, 0x8F)
  else none

/-- The bits of a byte that begins a character of UTF-8, by the number of bytes after it. -/
def utf8LeadBits (a count : Nat) : Nat :=
  if count = 1 then a - 0xC0 else if count = 2 then a - 0xE0 else a - 0xF0

/-- Reads continuation bytes, of which the next one lies within bounds; `taken` were read before. -/
def utf8Tail (n taken low high : Nat) : Nat → List UInt8 → Piece
  | 0, _ => .ok (Char.ofNat n, taken)
  | _ + 1, [] => .error (.unexpectedEnd, taken + 1)
  | count + 1, b :: rest =>
    if low ≤ b.toNat ∧ b.toNat ≤ high then
      utf8Tail (n * 64 + (b.toNat - 0x80)) (taken + 1) 0x80 0xBF count rest
    else .error (.invalidContinuation, taken + 1)

/-- The half of a pair that some bytes would write in UTF-8, if they would. -/
def utf8Half? (a : Nat) (rest : List UInt8) : Option Nat :=
  match rest with
  | b :: c :: _ =>
    if a == 0xED && 0xA0 ≤ b.toNat && b.toNat ≤ 0xBF && 0x80 ≤ c.toNat && c.toNat ≤ 0xBF then
      some (((a - 0xE0) * 64 + (b.toNat - 0x80)) * 64 + (c.toNat - 0x80))
    else none
  | _ => none

/-- A piece of UTF-8. -/
def utf8Piece (policy : HalfPolicy) (a : UInt8) (rest : List UInt8) : Piece :=
  let a := a.toNat
  if a < 0x80 then .ok (Char.ofNat a, 0)
  else match utf8Half? a rest, utf8Lead? a with
    | some half, _ => policy.piece half .invalidContinuation 1 2
    | none, none => .error (.invalidStart, 1)
    | none, some (count, low, high) => utf8Tail (utf8LeadBits a count) 0 low high count rest

/-- Whether a unit is the first half of a pair. -/
def isHighHalf (u : Nat) : Bool := 0xD800 ≤ u && u < 0xDC00

/-- Whether a unit is the second half of a pair. -/
def isLowHalf (u : Nat) : Bool := 0xDC00 ≤ u && u < 0xE000

/-- A piece of UTF-16. -/
def utf16Piece (order : ByteOrder) (policy : HalfPolicy) (a : UInt8) : List UInt8 → Piece
  | [] => .error (.truncated, 1)
  | b :: rest =>
    let u := order.number [a, b]
    if isLowHalf u then policy.piece u .lowHalf 2 1
    else if isHighHalf u then
      match rest with
      | c :: d :: _ =>
        let v := order.number [c, d]
        if isLowHalf v then
          .ok (Char.ofNat (0x10000 + (u - 0xD800) * 0x400 + (v - 0xDC00)), 3)
        else policy.piece u .highHalf 2 1
      | rest => policy.piece u .unexpectedEnd (rest.length + 2) 1
    else .ok (Char.ofNat u, 1)

/-- A piece of UTF-32. -/
def utf32Piece (order : ByteOrder) (policy : HalfPolicy) (a : UInt8) : List UInt8 → Piece
  | b :: c :: d :: _ =>
    let n := order.number [a, b, c, d]
    if 0x110000 ≤ n then .error (.beyondUnicode, 4)
    else if isHighHalf n || isLowHalf n then policy.piece n .half 4 3
    else .ok (Char.ofNat n, 3)
  | rest => .error (.truncated, rest.length + 1)

/-- A piece of a code page. -/
def pagePiece (page : CodePage) (a : UInt8) : Piece :=
  match page.character? a with
  | some c => .ok (c, 0)
  | none => .error (.unassigned, 1)

/-! ## Texts -/

/-- A reader of pieces under the name of its encoding. -/
structure Codec where
  name : String
  piece : UInt8 → List UInt8 → Piece

/-- Reads bytes piece by piece; `position` bytes stand before them. -/
def decodePieces (codec : Codec) (position : Nat) : List UInt8 → Except DecodeError (List Char)
  | [] => .ok []
  | a :: rest =>
    match codec.piece a rest with
    | .error (flaw, count) => .error (.flawed codec.name flaw position a count)
    | .ok (c, more) => (decodePieces codec (position + 1 + more) (rest.drop more)).map (c :: ·)
termination_by bs => bs.length
decreasing_by simp only [List.length_drop, List.length_cons]; omega

/-- The reader of UTF-8. -/
def utf8Codec (policy : HalfPolicy) : Codec := ⟨"utf-8", utf8Piece policy⟩

/-- The name of a byte order in the name of an encoding. -/
def ByteOrder.suffix : ByteOrder → String
  | .little => "-le"
  | .big => "-be"

/-- The reader of UTF-16. -/
def utf16Codec (policy : HalfPolicy) (order : ByteOrder) : Codec :=
  ⟨"utf-16" ++ order.suffix, utf16Piece order policy⟩

/-- The reader of UTF-32. -/
def utf32Codec (policy : HalfPolicy) (order : ByteOrder) : Codec :=
  ⟨"utf-32" ++ order.suffix, utf32Piece order policy⟩

/-- Reads bytes in the byte order that a mark tells.  Without a mark the order is the little one, and
it is an error unless there are no bytes. -/
def decodeMarked (width : Nat) (encoding : ByteOrder → Encoding) (codec : ByteOrder → Codec)
    (bs : List UInt8) : Except DecodeError (List Char) :=
  let little := (encoding .little).mark
  let big := (encoding .big).mark
  if little.isPrefixOf bs then decodePieces (codec .little) little.length (bs.drop little.length)
  else if big.isPrefixOf bs then decodePieces (codec .big) big.length (bs.drop big.length)
  else
    match decodePieces (codec .little) 0 bs with
    | .ok [] => .ok []
    | .ok _ => .error (.noMark width)
    | .error e => .error e

/-- Reads UTF-8 behind a mark that is no part of the text.  Positions are counted from behind the
mark, and bytes that are the beginning of one are no text yet. -/
def decodeUtf8Marked (policy : HalfPolicy) (bs : List UInt8) : Except DecodeError (List Char) :=
  let mark := Encoding.utf8.mark
  if mark.isPrefixOf bs then decodePieces (utf8Codec policy) 0 (bs.drop mark.length)
  else if bs.isPrefixOf mark then .ok []
  else decodePieces (utf8Codec policy) 0 bs

/-- The text that some bytes write. -/
def decode (encoding : Encoding) (policy : HalfPolicy) (bs : List UInt8) :
    Except DecodeError (List Char) :=
  match encoding with
  | .utf8 => decodePieces (utf8Codec policy) 0 bs
  | .utf8Marked => decodeUtf8Marked policy bs
  | .utf16 order => decodePieces (utf16Codec policy order) 0 bs
  | .utf16Marked => decodeMarked 16 .utf16 (utf16Codec policy) bs
  | .utf32 order => decodePieces (utf32Codec policy order) 0 bs
  | .utf32Marked => decodeMarked 32 .utf32 (utf32Codec policy) bs
  | .latin1 => .ok (bs.map fun b => Char.ofNat b.toNat)
  | .ascii =>
    decodePieces ⟨"ascii", fun a _ =>
      if a.toNat < 0x80 then .ok (Char.ofNat a.toNat, 0) else .error (.beyondAscii, 1)⟩ 0 bs
  | .page p => decodePieces ⟨"charmap", fun a _ => pagePiece p a⟩ 0 bs

/-! ## Lemmas -/

@[simp] theorem decodePieces_nil (codec : Codec) (position : Nat) :
    decodePieces codec position [] = .ok [] := by
  rw [decodePieces]

theorem decodePieces_ok {codec : Codec} {position more : Nat} {a : UInt8} {rest : List UInt8}
    {c : Char} (h : codec.piece a rest = .ok (c, more)) :
    decodePieces codec position (a :: rest) =
      (decodePieces codec (position + 1 + more) (rest.drop more)).map (c :: ·) := by
  rw [decodePieces, h]

theorem decodePieces_error {codec : Codec} {position count : Nat} {a : UInt8} {rest : List UInt8}
    {flaw : ByteFlaw} (h : codec.piece a rest = .error (flaw, count)) :
    decodePieces codec position (a :: rest) =
      .error (.flawed codec.name flaw position a count) := by
  rw [decodePieces, h]

end FeatureToggles.Text
