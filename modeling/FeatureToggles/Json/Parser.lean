import FeatureToggles.Json
import FeatureToggles.Number
import FeatureToggles.Number.Numeral
import FeatureToggles.Text.Half

/-!
# Reading JSON

A reader of JSON texts that tells where a text stops being JSON.  It walks over the characters that
are left; an error holds what is left from its place on, and from that its line and column are
counted at the end.  Besides JSON proper the reader takes `NaN`, `Infinity` and `-Infinity`.

Every function returns the characters that it leaves with the proof that they are fewer than it was
given, which is why the reading ends.  How deep a document is nested does not matter here: the limit that
an interpreter sets to recursion is not modelled.
-/

namespace FeatureToggles

namespace Json

/-! ## Errors -/

/-- What is wrong with a text that is not JSON. -/
inductive Flaw where
  | expectingValue
  | expectingPropertyName
  | expectingColon
  | expectingComma
  | unterminatedString
  | controlCharacter
  | badEscape
  | badUnicodeEscape
  | extraData
  | byteOrderMark
deriving DecidableEq

/-- The words for a flaw. -/
def Flaw.words : Flaw → String
  | .expectingValue => "Expecting value"
  | .expectingPropertyName => "Expecting property name enclosed in double quotes"
  | .expectingColon => "Expecting ':' delimiter"
  | .expectingComma => "Expecting ',' delimiter"
  | .unterminatedString => "Unterminated string starting at"
  | .controlCharacter => "Invalid control character at"
  | .badEscape => "Invalid \\escape"
  | .badUnicodeEscape => "Invalid \\uXXXX escape"
  | .extraData => "Extra data"
  | .byteOrderMark => "Unexpected UTF-8 BOM (decode using utf-8-sig)"

/-- Where the reading of a text stops, by the number of characters that are left there. -/
inductive Stop where
  | flaw (what : Flaw) (left : Nat)
  /-- An integer with too many digits. -/
  | oversizedInteger (digits : Nat)

/-- Why a text is not JSON, with the number of characters before the flaw. -/
inductive ReadError where
  | flaw (what : Flaw) (index line column : Nat)
  | oversizedInteger (digits : Nat)
deriving DecidableEq

/-- The text of an error. -/
def ReadError.message : ReadError → String
  | .flaw what index line column =>
    what.words ++ ": line " ++ toString line ++ " column " ++ toString column ++
      " (char " ++ toString index ++ ")"
  | .oversizedInteger digits =>
    "Exceeds the limit (" ++ toString digitLimit ++
      " digits) for integer string conversion: value has " ++ toString digits ++
      " digits; use sys.set_int_max_str_digits() to increase the limit"

/-! ## White space -/

/-- The white space of JSON. -/
def isSpace (c : Char) : Bool := c == ' ' || c == '\t' || c == '\n' || c == '\r'

/-- Drops white space. -/
def skipSpace (cs : List Char) : List Char := cs.dropWhile isSpace

theorem length_skipSpace_le (cs : List Char) : (skipSpace cs).length ≤ cs.length := by
  induction cs with
  | nil => simp [skipSpace]
  | cons c cs ih =>
    unfold skipSpace at ih ⊢
    rw [List.dropWhile_cons]
    split
    · simp only [List.length_cons]; omega
    · simp

/-! ## Strings -/

/-- The value of a hexadecimal digit. -/
def hexValue? (c : Char) : Option Nat :=
  if c.isDigit then some (c.toNat - 48)
  else if 'a' ≤ c ∧ c ≤ 'f' then some (c.toNat - 87)
  else if 'A' ≤ c ∧ c ≤ 'F' then some (c.toNat - 55)
  else none

/-- The number that four hexadecimal digits write. -/
def hexUnit? (a b c d : Char) : Option Nat :=
  match hexValue? a, hexValue? b, hexValue? c, hexValue? d with
  | some a, some b, some c, some d => some (((a * 16 + b) * 16 + c) * 16 + d)
  | _, _, _, _ => none

/-- The character that a UTF-16 unit stands for on its own.  Half of a pair is none, and is kept as its
mark. -/
def ofUnit (u : Nat) : Char := if Text.isHalfUnit u then Text.ofHalf u else Char.ofNat u

/-- The character that two halves of a pair stand for. -/
def ofPair (high low : Nat) : Char :=
  Char.ofNat (0x10000 + (high - 0xD800) * 0x400 + (low - 0xDC00))

/-- A character that begins a text, and the fewer ones after it. -/
abbrev CharRead (cs : List Char) := Char × { rest : List Char // rest.length < cs.length }

/-- The second half of a pair, if an escape by number that begins a text is one. -/
def secondHalf? (cs : List Char) :
    Except Stop (Option (Nat × { rest : List Char // rest.length < cs.length })) :=
  match cs with
  | '\\' :: 'u' :: a :: b :: c :: d :: e :: rest =>
    match hexUnit? a b c d with
    | none => .error (.flaw .badUnicodeEscape (rest.length + 6))
    | some low =>
      if 0xDC00 ≤ low ∧ low < 0xE000 then
        .ok (some (low, ⟨e :: rest, by simp only [List.length_cons]; omega⟩))
      else .ok none
  | _ => .ok none

/-- The character that an escape by number stands for, after its `u`.  There must be one more
character after the four digits.  Two escapes in a row may form a pair. -/
def unicodeEscape (cs : List Char) : Except Stop (CharRead cs) :=
  match cs with
  | a :: b :: c :: d :: e :: rest =>
    match hexUnit? a b c d with
    | none => .error (.flaw .badUnicodeEscape (rest.length + 6))
    | some unit =>
      if 0xD800 ≤ unit ∧ unit < 0xDC00 then
        match secondHalf? (e :: rest) with
        | .error e => .error e
        | .ok (some (low, ⟨rest', h⟩)) =>
          .ok (ofPair unit low, ⟨rest', by simp only [List.length_cons] at h ⊢; omega⟩)
        | .ok none => .ok (ofUnit unit, ⟨e :: rest, by simp only [List.length_cons]; omega⟩)
      else .ok (ofUnit unit, ⟨e :: rest, by simp only [List.length_cons]; omega⟩)
  | _ => .error (.flaw .badUnicodeEscape (cs.length + 1))

/-- The character that a one-letter escape stands for. -/
def simpleEscape? (c : Char) : Option Char :=
  if c = '"' ∨ c = '\\' ∨ c = '/' then some c
  else if c = 'b' then some '\x08'
  else if c = 'f' then some '\x0c'
  else if c = 'n' then some '\n'
  else if c = 'r' then some '\r'
  else if c = 't' then some '\t'
  else none

theorem length_lt_cons {c : Char} {rest cs : List Char} (h : rest.length < cs.length) :
    rest.length < (c :: cs).length := Nat.lt_succ_of_lt h

theorem length_lt_cons_cons {c d : Char} {rest cs : List Char} (h : rest.length < cs.length) :
    rest.length < (c :: d :: cs).length := length_lt_cons (length_lt_cons h)

/-- The rest of a string whose opening quote has `start` characters from it on, up to its closing
quote, and the characters after that. -/
def readString (start : Nat) (cs : List Char) :
    Except Stop (List Char × { rest : List Char // rest.length < cs.length }) :=
  match cs with
  | [] => .error (.flaw .unterminatedString start)
  | c :: cs =>
    if c = '"' then .ok ([], ⟨cs, Nat.lt_succ_self _⟩)
    else if c = '\\' then
      match cs with
      | [] => .error (.flaw .unterminatedString start)
      | e :: cs =>
        if e = 'u' then
          match unicodeEscape cs with
          | .error e => .error e
          | .ok (u, ⟨rest, h⟩) =>
            match readString start rest with
            | .error e => .error e
            | .ok (text, ⟨rest', h'⟩) =>
              .ok (u :: text, ⟨rest', length_lt_cons_cons (Nat.lt_trans h' h)⟩)
        else match simpleEscape? e with
          | none => .error (.flaw .badEscape (cs.length + 2))
          | some u =>
            match readString start cs with
            | .error e => .error e
            | .ok (text, ⟨rest', h'⟩) => .ok (u :: text, ⟨rest', length_lt_cons_cons h'⟩)
    else if c.toNat < 0x20 then .error (.flaw .controlCharacter (cs.length + 1))
    else
      match readString start cs with
      | .error e => .error e
      | .ok (text, ⟨rest', h'⟩) => .ok (c :: text, ⟨rest', length_lt_cons h'⟩)
termination_by cs.length
decreasing_by
  · exact length_lt_cons_cons h
  · exact length_lt_cons (Nat.lt_succ_self _)
  · exact Nat.lt_succ_self _

/-! ## Numbers -/

/-- The integer part at the beginning of a text: a zero, or digits that do not begin with one. -/
def wholeDigits (cs : List Char) : List Char :=
  match cs with
  | [] => []
  | c :: rest => if c = '0' then [c] else if c.isDigit then c :: rest.takeWhile Char.isDigit else []

/-- The fraction at the beginning of a text, with its point, if there is one. -/
def fractionPart (cs : List Char) : List Char :=
  match cs with
  | '.' :: rest =>
    let ds := rest.takeWhile Char.isDigit
    if ds.isEmpty then [] else '.' :: ds
  | _ => []

/-- The exponent at the beginning of a text, with its letter, if there is one. -/
def exponentPart (cs : List Char) : List Char :=
  match cs with
  | c :: rest =>
    if c = 'e' ∨ c = 'E' then
      let sign := match rest with
        | s :: _ => if s = '+' ∨ s = '-' then [s] else []
        | [] => []
      let ds := (rest.drop sign.length).takeWhile Char.isDigit
      if ds.isEmpty then [] else c :: sign ++ ds
    else []
  | [] => []

/-- The number that its parts write: an integer, unless it has a fraction or an exponent. -/
def numberOf (negative : Bool) (whole fraction exponent : List Char) : Except Stop Json :=
  if fraction.isEmpty && exponent.isEmpty then
    if digitLimit < whole.length then .error (.oversizedInteger whole.length)
    else
      let n : Int := Text.digitsValue whole
      .ok (.int (if negative then -n else n))
  else
    match Scientific.ofChars? (whole ++ fraction ++ exponent) with
    | some n => .ok (.float (.ofScientific negative n.coefficient n.exponent))
    | none => .ok (.float .noNumber)

/-! ## Values -/

/-- A value that begins a text, and the fewer characters after it. -/
abbrev Read (α : Type) (cs : List Char) := α × { rest : List Char // rest.length < cs.length }

/-- A number that begins a text. -/
def readNumber (cs : List Char) : Except Stop (Read Json cs) :=
  let negative := cs.head? == some '-'
  let body := if negative then cs.drop 1 else cs
  let whole := wholeDigits body
  let fraction := fractionPart (body.drop whole.length)
  let exponent := exponentPart (body.drop (whole.length + fraction.length))
  if whole.isEmpty then .error (.flaw .expectingValue cs.length)
  else
    match numberOf negative whole fraction exponent with
    | .error e => .error e
    | .ok j =>
      let rest := body.drop (whole.length + fraction.length + exponent.length)
      if h' : rest.length < cs.length then .ok (j, ⟨rest, h'⟩)
      else .error (.flaw .expectingValue cs.length)

/-- The words that stand for values. -/
def wordValues : List (List Char × Json) :=
  [("null".toList, .null), ("true".toList, .bool true), ("false".toList, .bool false),
    ("NaN".toList, .float .noNumber), ("Infinity".toList, .float (.infinite false)),
    ("-Infinity".toList, .float (.infinite true))]

/-- A word or a number that begins a text. -/
def readScalar (cs : List Char) : Except Stop (Read Json cs) :=
  match wordValues.find? fun word => word.1.isPrefixOf cs with
  | some (word, j) =>
    if h : (cs.drop word.length).length < cs.length then .ok (j, ⟨cs.drop word.length, h⟩)
    else .error (.flaw .expectingValue cs.length)
  | none => readNumber cs

mutual

/-- A value that begins a text, without white space before it. -/
def readValue (cs : List Char) : Except Stop (Read Json cs) :=
  match cs with
  | [] => .error (.flaw .expectingValue 0)
  | c :: cs =>
    have hs := length_skipSpace_le cs
    if c = '"' then
      (readString (cs.length + 1) cs).map fun (text, ⟨rest, h⟩) =>
        (.str (String.ofList text), ⟨rest, by simp only [List.length_cons]; omega⟩)
    else if c = '[' then
      match hcs : skipSpace cs with
      | ']' :: rest =>
        .ok (.arr [], ⟨rest, by simp only [hcs, List.length_cons] at hs ⊢; omega⟩)
      | _ =>
        match readItems (skipSpace cs) with
        | .error e => .error e
        | .ok (items, ⟨rest, h⟩) =>
          .ok (.arr items, ⟨rest, by simp only [List.length_cons]; omega⟩)
    else if c = '\x7b' then
      match hcs : skipSpace cs with
      | '\x7d' :: rest =>
        .ok (.obj [], ⟨rest, by simp only [hcs, List.length_cons] at hs ⊢; omega⟩)
      | _ =>
        match readFields (skipSpace cs) with
        | .error e => .error e
        | .ok (fields, ⟨rest, h⟩) =>
          .ok (.obj (Fields.ofList fields), ⟨rest, by simp only [List.length_cons]; omega⟩)
    else readScalar (c :: cs)
termination_by 2 * cs.length

/-- The items of an array up to its closing bracket, of which there is at least one. -/
def readItems (cs : List Char) : Except Stop (Read (List Json) cs) :=
  match readValue cs with
  | .error e => .error e
  | .ok (item, ⟨rest, h⟩) =>
    have hs := length_skipSpace_le rest
    match hrest : skipSpace rest with
    | [] => .error (.flaw .expectingComma 0)
    | d :: rest' =>
      have hs' := length_skipSpace_le rest'
      have hlt : rest'.length < cs.length := by
        simp only [hrest, List.length_cons] at hs; omega
      if d = ']' then .ok ([item], ⟨rest', hlt⟩)
      else if d = ',' then
        match readItems (skipSpace rest') with
        | .error e => .error e
        | .ok (items, ⟨rest'', h''⟩) => .ok (item :: items, ⟨rest'', by omega⟩)
      else .error (.flaw .expectingComma (rest'.length + 1))
termination_by 2 * cs.length + 1

/-- The fields of an object up to its closing brace, of which there is at least one. -/
def readFields (cs : List Char) : Except Stop (Read (List (String × Json)) cs) :=
  match cs with
  | [] => .error (.flaw .expectingPropertyName 0)
  | c :: cs =>
    if c ≠ '"' then .error (.flaw .expectingPropertyName (cs.length + 1))
    else
      match readString (cs.length + 1) cs with
      | .error e => .error e
      | .ok (key, ⟨rest, h⟩) =>
        have hs := length_skipSpace_le rest
        match hrest : skipSpace rest with
        | [] => .error (.flaw .expectingColon 0)
        | d :: rest' =>
          if d ≠ ':' then .error (.flaw .expectingColon (rest'.length + 1))
          else
            have hs' := length_skipSpace_le rest'
            have hlt : rest'.length < cs.length := by
              simp only [hrest, List.length_cons] at hs; omega
            match readValue (skipSpace rest') with
            | .error e => .error e
            | .ok (v, ⟨rest, h''⟩) =>
              have ht := length_skipSpace_le rest
              match hrest' : skipSpace rest with
              | [] => .error (.flaw .expectingComma 0)
              | d :: rest'' =>
                have ht' := length_skipSpace_le rest''
                have hlt' : rest''.length < cs.length := by
                  simp only [hrest', List.length_cons] at ht; omega
                if d = '\x7d' then
                  .ok ([(String.ofList key, v)],
                    ⟨rest'', by simp only [List.length_cons]; omega⟩)
                else if d = ',' then
                  match readFields (skipSpace rest'') with
                  | .error e => .error e
                  | .ok (fields, ⟨rest, h'⟩) =>
                    .ok ((String.ofList key, v) :: fields,
                      ⟨rest, by simp only [List.length_cons]; omega⟩)
                else .error (.flaw .expectingComma (rest''.length + 1))
termination_by 2 * cs.length

end

/-! ## Documents -/

/-- The line and the column of the place before which some characters stand. -/
def lineColumn (before : List Char) : Nat × Nat :=
  (before.count '\n' + 1, (before.reverse.takeWhile (· != '\n')).length + 1)

/-- The error of a text that stops being JSON where so many characters are left. -/
def errorAt (cs : List Char) (what : Flaw) (left : Nat) : ReadError :=
  let index := cs.length - left
  let (line, column) := lineColumn (cs.take index)
  .flaw what index line column

/-- The error that a stop within a text is. -/
def Stop.toError (cs : List Char) : Stop → ReadError
  | .flaw what left => errorAt cs what left
  | .oversizedInteger digits => .oversizedInteger digits

/-- Reads a document: one value with white space around it. -/
def readDocument (cs : List Char) : Except ReadError Json :=
  match readValue (skipSpace cs) with
  | .error stop => .error (stop.toError cs)
  | .ok (j, ⟨rest, _⟩) =>
    let rest := skipSpace rest
    if rest.isEmpty then .ok j else .error (errorAt cs .extraData rest.length)

/-- Reads a document that is given as a text, which must not begin with a byte order mark. -/
def ofChars (cs : List Char) : Except ReadError Json :=
  match cs with
  | '\uFEFF' :: _ => .error (errorAt cs .byteOrderMark cs.length)
  | cs => readDocument cs

end Json

end FeatureToggles
