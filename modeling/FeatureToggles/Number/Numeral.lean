import FeatureToggles.Number.Scientific
import FeatureToggles.Number.Binary64

/-!
# Numerals

Texts that are read as numbers.  Binary numbers are read from scientific notation or from their
names.  Integers are read leniently: white space around them, a plus sign, zeros in front, a fraction of
zeros, and single underscores between the digits are all ignored, and a minus sign may stand behind the
zeros as well as before them.

Main statements: how many zeros stand in front does not matter (`dropZeros_zero`), and a point is only
ignored with zeros behind it (`dropZeroFraction_point`).
-/

namespace FeatureToggles

namespace Numeral

/-! ## Binary numbers -/

/-- The names of the binary number that is infinite, in lower case. -/
def infinityNames : List (List Char) :=
  [['i', 'n', 'f'], ['i', 'n', 'f', 'i', 'n', 'i', 't', 'y']]

/-- Reads a binary number, rounded to the nearest one; names are read in either case. -/
def binary64? (s : String) : Option Binary64 :=
  let cs := Text.trim s.toList
  match Scientific.ofChars? cs with
  | some n => some (.ofScientific n.negative n.coefficient n.exponent)
  | none =>
    let (negative, rest) := Scientific.splitSign cs
    let name := rest.map Char.toLower
    if infinityNames.contains name then some (.infinite negative)
    else if name = ['n', 'a', 'n'] then some .noNumber
    else none

/-! ## Integers -/

/-- What came of reading an integer. -/
inductive IntegerReading where
  | integer (i : Int)
  /-- A text with more digits than an integer may have. -/
  | oversized
  | malformed
deriving DecidableEq

/-- Whether a character is white space around an integer: one of the Unicode spaces and separators,
and not one of the information separators. -/
def isMargin (c : Char) : Bool := Text.isBlank c && !(0x1C ≤ c.toNat && c.toNat ≤ 0x1F)

/-- Drops the white space around an integer. -/
def trimMargin (cs : List Char) : List Char :=
  ((cs.dropWhile isMargin).reverse.dropWhile isMargin).reverse

/-- Drops the zeros and underscores in front of a number, given the last one before: up to another
digit or a minus sign, or up to the last of them if a point or nothing follows. -/
def dropZerosAfter (last : Char) : List Char → Option (List Char)
  | [] => some [last]
  | c :: cs =>
    if c == '0' || c == '_' then dropZerosAfter c cs
    else if c == '.' then some (last :: c :: cs)
    else if c.isDigit || c == '-' then some (c :: cs)
    else none

/-- Drops the zeros in front of a number, and the underscores among them.  A number starts with a
digit. -/
def dropZeros : List Char → Option (List Char)
  | [] => none
  | c :: cs =>
    if c == '0' then dropZerosAfter c cs else if c.isDigit then some (c :: cs) else none

/-- Drops a fraction of zeros, of which there has to be one. -/
def dropZeroFraction (cs : List Char) : List Char :=
  match cs.dropWhile (· != '.') with
  | '.' :: c :: fraction =>
    if (c :: fraction).all (· == '0') then cs.takeWhile (· != '.') else cs
  | _ => cs

/-- Whether every underscore stands between two other characters, given the character before. -/
def areApart (previous : Char) : List Char → Bool
  | [] => previous != '_'
  | c :: cs => !(previous == '_' && c == '_') && areApart c cs

/-- Drops the underscores if each of them stands between two other characters. -/
def dropUnderscores (cs : List Char) : List Char :=
  if areApart '_' cs then cs.filter (· != '_') else cs

/-- A number without what does not count in it. -/
def cleanNumber (cs : List Char) : Option (List Char) :=
  (dropZeros cs).map fun cs => dropUnderscores (dropZeroFraction cs)

/-- A text that writes an integer leniently, in plain form. -/
def clean (cs : List Char) : Option (List Char) :=
  match trimMargin cs with
  | '-' :: cs => (cleanNumber cs).map ('-' :: ·)
  | '+' :: cs => cleanNumber cs
  | cs => cleanNumber cs

/-- Reads an integer in plain form: a minus sign or none, and digits without a zero in front.  With
its sign it may have so many characters. -/
def readPlain (limit : Nat) (cs : List Char) : IntegerReading :=
  let (negative, body) := match cs with
    | '-' :: body => (true, body)
    | body => (false, body)
  let digits := body.takeWhile Char.isDigit
  let length := digits.length + (if negative then 1 else 0)
  if digits.head? = some '0' && digits.length != 1 then .malformed
  else if limit < length then .oversized
  else if digits.isEmpty || body.length != digits.length then .malformed
  else
    let value : Int := Text.digitsValue digits
    .integer (if negative then -value else value)

/-- Reads an integer leniently. -/
def readInteger (limit : Nat) (cs : List Char) : IntegerReading :=
  match clean cs with
  | some cs => readPlain limit cs
  | none => .malformed

theorem dropZeros_zero (cs : List Char) : dropZeros ('0' :: '0' :: cs) = dropZeros ('0' :: cs) := by
  simp [dropZeros, dropZerosAfter]

theorem dropZeroFraction_point {cs : List Char} (h : '.' ∉ cs) :
    dropZeroFraction (cs ++ ['.']) = cs ++ ['.'] := by
  have hdrop : (cs ++ ['.']).dropWhile (· != '.') = ['.'] := by
    induction cs with
    | nil => rfl
    | cons c cs ih =>
      simp only [List.mem_cons, not_or] at h
      have hc : (c != '.') = true := by simpa using Ne.symm h.1
      rw [List.cons_append, List.dropWhile_cons, if_pos hc]
      exact ih h.2
  rw [dropZeroFraction, hdrop]
  rfl

end Numeral

end FeatureToggles
