import FeatureToggles.Text.Half
import FeatureToggles.Text.Printable

/-!
# Quoted text

The form in which a piece of text appears inside a message: between quotes, with everything that
cannot be shown as it is written as an escape.  Single quotes are used unless the text holds a
single quote and no double one.

Main statement: a printable character that needs no escape stands for itself
(`quoteChar_of_isPrintable`).
-/

namespace FeatureToggles.Text

/-- The lower-case hexadecimal digits of `n`, padded with zeros to at least `width`. -/
def hex (width n : Nat) : String :=
  let digits := Nat.toDigits 16 n
  String.ofList (List.replicate (width - digits.length) '0' ++ digits)

/-- The mark that encloses a text: a single quote, or a double one for a text that holds a single
quote and no double one. -/
def quoteMark (cs : List Char) : Char :=
  if cs.contains '\'' && !cs.contains '"' then '"' else '\''

/-- A character by the number of its code point. -/
def escape (c : Char) : String :=
  let n := point c
  if n < 0x100 then "\\x" ++ hex 2 n
  else if n < 0x10000 then "\\u" ++ hex 4 n
  else "\\U" ++ hex 8 n

/-- One character of a text enclosed in `mark`. -/
def quoteChar (mark c : Char) : String :=
  if c == mark || c == '\\' then String.ofList ['\\', c]
  else if c == '\n' then "\\n"
  else if c == '\r' then "\\r"
  else if c == '\t' then "\\t"
  else if isPrintable c then c.toString
  else escape c

/-- A text between quotes, with escapes for all that is not printable. -/
def quoteChars (cs : List Char) : String :=
  let mark := quoteMark cs
  mark.toString ++ String.join (cs.map (quoteChar mark)) ++ mark.toString

@[inherit_doc quoteChars]
def quote (s : String) : String := quoteChars s.toList

/-- A printable character that is neither the mark nor a backslash stands for itself. -/
theorem quoteChar_of_isPrintable {mark c : Char} (hm : c ≠ mark) (hb : c ≠ '\\')
    (h : isPrintable c = true) : quoteChar mark c = c.toString := by
  have hn : c ≠ '\n' := by rintro rfl; exact absurd h (by decide)
  have hr : c ≠ '\r' := by rintro rfl; exact absurd h (by decide)
  have ht : c ≠ '\t' := by rintro rfl; exact absurd h (by decide)
  simp [quoteChar, hm, hb, hn, hr, ht, h]

end FeatureToggles.Text
