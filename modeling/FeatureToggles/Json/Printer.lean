import FeatureToggles.Json
import FeatureToggles.Number.Shortest
import FeatureToggles.Text.Quoted

/-!
# Writing JSON

The compact text of a JSON value: no white space, and escapes only where JSON asks for them.
Numbers that are not finite are written by the names under which they are read.

Main statements: a character that needs no escape stands for itself (`escapeChar_plain`).
-/

namespace FeatureToggles

namespace Json

/-- One character inside a JSON string. -/
def escapeChar (c : Char) : List Char :=
  if c = '"' then ['\\', '"']
  else if c = '\\' then ['\\', '\\']
  else if c = '\n' then ['\\', 'n']
  else if c = '\r' then ['\\', 'r']
  else if c = '\t' then ['\\', 't']
  else if c = '\x08' then ['\\', 'b']
  else if c = '\x0c' then ['\\', 'f']
  else if c.toNat < 0x20 then '\\' :: 'u' :: (Text.hex 4 c.toNat).toList
  else [c]

/-- A text as a JSON string. -/
def writeString (s : String) : List Char :=
  '"' :: s.toList.flatMap escapeChar ++ ['"']

/-- A binary number as a JSON number. -/
def writeFloat : Binary64 → List Char
  | .infinite negative => (if negative then "-Infinity" else "Infinity").toList
  | .nan _ => "NaN".toList
  | x => x.toText.toList

mutual

/-- The text of a value. -/
def write : Json → List Char
  | .null => "null".toList
  | .bool b => (if b then "true" else "false").toList
  | .int i => (toString i).toList
  | .float x => writeFloat x
  | .str s => writeString s
  | .arr items => '[' :: writeItems items
  | .obj fields => '\x7b' :: writeFields fields
termination_by structural j => j

/-- The items of an array and its closing bracket. -/
def writeItems : List Json → List Char
  | [] => [']']
  | [j] => write j ++ [']']
  | j :: js => write j ++ ',' :: writeItems js
termination_by structural js => js

/-- The fields of an object and its closing brace. -/
def writeFields : List (String × Json) → List Char
  | [] => ['\x7d']
  | [(key, j)] => writeString key ++ ':' :: write j ++ ['\x7d']
  | (key, j) :: fields => writeString key ++ ':' :: write j ++ ',' :: writeFields fields
termination_by structural fields => fields

end

/-- The text of a value. -/
def toText (j : Json) : String := String.ofList j.write

theorem escapeChar_plain {c : Char} (hq : c ≠ '"') (hb : c ≠ '\\') (h : 0x20 ≤ c.toNat) :
    escapeChar c = [c] := by
  have hn : ∀ d : Char, d.toNat < 0x20 → c ≠ d := by
    rintro d hd rfl
    omega
  simp [escapeChar, hq, hb, hn '\n' (by decide), hn '\r' (by decide), hn '\t' (by decide),
    hn '\x08' (by decide), hn '\x0c' (by decide), Nat.not_lt.2 h]

end Json

end FeatureToggles
