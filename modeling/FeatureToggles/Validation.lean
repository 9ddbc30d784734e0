import FeatureToggles.Json
import FeatureToggles.Number
import FeatureToggles.Number.Numeral
import FeatureToggles.Text.Half

/-!
# Validation

Input data is checked against what is expected of it, and whatever is wrong is listed as issues: a
path to the place in the data and the problem there.  This module holds the problems with their
wording, the lenient reading of booleans and integers, and the way in which the issues of parts
become those of the whole.

Main statements: a value is read as a boolean or refused with one problem (`boolean_bool`,
`boolean_null`), and nesting keeps the number of issues (`length_under`).
-/

namespace FeatureToggles

/-- One step on the way to a place in some data. -/
inductive Step where
  | index (i : Nat)
  | key (name : String)
deriving DecidableEq

/-- What is wrong with a piece of data. -/
inductive Problem where
  /-- A required field that is absent. -/
  | missing
  | notString
  /-- A text with halves of pairs where another type is read from texts. -/
  | notUnicode
  | notBoolean
  /-- A value of a type that is read as a boolean, but not a boolean's. -/
  | noBooleanText
  | notInteger
  /-- A text that is not an integer's. -/
  | noIntegerText
  /-- A number that is not whole. -/
  | fractional
  | notFinite
  /-- An integer with too many digits. -/
  | oversizedInteger
  | notList
  | notMapping
  /-- No object where a record of some name is expected. -/
  | notRecord (name : String)
  /-- No object where the fields of one are expected. -/
  | notObject
  /-- A body that is not JSON, with what is wrong with it. -/
  | notJson (flaw : String)
deriving DecidableEq

namespace Problem

/-- The name of a problem. -/
def tag : Problem → String
  | .missing => "missing"
  | .notString => "string_type"
  | .notUnicode => "string_unicode"
  | .notBoolean => "bool_type"
  | .noBooleanText => "bool_parsing"
  | .notInteger => "int_type"
  | .noIntegerText => "int_parsing"
  | .fractional => "int_from_float"
  | .notFinite => "finite_number"
  | .oversizedInteger => "int_parsing_size"
  | .notList => "list_type"
  | .notMapping => "dict_type"
  | .notRecord _ => "model_type"
  | .notObject => "model_attributes_type"
  | .notJson _ => "json_invalid"

/-- The text of a problem. -/
def message : Problem → String
  | .missing => "Field required"
  | .notString => "Input should be a valid string"
  | .notUnicode => "Input should be a valid string, unable to parse raw data as a unicode string"
  | .notBoolean => "Input should be a valid boolean"
  | .noBooleanText => "Input should be a valid boolean, unable to interpret input"
  | .notInteger => "Input should be a valid integer"
  | .noIntegerText => "Input should be a valid integer, unable to parse string as an integer"
  | .fractional => "Input should be a valid integer, got a number with a fractional part"
  | .notFinite => "Input should be a finite number"
  | .oversizedInteger => "Unable to parse input string as an integer, exceeded maximum size"
  | .notList => "Input should be a valid list"
  | .notMapping => "Input should be a valid dictionary"
  | .notRecord name => "Input should be a valid dictionary or instance of " ++ name
  | .notObject => "Input should be a valid dictionary or object to extract fields from"
  | .notJson _ => "JSON decode error"

end Problem

/-- A problem and its place in the data. -/
structure Issue where
  path : List Step
  problem : Problem
deriving DecidableEq

namespace Issue

/-- A step as JSON. -/
def stepJson : Step → Json
  | .index i => .int i
  | .key name => .str name

/-- The path of an issue as JSON. -/
def pathJson (issue : Issue) : Json := .arr (issue.path.map stepJson)

/-- An issue as JSON. -/
def toJson (issue : Issue) : Json :=
  .obj [("type", .str issue.problem.tag), ("loc", issue.pathJson),
    ("msg", .str issue.problem.message)]

end Issue

/-- Data that passed a check, or the issues that it has. -/
abbrev Checked (α : Type) := Except (List Issue) α

namespace Checked

/-- The same issues one step further down. -/
def under {α : Type} (step : Step) (c : Checked α) : Checked α :=
  c.mapError fun issues => issues.map fun issue => { issue with path := step :: issue.path }

/-- A value that needs no check. -/
def value {α : Type} (x : α) : Checked α := .ok x

/-- One problem at the place itself. -/
def fail {α : Type} (problem : Problem) : Checked α := .error [⟨[], problem⟩]

/-- Two checks side by side: the issues of both, or a value made of both. -/
def both {α β γ : Type} (f : α → β → γ) (a : Checked α) (b : Checked β) : Checked γ :=
  match a, b with
  | .ok x, .ok y => .ok (f x y)
  | .ok _, .error ys => .error ys
  | .error xs, .ok _ => .error xs
  | .error xs, .error ys => .error (xs ++ ys)

/-- Applies what came of a check to what comes of the next one. -/
def apply {α β : Type} (f : Checked (α → β)) (a : Checked α) : Checked β := both (fun f x => f x) f a

/-- The issues of a check. -/
def issues {α : Type} : Checked α → List Issue
  | .ok _ => []
  | .error xs => xs

/-- Checks all items of a list, each under its index, counted from `start`. -/
def all {α β : Type} (check : α → Checked β) (start : Nat) : List α → Checked (List β)
  | [] => .ok []
  | x :: xs => both (· :: ·) (under (.index start) (check x)) (all check (start + 1) xs)

theorem issues_both {α β γ : Type} (f : α → β → γ) (a : Checked α) (b : Checked β) :
    (both f a b).issues = a.issues ++ b.issues := by
  cases a <;> cases b <;> simp [both, issues]

theorem length_under {α : Type} (step : Step) (c : Checked α) :
    (under step c).issues.length = c.issues.length := by
  cases c with
  | ok x => rfl
  | error xs => exact List.length_map _

end Checked

/-! ## Reading scalars -/

/-- The texts that are read as booleans, in lower case. -/
def booleanTexts : List (String × Bool) :=
  [("0", false), ("off", false), ("f", false), ("false", false), ("n", false), ("no", false),
    ("1", true), ("on", true), ("t", true), ("true", true), ("y", true), ("yes", true)]

/-- Whether an integer has at most 64 bits, with its sign. -/
def isWord (i : Int) : Bool := -0x8000000000000000 ≤ i && i < 0x8000000000000000

/-- The integer that a binary number is, if it is one. -/
def Binary64.toInt? (x : Binary64) : Option Int :=
  match x.toRat? with
  | some q => if q.den = 1 then some q.num else none
  | none => none

/-- The integer that a binary number is, which has to have fewer than 64 bits besides its sign. -/
def wholeNumber : Binary64 → Checked Int
  | .finite negative m e =>
    match (Binary64.finite negative m e).toInt? with
    | some i => if i.natAbs < 0x8000000000000000 then .ok i else Checked.fail .oversizedInteger
    | none => Checked.fail .fractional
  | _ => Checked.fail .notFinite

/-- The boolean that an integer stands for: only zero and one stand for any. -/
def booleanOfInt (i : Int) : Checked Bool :=
  if i = 0 then .ok false else if i = 1 then .ok true else Checked.fail .noBooleanText

/-- What is read from a text, which must not hold halves of pairs. -/
def readText {α : Type} (s : String) (read : Checked α) : Checked α :=
  if s.toList.any Text.isHalf then Checked.fail .notUnicode else read

/-- The boolean that a JSON value is read as: a boolean itself, zero or one, or one of the usual
words, in either case.  Numbers that are not whole and numbers of too many bits are not of the type. -/
def boolean : Json → Checked Bool
  | .bool b => .ok b
  | .int i => if isWord i then booleanOfInt i else Checked.fail .notBoolean
  | .float x =>
    match wholeNumber x with
    | .ok i => booleanOfInt i
    | .error _ => Checked.fail .notBoolean
  | .str s =>
    readText s <| match booleanTexts.find? fun entry => entry.1 == s.map Char.toLower with
      | some (_, b) => .ok b
      | none => Checked.fail .noBooleanText
  | _ => Checked.fail .notBoolean

/-- The integer that a JSON value is read as: an integer itself, a boolean, a binary number that is
whole, or a text that is leniently read as one. -/
def integer : Json → Checked Int
  | .int i => .ok i
  | .bool b => .ok (if b then 1 else 0)
  | .float x => wholeNumber x
  | .str s =>
    readText s <| match Numeral.readInteger digitLimit s.toList with
      | .integer i => .ok i
      | .oversized => Checked.fail .oversizedInteger
      | .malformed => Checked.fail .noIntegerText
  | _ => Checked.fail .notInteger

/-- The text that a JSON value is. -/
def string : Json → Checked String
  | .str s => .ok s
  | _ => Checked.fail .notString

theorem boolean_bool (b : Bool) : boolean (.bool b) = .ok b := rfl

theorem boolean_null : boolean .null = Checked.fail .notBoolean := rfl

end FeatureToggles
