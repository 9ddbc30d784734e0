import FeatureToggles.Fault
import FeatureToggles.Number

/-!
# Values

What a context may hold: null, booleans, numbers, texts, lists, mappings, and objects of the caller.
Of a caller's object only little is known: its type's name, which object it is, its text, and, if it is
an attribute provider, what it lists.  Whatever an object is asked for, it may raise an error instead.

This module also fixes the kinds of values that conditions speak of, and when two values are equal.
Equality looks through the sorts of numbers, takes booleans inside containers for the numbers 0 and
1, ignores the order of a mapping's entries, and fails where a signaling decimal is met.  Inside containers
an object equals itself whatever it is, which matters for numbers that are none.

Main statements: values of different shapes differ without failing (`equal_null`), and equality
of lists of different lengths is settled by their lengths (`equal_list_of_length`).
-/

namespace FeatureToggles

/-- An object of the caller: its type's name, which object it is, and its text, or the error that comes of
asking for it. -/
structure Object where
  typeName : String
  identity : Nat
  text : Except Fault String

/-- Whether two objects are one and the same. -/
def Object.isSame (a b : Object) : Bool := a.identity == b.identity

/-- A value of a context. -/
inductive Value where
  | null
  | bool (b : Bool)
  | number (n : Number)
  | text (s : String)
  | list (items : List Value)
  /-- A mapping, with its entries in their order; the keys are scalars and differ from each other. -/
  | map (entries : List (Value × Value))
  /-- An evaluation context over such entries. -/
  | context (entries : List (Value × Value))
  /-- An attribute provider: the rows it lists, and the error with which the listing ends, if it does not
  end well. -/
  | provider (self : Object) (rows : List (List Value)) (failure : Option Fault)
  /-- An object without attributes, and the error that comes of looking for them, if any does. -/
  | foreign (self : Object) (failure : Option Fault)

namespace Value

/-- What can go wrong inside values: while they are compared, negated, listed or written. -/
inductive Error where
  /-- An operation on decimals without a result. -/
  | arithmetic (e : Decimal.Error)
  /-- An error that an object of the caller raised. -/
  | raised (fault : Fault)
  /-- A row of a context's attributes that is not a pair. -/
  | notPair (length : Nat)
  /-- A row of a nested provider that is not a pair. -/
  | badRow (index length : Nat)
  /-- A value that lists nothing, in the place of a mapping. -/
  | notIterable (typeName : String)
  /-- An item that lists nothing, in the place of a pair. -/
  | notSequence (index : Nat)
  /-- A name that no mapping can have as a key. -/
  | unhashable (typeName : String)
  /-- A signaling decimal as a key. -/
  | signalingKey
  /-- An integer with too many digits to be written. -/
  | oversizedInteger

/-! ## Types and kinds -/

/-- The name of a value's type. -/
def typeName : Value → String
  | .null => "NoneType"
  | .bool _ => "bool"
  | .number n => n.typeName
  | .text _ => "str"
  | .list _ => "list"
  | .map _ => "dict"
  | .context _ => "EvaluationContext"
  | .provider self .. => self.typeName
  | .foreign self _ => self.typeName

/-- The name of a value's type with that of the module which it comes from, where that is told. -/
def fullTypeName : Value → String
  | .number (.decimal d) => "decimal." ++ (Number.decimal d).typeName
  | v => v.typeName

/-- The kinds that the operators of conditions tell apart. -/
inductive Kind where
  | null
  | boolean
  | number
  | string
  /-- Any other type, by its name. -/
  | other (typeName : String)
deriving DecidableEq

/-- The kind of a value. -/
def kind : Value → Kind
  | .null => .null
  | .bool _ => .boolean
  | .number _ => .number
  | .text _ => .string
  | v => .other v.typeName

/-- The word for a kind in messages. -/
def Kind.word : Kind → String
  | .null => "null"
  | .boolean => "boolean"
  | .number => "number"
  | .string => "string"
  | .other name => name

/-! ## Equality -/

/-- A boolean as a number. -/
def ofBool (b : Bool) : Number := .int (if b then 1 else 0)

/-- Equality of numbers, its failure as one of values. -/
def equalNumbers (a b : Number) : Except Error Bool := (a.equal b).mapError .arithmetic

/-- Whether two numbers are the same key of a mapping. -/
def sameNumber (a b : Number) : Bool :=
  a.isSame b || match a.equal b with
    | .ok answer => answer
    | .error _ => false

/-- Whether two scalars are the same key of a mapping. -/
def sameKey : Value → Value → Bool
  | .null, .null => true
  | .bool a, .bool b => a == b
  | .bool a, .number n => sameNumber (ofBool a) n
  | .number n, .bool b => sameNumber n (ofBool b)
  | .number a, .number b => sameNumber a b
  | .text a, .text b => a == b
  | .provider a .., .provider b .. => a.isSame b
  | .foreign a _, .foreign b _ => a.isSame b
  | _, _ => false

/-- The value at a key. -/
def lookup (entries : List (Value × Value)) (key : Value) : Option Value :=
  (entries.find? fun entry => entry.1.sameKey key).map (·.2)

/-- Whether two values are one and the same number that is none.  All other values equal themselves. -/
def isSame : Value → Value → Bool
  | .number a, .number b => a.isSame b
  | _, _ => false

mutual

/-- Equality of values. -/
def equal : Value → Value → Except Error Bool
  | .null, .null => .ok true
  | .bool a, .bool b => .ok (a == b)
  | .bool a, .number n => equalNumbers (ofBool a) n
  | .number n, .bool b => equalNumbers n (ofBool b)
  | .number a, .number b => equalNumbers a b
  | .text a, .text b => .ok (a == b)
  | .list xs, .list ys => if xs.length = ys.length then equalItems xs ys else .ok false
  | .map es, .map fs => if es.length = fs.length then equalEntries es fs else .ok false
  | .context es, .context fs => if es.length = fs.length then equalEntries es fs else .ok false
  | .provider a .., .provider b .. => .ok (a.isSame b)
  | .foreign a _, .foreign b _ => .ok (a.isSame b)
  | _, _ => .ok false
termination_by structural v => v

/-- Equality of two rows of values, up to the end of the first; stops at the first difference. -/
def equalItems : List Value → List Value → Except Error Bool
  | [], _ => .ok true
  | _ :: _, [] => .ok false
  | x :: xs, y :: ys =>
    if isSame x y then equalItems xs ys
    else match equal x y with
      | .ok true => equalItems xs ys
      | answer => answer
termination_by structural xs => xs

/-- Whether every entry of the first mapping is in the second; stops at the first that is not. -/
def equalEntries : List (Value × Value) → List (Value × Value) → Except Error Bool
  | [], _ => .ok true
  | (key, v) :: es, fs =>
    match lookup fs key with
    | none => .ok false
    | some w =>
      if isSame v w then equalEntries es fs
      else match equal v w with
        | .ok true => equalEntries es fs
        | answer => answer
termination_by structural es => es

end

/-- Nothing but null equals null, and the question never fails. -/
theorem equal_null (v : Value) : equal .null v = .ok (v matches .null) := by
  cases v <;> simp [equal]

theorem equal_list_of_length {xs ys : List Value} (h : xs.length ≠ ys.length) :
    equal (.list xs) (.list ys) = .ok false := by
  simp [equal, h]

/-! ## Building mappings -/

/-- Puts a value at a key: in the place of the key if it is there, else at the end. -/
def insert (entries : List (Value × Value)) (key v : Value) : List (Value × Value) :=
  if entries.any fun entry => entry.1.sameKey key then
    entries.map fun entry => if entry.1.sameKey key then (entry.1, v) else entry
  else entries ++ [(key, v)]

/-- The entries that a row of pairs makes: the last value of a key, at the place of its first. -/
def entriesOf (pairs : List (Value × Value)) : List (Value × Value) :=
  pairs.foldl (fun entries pair => insert entries pair.1 pair.2) []

/-- Why a value cannot be a key of a mapping, if it cannot. -/
def keyError? : Value → Option Error
  | .list _ => some (.unhashable "list")
  | .map _ => some (.unhashable "dict")
  | .context _ => some (.unhashable "EvaluationContext")
  | .number n => if n.isSignaling then some .signalingKey else none
  | _ => none

end Value

end FeatureToggles
