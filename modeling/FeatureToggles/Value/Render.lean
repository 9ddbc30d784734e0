import FeatureToggles.Value
import FeatureToggles.Text.Quoted

/-!
# The text of a value

Values are written in two ways: as themselves (`toText`), where a text stands for itself, and inside
containers (`toQuoted`), where texts are quoted and decimals are marked.  Writing fails on integers
with too many digits, on objects that raise an error when their text is asked for, and on containers that
hold one of them.

Main statements: the two ways differ on texts and decimals alone (`toText_eq_toQuoted`).
-/

namespace FeatureToggles

namespace Value

/-- The digits of an integer, if there are not too many of them. -/
def intText (i : Int) : Except Error String :=
  if Nat.pow 10 digitLimit ≤ i.natAbs then .error .oversizedInteger
  else .ok (toString i)

/-- Encloses the parts of a mapping in braces. -/
def inBraces (parts : List String) : String :=
  "\x7b" ++ ", ".intercalate parts ++ "\x7d"

/-- The text of an object. -/
def objectText (self : Object) : Except Error String := self.text.mapError .raised

mutual

/-- The text of a value inside a container. -/
def toQuoted : Value → Except Error String
  | .null => .ok "None"
  | .bool b => .ok (if b then "True" else "False")
  | .number (.int i) => intText i
  | .number (.float x) => .ok x.toText
  | .number (.decimal d) => .ok ("Decimal('" ++ d.toText ++ "')")
  | .text s => .ok (Text.quote s)
  | .list items => (quotedItems items).map fun parts => "[" ++ ", ".intercalate parts ++ "]"
  | .map entries => (quotedEntries entries).map inBraces
  | .context entries =>
    (quotedEntries entries).map fun parts => "EvaluationContext(" ++ inBraces parts ++ ")"
  | .provider self .. => objectText self
  | .foreign self _ => objectText self
termination_by structural v => v

/-- The texts of the items of a list; the first failure ends the writing. -/
def quotedItems : List Value → Except Error (List String)
  | [] => .ok []
  | v :: vs =>
    match toQuoted v with
    | .error e => .error e
    | .ok part => (quotedItems vs).map (part :: ·)
termination_by structural vs => vs

/-- The texts of the entries of a mapping; the first failure ends the writing. -/
def quotedEntries : List (Value × Value) → Except Error (List String)
  | [] => .ok []
  | (key, v) :: es =>
    match toQuoted key, toQuoted v with
    | .error e, _ => .error e
    | .ok _, .error e => .error e
    | .ok k, .ok t => (quotedEntries es).map ((k ++ ": " ++ t) :: ·)
termination_by structural es => es

end

/-- The text of a value on its own. -/
def toText : Value → Except Error String
  | .text s => .ok s
  | .number (.decimal d) => .ok d.toText
  | v => v.toQuoted

theorem toText_eq_toQuoted {v : Value} (ht : ∀ s, v ≠ .text s)
    (hd : ∀ d, v ≠ .number (.decimal d)) : v.toText = v.toQuoted := by
  unfold toText
  split <;> simp_all

/-! ## Failures -/

/-- The rule that limits the digits of integers, in the words of a message. -/
def digitLimitText : String :=
  "Exceeds the limit (" ++ toString digitLimit ++ " digits) for integer string conversion"

/-- The advice that ends such a message. -/
def digitLimitAdvice : String :=
  "; use sys.set_int_max_str_digits() to increase the limit"

/-- The class of a failure on decimals. -/
def arithmeticClass : Decimal.Error → ErrorClass
  | .invalidOperation => .invalidOperation
  | .overflow => .overflow

/-- The fault of a failure inside a value. -/
def Error.fault : Error → Fault
  | .arithmetic e => .other (arithmeticClass e) ("[<class 'decimal." ++ (arithmeticClass e).name ++ "'>]")
  | .raised fault => fault
  | .notPair length =>
    .other .value
      (if 2 < length then "too many values to unpack (expected 2)"
        else "not enough values to unpack (expected 2, got " ++ toString length ++ ")")
  | .badRow index length =>
    .other .value ("dictionary update sequence element #" ++ toString index ++ " has length " ++
      toString length ++ "; 2 is required")
  | .notIterable name => .other .type ("'" ++ name ++ "' object is not iterable")
  | .notSequence index =>
    .other .type ("cannot convert dictionary update sequence element #" ++ toString index ++
      " to a sequence")
  | .unhashable name => .other .type ("unhashable type: '" ++ name ++ "'")
  | .signalingKey => .other .type "Cannot hash a signaling NaN value"
  | .oversizedInteger => .other .value (digitLimitText ++ digitLimitAdvice)

end Value

end FeatureToggles
