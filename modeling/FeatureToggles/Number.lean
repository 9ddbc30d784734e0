import FeatureToggles.Number.Shortest
import FeatureToggles.Number.Decimal
import FeatureToggles.Number.Scaled

/-!
# Numbers

The three sorts of numbers that a context may hold: integers of any size, binary floating-point
numbers and decimals.  They are compared across sorts by the exact values they stand for, so that no
comparison rounds.  A not-a-number equals nothing and is ordered with nothing; decimals refuse to be
ordered with one, and signaling ones refuse every comparison.

One not-a-number is told from another by its own number, since containers take an object for equal to
itself (`isSame`).

Main statements: numbers are compared as what they stand for (`equal_of_extent`, `ordered_of_extent`).
-/

namespace FeatureToggles

/-- A number of one of three sorts. -/
inductive Number where
  | int (i : Int)
  | float (x : Binary64)
  | decimal (d : Decimal)
deriving DecidableEq

/-- The greatest number of digits of an integer that is read from text or written as text. -/
def digitLimit : Nat := 4300

/-- What numbers stand for: finite values and the two infinities. -/
inductive Extended where
  | negInfinity
  | finite (x : Scaled)
  | posInfinity
deriving DecidableEq

namespace Extended

/-- The order of the extended numbers. -/
def order : Extended → Extended → Ordering
  | .negInfinity, .negInfinity => .eq
  | .negInfinity, _ => .lt
  | .finite _, .negInfinity => .gt
  | .finite x, .finite y => x.order y
  | .finite _, .posInfinity => .lt
  | .posInfinity, .posInfinity => .eq
  | .posInfinity, _ => .gt

end Extended

namespace Number

/-- The name of a number's type. -/
def typeName : Number → String
  | .int _ => "int"
  | .float _ => "float"
  | .decimal _ => "Decimal"

/-- An integer with a sign. -/
def signed (negative : Bool) (n : Nat) : Int := if negative then -(n : Int) else n

/-- An infinity with a sign. -/
def infinity (negative : Bool) : Extended := if negative then .negInfinity else .posInfinity

/-- What a number stands for, if it is one. -/
def extent? : Number → Option Extended
  | .int i => some (.finite ⟨i, 0⟩)
  | .float (.finite negative m e) => some (.finite (.ofBinary (signed negative m) e))
  | .float (.infinite negative) => some (infinity negative)
  | .float (.nan _) => none
  | .decimal (.finite negative c e) => some (.finite ⟨signed negative c, e⟩)
  | .decimal (.infinite negative) => some (infinity negative)
  | .decimal (.nan ..) => none

/-- Whether the number makes every operation on it fail. -/
def isSignaling : Number → Bool
  | .decimal d => d.isSignaling
  | _ => false

/-- Whether the number is a decimal. -/
def isDecimal : Number → Bool
  | .decimal _ => true
  | _ => false

/-- Whether two numbers are one and the same not-a-number. -/
def isSame : Number → Number → Bool
  | .float (.nan i), .float (.nan j) => i == j
  | .decimal (.nan _ _ _ i), .decimal (.nan _ _ _ j) => i == j
  | _, _ => false

/-- Whether two numbers stand for the same value. -/
def equal (a b : Number) : Except Decimal.Error Bool :=
  if a.isSignaling || b.isSignaling then .error .invalidOperation
  else match a.extent?, b.extent? with
    | some x, some y => .ok (x.order y == .eq)
    | _, _ => .ok false

/-- Tests the order of two numbers.  Where one is not a number the answer is no, unless a decimal
takes part. -/
def ordered (test : Ordering → Bool) (a b : Number) : Except Decimal.Error Bool :=
  match a.extent?, b.extent? with
  | some x, some y => .ok (test (x.order y))
  | _, _ => if a.isDecimal || b.isDecimal then .error .invalidOperation else .ok false

/-- Whether the first number lies below the second. -/
def less (a b : Number) : Except Decimal.Error Bool := ordered Ordering.isLT a b

/-- Whether the first number lies below the second or equals it. -/
def lessEqual (a b : Number) : Except Decimal.Error Bool := ordered Ordering.isLE a b

/-- The opposite number. -/
def neg : Number → Except Decimal.Error Number
  | .int i => .ok (.int (-i))
  | .float x => .ok (.float x.neg)
  | .decimal d => d.neg.map .decimal

/-! ## Lemmas -/

theorem cast_signed (negative : Bool) (n : Nat) (q : Rat) :
    (signed negative n : Rat) * q = if negative then -((n : Rat) * q) else (n : Rat) * q := by
  cases negative with
  | false => rfl
  | true => exact Rat.neg_mul (n : Rat) q

theorem not_isSignaling_of_extent {a : Number} {x : Extended} (h : a.extent? = some x) :
    a.isSignaling = false := by
  cases a with
  | int => rfl
  | float => rfl
  | decimal d =>
    cases d with
    | finite => rfl
    | infinite => rfl
    | nan => simp [extent?] at h

theorem equal_of_extent {a b : Number} {x y : Extended} (ha : a.extent? = some x)
    (hb : b.extent? = some y) : a.equal b = .ok (x.order y == .eq) := by
  simp [equal, not_isSignaling_of_extent ha, not_isSignaling_of_extent hb, ha, hb]

theorem ordered_of_extent {a b : Number} {x y : Extended} (test : Ordering → Bool)
    (ha : a.extent? = some x) (hb : b.extent? = some y) :
    ordered test a b = .ok (test (x.order y)) := by
  simp [ordered, ha, hb]

end Number

end FeatureToggles
