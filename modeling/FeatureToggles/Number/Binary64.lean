/-!
# Binary floating-point numbers

A finite number of the 64-bit binary format is kept as its sign, its integer mantissa and the power
of two that scales it, so that its value is an exact rational.  Numbers are made by rounding an exact
fraction to the nearest representable one, ties going to the even mantissa; sums are exact sums,
rounded once.

Main statements: negation is an involution and negates the value (`neg_neg`, `toRat?_neg`).
-/

namespace FeatureToggles

/-- A number of the 64-bit binary format.  A finite one stands for `± mantissa * 2 ^ exponent`, and a
not-a-number has a number of its own, by which it is told from others. -/
inductive Binary64 where
  | finite (negative : Bool) (mantissa : Nat) (exponent : Int)
  | infinite (negative : Bool)
  | nan (identity : Nat)
deriving DecidableEq

namespace Binary64

/-! ## The format -/

/-- The number of binary digits of a mantissa. -/
def precision : Nat := 53

/-- The least exponent, that of the numbers nearest to zero. -/
def minExponent : Int := -1074

/-- The greatest exponent of a finite number. -/
def maxExponent : Int := 971

/-- Zero, with a sign. -/
def zero (negative : Bool) : Binary64 := .finite negative 0 minExponent

/-- The exact value of a finite number. -/
def toRat? : Binary64 → Option Rat
  | .finite negative m e =>
    let q : Rat := (m : Rat) * (2 : Rat) ^ e
    some (if negative then -q else q)
  | .infinite _ => none
  | .nan _ => none

/-- The opposite number; not-a-number stays what it is. -/
def neg : Binary64 → Binary64
  | .finite negative m e => .finite (!negative) m e
  | .infinite negative => .infinite (!negative)
  | .nan i => .nan i

theorem neg_neg (x : Binary64) : x.neg.neg = x := by
  cases x <;> simp [neg]

theorem toRat?_neg (x : Binary64) : x.neg.toRat? = x.toRat?.map (-·) := by
  cases x with
  | finite negative m e => cases negative <;> simp [neg, toRat?]
  | infinite => rfl
  | nan => rfl

/-! ## Rounding -/

/-- The quotient `n / d`, rounded to the nearest integer, a half going to the even neighbour. -/
def roundQuotient (n d : Nat) : Nat :=
  let q := n / d
  let twice := 2 * (n % d)
  if d < twice || (twice == d && q % 2 == 1) then q + 1 else q

/-- The exponent at which the positive fraction `n / d` is rounded: the one that leaves a mantissa
of full precision, but no less than the least exponent. -/
def roundingExponent (n d : Nat) : Int :=
  let guess : Int := (n.log2 : Int) - d.log2
  let reached :=
    if 0 ≤ guess then d * Nat.pow 2 guess.toNat ≤ n else d ≤ n * Nat.pow 2 (-guess).toNat
  let top := if reached then guess else guess - 1
  max minExponent (top - (precision - 1))

/-- The number nearest to `± n / d`, a tie going to the even mantissa; a fraction that rounds to a
mantissa past the greatest exponent is infinite. -/
def nearest (negative : Bool) (n d : Nat) : Binary64 :=
  if n = 0 then zero negative else
  let e := roundingExponent n d
  let m :=
    if 0 ≤ e then roundQuotient n (d * Nat.pow 2 e.toNat)
    else roundQuotient (n * Nat.pow 2 (-e).toNat) d
  let (m, e) := if m = Nat.pow 2 precision then (Nat.pow 2 (precision - 1), e + 1) else (m, e)
  if maxExponent < e then .infinite negative else .finite negative m e

/-- The number nearest to `± coefficient * 10 ^ exponent`.  Powers of ten that are far outside the
format's range are settled by their size alone. -/
def ofScientific (negative : Bool) (coefficient : Nat) (exponent : Int) : Binary64 :=
  if coefficient = 0 then zero negative else
  let top := exponent + (Nat.toDigits 10 coefficient).length
  if 400 < top then .infinite negative
  else if top < -400 then zero negative
  else if 0 ≤ exponent then nearest negative (coefficient * Nat.pow 10 exponent.toNat) 1
  else nearest negative coefficient (Nat.pow 10 (-exponent).toNat)

/-- The number nearest to an integer. -/
def ofInt (i : Int) : Binary64 := nearest (decide (i < 0)) i.natAbs 1

/-- The number nearest to a rational. -/
def ofRat (q : Rat) : Binary64 := nearest (decide (q < 0)) q.num.natAbs q.den

/-! ## Sums -/

/-- The not-a-number that documents and sums without a value share. -/
def noNumber : Binary64 := .nan 0

/-- Whether the number is none. -/
def isNaN : Binary64 → Bool
  | .nan _ => true
  | _ => false

/-- The sum, rounded once.  Infinities of opposite signs have none. -/
def add (x y : Binary64) : Binary64 :=
  match x, y with
  | .nan i, _ => .nan i
  | _, .nan i => .nan i
  | .infinite a, .infinite b => if a = b then .infinite a else noNumber
  | .infinite a, _ => .infinite a
  | _, .infinite b => .infinite b
  | .finite a _ _, .finite b _ _ =>
    match x.toRat?, y.toRat? with
    | some p, some q => if p + q = 0 then zero (a && b) else ofRat (p + q)
    | _, _ => noNumber

end Binary64

end FeatureToggles
