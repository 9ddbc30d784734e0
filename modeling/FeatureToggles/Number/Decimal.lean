import FeatureToggles.Number.Scientific
import FeatureToggles.Number.Binary64

/-!
# Decimal numbers

Decimal floating-point numbers of any precision, with signed zeros, infinities and two sorts of
not-a-number, of which the signaling one makes every operation fail.  They are written in the
to-scientific-string form of the General Decimal Arithmetic specification.  Arithmetic rounds to 28
significant digits and to exponents of at most six digits.

Main statement: a signaling not-a-number has no opposite (`neg_of_isSignaling`).
-/

namespace FeatureToggles

/-- A decimal number.  A finite one stands for `± coefficient * 10 ^ exponent`; the payload of a
not-a-number is a number that is written after its name, unless it is zero, and its identity tells it from
others. -/
inductive Decimal where
  | finite (negative : Bool) (coefficient : Nat) (exponent : Int)
  | infinite (negative : Bool)
  | nan (negative signaling : Bool) (payload identity : Nat)
deriving DecidableEq

namespace Decimal

/-- Why an operation on decimals has no result. -/
inductive Error where
  /-- An operation that is not defined on its operands. -/
  | invalidOperation
  /-- A result past the greatest exponent. -/
  | overflow
deriving DecidableEq

/-- Whether the decimal is not a number. -/
def isNaN : Decimal → Bool
  | .nan .. => true
  | _ => false

/-- Whether the decimal makes every operation on it fail. -/
def isSignaling : Decimal → Bool
  | .nan _ signaling .. => signaling
  | _ => false

/-! ## Text -/

/-- The digits of a coefficient placed by the to-scientific-string rule: positionally when the
exponent is not positive and the leading digit stands no lower than the sixth decimal place. -/
def placeDigits (ds : List Char) (exponent : Int) : List Char :=
  let lead := exponent + ds.length - 1
  if exponent ≤ 0 ∧ -6 ≤ lead then
    if exponent = 0 then ds
    else
      let places := (-exponent).toNat
      let padded := List.replicate (places + 1 - ds.length) '0' ++ ds
      let whole := padded.length - places
      padded.take whole ++ '.' :: padded.drop whole
  else
    let fraction := ds.drop 1
    let sign := if lead < 0 then '-' else '+'
    ds.take 1 ++ (if fraction.isEmpty then [] else '.' :: fraction) ++
      'E' :: sign :: Nat.toDigits 10 lead.natAbs

/-- The text of a decimal. -/
def toText (d : Decimal) : String :=
  let (negative, body) := match d with
    | .finite negative c e => (negative, placeDigits (Nat.toDigits 10 c) e)
    | .infinite negative => (negative, "Infinity".toList)
    | .nan negative signaling payload _ =>
      let name := if signaling then "sNaN".toList else "NaN".toList
      (negative, name ++ if payload = 0 then [] else Nat.toDigits 10 payload)
  String.ofList (if negative then '-' :: body else body)

/-- Reads the name of a decimal that is not finite, in lower case. -/
def special? (negative : Bool) : List Char → Option Decimal
  | 'i' :: 'n' :: 'f' :: rest =>
    if rest = [] ∨ rest = "inity".toList then some (.infinite negative) else none
  | 'n' :: 'a' :: 'n' :: rest =>
    if rest.all Text.isDigit then some (.nan negative false (Text.digitsValue rest) 0) else none
  | 's' :: 'n' :: 'a' :: 'n' :: rest =>
    if rest.all Text.isDigit then some (.nan negative true (Text.digitsValue rest) 0) else none
  | _ => none

/-- Reads a decimal, exactly.  White space around it and underscores anywhere are ignored, and names
are read in either case. -/
def ofString? (s : String) : Option Decimal :=
  let cs := (Text.trim s.toList).filter (· != '_')
  match Scientific.ofChars? cs with
  | some n => some (.finite n.negative n.coefficient n.exponent)
  | none =>
    let (negative, rest) := Scientific.splitSign cs
    special? negative (rest.map Char.toLower)

/-! ## Negation -/

/-- The number of significant digits of a result. -/
def precision : Nat := 28

/-- The greatest exponent that the leading digit of a result may have. -/
def maxExponent : Int := 999999

/-- The least exponent of a result. -/
def minExponent : Int := -1000026

/-- Brings a finite decimal into the range of results: digits beyond the precision or below the
least exponent are rounded off, a half going to the even neighbour. -/
def round (negative : Bool) (coefficient : Nat) (exponent : Int) : Except Error Decimal :=
  if coefficient = 0 then
    .ok (.finite negative 0 (max minExponent (min maxExponent exponent)))
  else
    let length : Int := (Nat.toDigits 10 coefficient).length
    let least := max minExponent (exponent + (length - precision))
    let (c, e) :=
      if exponent < least then
        let drop := (least - exponent).toNat
        -- past one digit more than there are, all of them are rounded away
        let q := if length + 1 < drop then 0 else Binary64.roundQuotient coefficient (Nat.pow 10 drop)
        if q = Nat.pow 10 precision then (Nat.pow 10 (precision - 1), least + 1) else (q, least)
      else (coefficient, exponent)
    if maxExponent < e + (Nat.toDigits 10 c).length - 1 then .error .overflow
    else .ok (.finite negative c e)

/-- The opposite number, rounded.  Zero has no negative form here.  A not-a-number stays what it is
unless it is signaling, but of its payload only the last digits remain, as many as a result has. -/
def neg : Decimal → Except Error Decimal
  | .finite negative c e => round (if c = 0 then false else !negative) c e
  | .infinite negative => .ok (.infinite !negative)
  | .nan negative signaling payload identity =>
    if signaling then .error .invalidOperation
    else .ok (.nan negative false (payload % Nat.pow 10 precision) identity)

theorem neg_of_isSignaling {d : Decimal} (h : d.isSignaling = true) :
    d.neg = .error .invalidOperation := by
  cases d with
  | finite => cases h
  | infinite => cases h
  | nan negative signaling payload identity =>
    obtain rfl : signaling = true := h
    rfl

end Decimal

end FeatureToggles
