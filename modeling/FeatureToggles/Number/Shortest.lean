import FeatureToggles.Number.Binary64

/-!
# The shortest text of a binary number

A finite number is written with the fewest decimal digits that read back as the same number; of
several such texts the one nearest to its value is taken.  The search runs over exact rationals: a
decimal of `k` digits reads back if it lies in the interval of rationals that round to the number,
and if any does, one of the value's two neighbours on the grid of `k` digits does.

Main statement: whatever digits the search finds lie in that interval (`digits_readsBack`).
-/

namespace FeatureToggles

namespace Binary64

/-- The rationals that round to the positive number `m * 2 ^ e`: an interval about its value, closed
when the mantissa is even. -/
structure Neighbourhood where
  value : Rat
  low : Rat
  high : Rat
  closed : Bool

/-- The interval about `m * 2 ^ e`.  Below a power of two the gap to the next number is half as
wide as above it. -/
def neighbourhood (m : Nat) (e : Int) : Neighbourhood :=
  let unit : Rat := (2 : Rat) ^ e
  let value := (m : Rat) * unit
  let narrow := m = Nat.pow 2 (precision - 1) ∧ minExponent < e
  { value
    low := if narrow then value - unit / 4 else value - unit / 2
    high := value + unit / 2
    closed := m % 2 == 0 }

/-- Whether a rational rounds to the number that the interval belongs to. -/
def Neighbourhood.contains (near : Neighbourhood) (q : Rat) : Bool :=
  if near.closed then near.low ≤ q && q ≤ near.high else near.low < q && q < near.high

/-- The exponent of the leading decimal digit of a positive rational. -/
def leadingExponent (q : Rat) : Int :=
  let n := q.num.natAbs
  let d := q.den
  if d ≤ n then ((Nat.toDigits 10 (n / d)).length : Int) - 1
  else -((Nat.toDigits 10 ((d - 1) / n)).length : Int)

/-- The decimal of at most `count` digits that reads back and is nearest to the value, if any, as an
integer and the power of ten that scales it. -/
def digitsAt? (near : Neighbourhood) (count : Nat) : Option (Nat × Int) :=
  let scale := leadingExponent near.value - count + 1
  let ten : Rat := (10 : Rat) ^ scale
  let below := (near.value / ten).floor.toNat
  let above := below + 1
  let fits (n : Nat) : Bool := near.contains ((n : Rat) * ten)
  let gapBelow := near.value - (below : Rat) * ten
  let gapAbove := (above : Rat) * ten - near.value
  let preferBelow := gapBelow < gapAbove || (gapBelow = gapAbove && below % 2 == 0)
  match fits below, fits above with
  | true, true => some (if preferBelow then below else above, scale)
  | true, false => some (below, scale)
  | false, true => some (above, scale)
  | false, false => none

/-- The fewest digits that read back as `m * 2 ^ e`, as an integer and the power of ten that scales
it.  Seventeen digits always suffice. -/
def digits (m : Nat) (e : Int) : Nat × Int :=
  ((List.range 17).findSome? fun k => digitsAt? (neighbourhood m e) (k + 1)).getD (m, 0)

theorem digitsAt?_contains {near : Neighbourhood} {count n : Nat} {s : Int}
    (h : digitsAt? near count = some (n, s)) :
    near.contains ((n : Rat) * (10 : Rat) ^ s) = true := by
  simp only [digitsAt?] at h
  split at h
  · next hb ha =>
    simp only [Option.some.injEq, Prod.mk.injEq] at h
    obtain ⟨hn, hs⟩ := h
    subst hs
    split at hn <;> subst hn <;> assumption
  · next hb _ => cases h; exact hb
  · next _ ha => cases h; exact ha
  · simp at h

/-- Whatever the search finds rounds to the number. -/
theorem digits_readsBack {m : Nat} {e : Int}
    (h : ((List.range 17).findSome? fun k => digitsAt? (neighbourhood m e) (k + 1)).isSome) :
    (neighbourhood m e).contains (((digits m e).1 : Rat) * (10 : Rat) ^ (digits m e).2) = true := by
  obtain ⟨⟨n, s⟩, hns⟩ := Option.isSome_iff_exists.1 h
  obtain ⟨k, _, hk⟩ := List.exists_of_findSome?_eq_some hns
  simpa [digits, hns] using digitsAt?_contains hk

/-! ## Layout -/

/-- Where a text of digits changes to exponent form, and how the exponent is written. -/
structure Layout where
  /-- The least leading exponent that is written positionally. -/
  leastPositional : Int
  /-- The least leading exponent that is not. -/
  firstScientific : Int
  /-- The least number of digits of a written exponent. -/
  exponentWidth : Nat

/-- Numbers from `0.0001` up to below `10 ^ 16` are written positionally; exponents have a sign and
two digits. -/
def standardLayout : Layout := ⟨-4, 16, 2⟩

/-- Writes an integer in base ten, padded with zeros to `width`. -/
def paddedDigits (width n : Nat) : List Char :=
  let ds := Nat.toDigits 10 n
  List.replicate (width - ds.length) '0' ++ ds

/-- Drops the zeros at the end of a row of digits. -/
def dropTrailingZeros (ds : List Char) : List Char :=
  (ds.reverse.dropWhile (· == '0')).reverse

/-- Lays out a row of digits whose first one has the given exponent. -/
def layOut (layout : Layout) (ds : List Char) (lead : Int) : List Char :=
  if layout.leastPositional ≤ lead ∧ lead < layout.firstScientific then
    if lead < 0 then
      '0' :: '.' :: List.replicate ((-lead).toNat - 1) '0' ++ ds
    else
      let whole := lead.toNat + 1
      let fraction := ds.drop whole
      ds.take whole ++ List.replicate (whole - ds.length) '0' ++
        '.' :: (if fraction.isEmpty then ['0'] else fraction)
  else
    let fraction := ds.drop 1
    let exponent := (if lead < 0 then '-' else '+') :: paddedDigits layout.exponentWidth lead.natAbs
    ds.take 1 ++ (if fraction.isEmpty then [] else '.' :: fraction) ++ 'e' :: exponent

/-- The text of a number: its shortest digits, or the name of what is not finite. -/
def toText : Binary64 → String
  | .finite negative m e =>
    let body :=
      if m = 0 then ['0', '.', '0'] else
      let (n, scale) := digits m e
      let ds := Nat.toDigits 10 n
      layOut standardLayout (dropTrailingZeros ds) (scale + ds.length - 1)
    String.ofList (if negative then '-' :: body else body)
  | .infinite negative => if negative then "-inf" else "inf"
  | .nan _ => "nan"

end Binary64

end FeatureToggles
