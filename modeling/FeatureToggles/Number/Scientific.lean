import FeatureToggles.Text.Blank
import FeatureToggles.Text.Digit

/-!
# Scientific notation

Reading a number text of the form `±12.50e-3`: a sign, digits with at most one point among them, and
an exponent, of which only one digit is required.

Main statements: a row of digits alone reads as the number it writes (`ofChars?_digits`), and so does
one with a point among the digits (`ofChars?_point`).
-/

namespace FeatureToggles

/-- A number as it is written: `± coefficient * 10 ^ exponent`. -/
structure Scientific where
  negative : Bool
  coefficient : Nat
  exponent : Int
deriving DecidableEq

namespace Scientific

/-- Splits off a leading sign; the first part tells whether it is a minus. -/
def splitSign : List Char → Bool × List Char
  | '-' :: cs => (true, cs)
  | '+' :: cs => (false, cs)
  | cs => (false, cs)

/-- Splits off the fraction that a point starts, without the point. -/
def splitFraction : List Char → List Char × List Char
  | '.' :: cs => (cs.takeWhile Text.isDigit, cs.dropWhile Text.isDigit)
  | cs => ([], cs)

/-- Reads the exponent that ends a number; none is written for zero. -/
def exponentOf? : List Char → Option Int
  | [] => some 0
  | c :: cs =>
    let (negative, ds) := splitSign cs
    if (c == 'e' || c == 'E') && !ds.isEmpty && ds.all Text.isDigit then
      some (if negative then -(Text.digitsValue ds : Int) else Text.digitsValue ds)
    else none

/-- Reads a number text as a whole. -/
def ofChars? (cs : List Char) : Option Scientific :=
  let (negative, rest) := splitSign cs
  let whole := rest.takeWhile Text.isDigit
  let (fraction, rest) := splitFraction (rest.dropWhile Text.isDigit)
  if whole.isEmpty && fraction.isEmpty then none else
  (exponentOf? rest).map fun e =>
    ⟨negative, Text.digitsValue (whole ++ fraction), e - fraction.length⟩

theorem takeWhile_isDigit {ds : List Char} (h : ∀ c ∈ ds, Text.isDigit c = true) :
    ds.takeWhile Text.isDigit = ds ∧ ds.dropWhile Text.isDigit = [] := by
  induction ds with
  | nil => simp
  | cons c cs ih =>
    have hc := h c (by simp)
    have hcs := ih fun x hx => h x (by simp [hx])
    simp [hc, hcs]

theorem splitSign_of_isDigit {c : Char} {cs : List Char} (h : Text.isDigit c = true) :
    splitSign (c :: cs) = (false, c :: cs) := by
  have hm : c ≠ '-' := by rintro rfl; exact absurd h (by decide)
  have hp : c ≠ '+' := by rintro rfl; exact absurd h (by decide)
  unfold splitSign
  split <;> simp_all

/-- Digits alone are read as the integer they write. -/
theorem ofChars?_digits {ds : List Char} (hne : ds ≠ []) (h : ∀ c ∈ ds, Text.isDigit c = true) :
    ofChars? ds = some ⟨false, Text.digitsValue ds, 0⟩ := by
  obtain ⟨htake, hdrop⟩ := takeWhile_isDigit h
  cases ds with
  | nil => exact absurd rfl hne
  | cons c cs =>
    rw [ofChars?, splitSign_of_isDigit (h c (by simp))]
    simp [htake, hdrop, splitFraction, exponentOf?]

/-- Digits on both sides of a point are read as a multiple of a power of ten. -/
theorem ofChars?_point {ds fs : List Char} (hne : ds ≠ [])
    (hds : ∀ c ∈ ds, Text.isDigit c = true) (hfs : ∀ c ∈ fs, Text.isDigit c = true) :
    ofChars? (ds ++ '.' :: fs) = some ⟨false, Text.digitsValue (ds ++ fs), -fs.length⟩ := by
  have hpoint : Text.isDigit '.' = false := by decide
  obtain ⟨htake, hdrop⟩ := takeWhile_isDigit hfs
  cases ds with
  | nil => exact absurd rfl hne
  | cons c cs =>
    have hwhole : ((c :: cs) ++ '.' :: fs).takeWhile Text.isDigit = c :: cs := by
      rw [List.takeWhile_append_of_pos hds, List.takeWhile_cons_of_neg (by simp [hpoint]),
        List.append_nil]
    have hrest : ((c :: cs) ++ '.' :: fs).dropWhile Text.isDigit = '.' :: fs := by
      rw [List.dropWhile_append_of_pos hds, List.dropWhile_cons_of_neg (by simp [hpoint])]
    rw [ofChars?, List.cons_append, splitSign_of_isDigit (hds c (by simp)), ← List.cons_append]
    simp only [hwhole, hrest, splitFraction, htake, hdrop]
    simp [exponentOf?]

end Scientific

end FeatureToggles
