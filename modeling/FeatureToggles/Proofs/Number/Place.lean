import FeatureToggles.Number
import Mathlib

/-!
# Where numbers stand

Every number that is one, of whatever sort, stands at a place of one ordered group: first counts the side
on which it is infinite, and then its exact value.  Numbers are compared as their places are, so the laws
of the order and of the group hold across the sorts, and nothing is rounded on the way.

Main statements: `equal_of_place`, `less_of_place` and `lessEqual_of_place`.
-/

namespace FeatureToggles

/-! ## Places -/

namespace Extended

/-- The place of an extended number: the infinities lie before and behind all finite numbers. -/
def place : Extended → ℤ ×ₗ ℚ
  | .negInfinity => toLex (-1, 0)
  | .finite x => toLex (0, x.toRat)
  | .posInfinity => toLex (1, 0)

lemma cmp_place_finite (x y : Scaled) :
    cmp (Extended.finite x).place (Extended.finite y).place = x.order y := by
  rw [Scaled.order_eq, comparison]
  split_ifs with hlt heq
  · exact (cmp_eq_lt_iff _ _).mpr (Prod.Lex.toLex_lt_toLex.mpr (.inr ⟨rfl, hlt⟩))
  · rw [place, place, heq]
    exact cmp_self_eq_eq _
  · have hgt : y.toRat < x.toRat := lt_of_le_of_ne (not_lt.mp hlt) (Ne.symm heq)
    exact (cmp_eq_gt_iff _ _).mpr (Prod.Lex.toLex_lt_toLex.mpr (.inr ⟨rfl, hgt⟩))

/-- Extended numbers are in the order of their places. -/
lemma cmp_place (x y : Extended) : cmp x.place y.place = x.order y := by
  have hlt : ∀ {s t : ℤ} {u v : ℚ}, s < t → cmp (toLex (s, u)) (toLex (t, v)) = .lt := fun h =>
    (cmp_eq_lt_iff _ _).mpr (Prod.Lex.toLex_lt_toLex.mpr (.inl h))
  have hgt : ∀ {s t : ℤ} {u v : ℚ}, t < s → cmp (toLex (s, u)) (toLex (t, v)) = .gt := fun h =>
    (cmp_eq_gt_iff _ _).mpr (Prod.Lex.toLex_lt_toLex.mpr (.inl h))
  cases x with
  | finite x =>
      cases y with
      | finite y => exact cmp_place_finite x y
      | negInfinity => exact hgt (by decide)
      | posInfinity => exact hlt (by decide)
  | negInfinity =>
      cases y with
      | negInfinity => exact cmp_self_eq_eq _
      | finite | posInfinity => exact hlt (by decide)
  | posInfinity =>
      cases y with
      | posInfinity => exact cmp_self_eq_eq _
      | finite | negInfinity => exact hgt (by decide)

end Extended

namespace Number

variable {a b : Number} {p q : ℤ ×ₗ ℚ}

/-- Whether a number is not one, by its name. -/
def isNaN : Number → Bool
  | .int _ => false
  | .float x => x.isNaN
  | .decimal d => d.isNaN

/-- The place of a number, if it is one. -/
def place? (a : Number) : Option (ℤ ×ₗ ℚ) := a.extent?.map Extended.place

lemma exists_place (h : a.isNaN = false) : ∃ p, a.place? = some p := by
  cases a with
  | int i => exact ⟨_, rfl⟩
  | float x =>
      cases x with
      | nan => simp [isNaN, Binary64.isNaN] at h
      | _ => exact ⟨_, rfl⟩
  | decimal d =>
      cases d with
      | nan => simp [isNaN, Decimal.isNaN] at h
      | _ => exact ⟨_, rfl⟩

/-- A number that is one is not known to be itself before it is compared. -/
lemma isSame_of_isNaN (h : a.isNaN = false) (b : Number) : a.isSame b = false := by
  cases a with
  | int i => rfl
  | float x =>
      cases x with
      | nan => simp [isNaN, Binary64.isNaN] at h
      | _ => rfl
  | decimal d =>
      cases d with
      | nan => simp [isNaN, Decimal.isNaN] at h
      | _ => rfl

lemma isNaN_of_place (h : a.place? = some p) : a.isNaN = false := by
  cases a with
  | int i => rfl
  | float x => cases x <;> first | rfl | cases h
  | decimal d => cases d <;> first | rfl | cases h

/-! ## Comparisons -/

lemma exists_extent (h : a.place? = some p) : ∃ x, a.extent? = some x ∧ x.place = p :=
  Option.map_eq_some_iff.mp h

/-- Numbers are equal if they stand at the same place. -/
lemma equal_of_place (ha : a.place? = some p) (hb : b.place? = some q) :
    a.equal b = .ok (decide (p = q)) := by
  obtain ⟨x, hx, rfl⟩ := exists_extent ha
  obtain ⟨y, hy, rfl⟩ := exists_extent hb
  rw [equal_of_extent hx hy, ← Extended.cmp_place]
  refine congrArg Except.ok (Bool.eq_iff_iff.mpr ?_)
  rw [beq_iff_eq, decide_eq_true_iff, cmp_eq_eq_iff]

/-- The order of numbers is that of their places. -/
lemma less_of_place (ha : a.place? = some p) (hb : b.place? = some q) :
    a.less b = .ok (decide (p < q)) := by
  obtain ⟨x, hx, rfl⟩ := exists_extent ha
  obtain ⟨y, hy, rfl⟩ := exists_extent hb
  rw [less, ordered_of_extent _ hx hy, ← Extended.cmp_place]
  refine congrArg Except.ok (Bool.eq_iff_iff.mpr ?_)
  rw [Ordering.isLT_iff_eq_lt, decide_eq_true_iff, cmp_eq_lt_iff]

lemma lessEqual_of_place (ha : a.place? = some p) (hb : b.place? = some q) :
    a.lessEqual b = .ok (decide (p ≤ q)) := by
  obtain ⟨x, hx, rfl⟩ := exists_extent ha
  obtain ⟨y, hy, rfl⟩ := exists_extent hb
  rw [lessEqual, ordered_of_extent _ hx hy, ← Extended.cmp_place]
  refine congrArg Except.ok (Bool.eq_iff_iff.mpr ?_)
  rw [Ordering.isLE_iff_ne_gt, decide_eq_true_iff, cmp_eq_gt_iff, not_lt]

end Number

end FeatureToggles
