/-!
# Scaled integers

An integer and the power of ten that scales it.  Two of them are compared exactly.  Numbers that are
far apart are told apart by their signs and scales alone, so that no power of ten is ever made that is
larger than the digits at hand call for.

Main statements: the order is that of the exact values (`order_eq`), and numbers that are scaled by a
power of two keep their values (`toRat_ofBinary`).
-/

namespace FeatureToggles

/-- The order of two things that are below each other, equal, or neither. -/
def comparison {α : Type} [LT α] [DecidableLT α] [DecidableEq α] (a b : α) : Ordering :=
  if a < b then .lt else if a = b then .eq else .gt

/-- A number that stands for `coefficient * 10 ^ exponent`. -/
structure Scaled where
  coefficient : Int
  exponent : Int
deriving DecidableEq

namespace Scaled

/-- The exact value. -/
def toRat (x : Scaled) : Rat := (x.coefficient : Rat) * (10 : Rat) ^ x.exponent

/-- An exponent of ten whose power is greater than the number, whatever its sign. -/
def reach (x : Scaled) : Int := x.exponent + (x.coefficient.natAbs.log2 + 1 : Nat)

/-- The integer that a number is on a scale no greater than its own. -/
def onScale (x : Scaled) (low : Int) : Int :=
  x.coefficient * (Nat.pow 10 (x.exponent - low).toNat : Nat)

/-- The order of two numbers. -/
def order (x y : Scaled) : Ordering :=
  if x.coefficient = 0 then comparison 0 y.coefficient
  else if y.coefficient = 0 then comparison x.coefficient 0
  else if x.reach ≤ y.exponent then comparison 0 y.coefficient
  else if y.reach ≤ x.exponent then comparison x.coefficient 0
  else
    let low := min x.exponent y.exponent
    comparison (x.onScale low) (y.onScale low)

/-- The number of an integer that is scaled by a power of two: a power of two below one is one of ten
times one of five. -/
def ofBinary (m e : Int) : Scaled :=
  if 0 ≤ e then ⟨m * (Nat.pow 2 e.toNat : Nat), 0⟩ else ⟨m * (Nat.pow 5 (-e).toNat : Nat), e⟩

/-! ## Comparisons -/

theorem comparison_lt {α : Type} [LT α] [DecidableLT α] [DecidableEq α] {a b : α} (h : a < b) :
    comparison a b = .lt := if_pos h

theorem comparison_gt {α : Type} [LT α] [DecidableLT α] [DecidableEq α] {a b : α} (hlt : ¬ a < b)
    (hne : a ≠ b) : comparison a b = .gt := (if_neg hlt).trans (if_neg hne)

theorem comparison_int_gt {a b : Int} (h : b < a) : comparison a b = .gt :=
  comparison_gt (by omega) (by omega)

theorem comparison_rat_gt {a b : Rat} (h : b < a) : comparison a b = .gt :=
  comparison_gt (fun hab => Rat.lt_irrefl (Std.lt_of_lt_of_le hab (Rat.le_of_lt h))) (Rat.ne_of_gt h)

/-! ## Powers of ten -/

theorem ten_ne_zero : (10 : Rat) ≠ 0 := by decide

theorem ten_pow_pos (e : Int) : (0 : Rat) < (10 : Rat) ^ e := Rat.zpow_pos (by decide)

/-- A power of ten with a natural exponent as an integer. -/
theorem ten_pow_toNat {n : Int} (h : 0 ≤ n) :
    (((Nat.pow 10 n.toNat : Nat) : Int) : Rat) = (10 : Rat) ^ n := by
  obtain ⟨k, rfl⟩ := Int.eq_ofNat_of_zero_le h
  rw [Rat.zpow_natCast, Rat.intCast_natCast, Int.toNat_natCast]
  exact Rat.natCast_pow 10 k

theorem ten_pow_le {a b : Int} (h : a ≤ b) : (10 : Rat) ^ a ≤ (10 : Rat) ^ b := by
  have hone : (1 : Rat) ≤ (10 : Rat) ^ (b - a) := by
    rw [← ten_pow_toNat (by omega)]
    exact Rat.intCast_le_intCast.2 (Int.ofNat_le.2 (Nat.pow_pos (by decide)))
  have := Rat.mul_le_mul_of_nonneg_left hone (Rat.le_of_lt (ten_pow_pos a))
  rwa [Rat.mul_one, ← Rat.zpow_add ten_ne_zero, show a + (b - a) = b by omega] at this

/-! ## The order of the values -/

theorem toRat_onScale (x : Scaled) {low : Int} (h : low ≤ x.exponent) :
    x.toRat = (x.onScale low : Rat) * (10 : Rat) ^ low := by
  rw [onScale, Rat.intCast_mul, ten_pow_toNat (by omega), Rat.mul_assoc,
    ← Rat.zpow_add ten_ne_zero, show x.exponent - low + low = x.exponent by omega, toRat]

/-- A positive factor does not change the order. -/
theorem comparison_mul {a b c : Rat} (hc : 0 < c) :
    comparison (a * c) (b * c) = comparison a b := by
  have heq : a * c = b * c ↔ a = b := by
    constructor
    · intro h
      have hlt : ¬ a < b := fun hab => Rat.ne_of_lt (Rat.mul_lt_mul_of_pos_right hab hc) h
      have hgt : ¬ b < a := fun hab => Rat.ne_of_gt (Rat.mul_lt_mul_of_pos_right hab hc) h
      exact Rat.le_antisymm (Rat.not_lt.1 hgt) (Rat.not_lt.1 hlt)
    · rintro rfl
      rfl
  rw [comparison, comparison]
  simp only [Rat.mul_lt_mul_right hc, heq]

theorem comparison_intCast (a b : Int) :
    comparison (a : Rat) (b : Rat) = comparison a b := by
  rw [comparison, comparison]
  simp only [Rat.intCast_lt_intCast, Rat.intCast_inj]

/-- The values are bounded by the powers of ten that they reach. -/
theorem toRat_lt_reach (x : Scaled) :
    -(10 : Rat) ^ x.reach < x.toRat ∧ x.toRat < (10 : Rat) ^ x.reach := by
  have hnat : x.coefficient.natAbs < Nat.pow 10 (x.coefficient.natAbs.log2 + 1) :=
    Nat.lt_of_lt_of_le Nat.lt_log2_self (Nat.pow_le_pow_left (by decide) _)
  have hpow : (10 : Rat) ^ x.reach =
      ((Nat.pow 10 (x.coefficient.natAbs.log2 + 1) : Nat) : Int) * (10 : Rat) ^ x.exponent := by
    have := ten_pow_toNat (n := (x.coefficient.natAbs.log2 + 1 : Nat)) (by omega)
    rw [Int.toNat_natCast] at this
    rw [this, ← Rat.zpow_add ten_ne_zero, Int.add_comm, reach]
  rw [hpow, toRat, ← Rat.neg_mul, ← Rat.intCast_neg]
  constructor
  · exact Rat.mul_lt_mul_of_pos_right (Rat.intCast_lt_intCast.2 (by omega)) (ten_pow_pos _)
  · exact Rat.mul_lt_mul_of_pos_right (Rat.intCast_lt_intCast.2 (by omega)) (ten_pow_pos _)

/-- A number other than zero is at least as far from zero as the power of ten that scales it. -/
theorem exponent_le_toRat {x : Scaled} (h : 0 < x.coefficient) :
    (10 : Rat) ^ x.exponent ≤ x.toRat := by
  have : ((1 : Int) : Rat) ≤ (x.coefficient : Rat) := Rat.intCast_le_intCast.2 h
  have := Rat.mul_le_mul_of_nonneg_right this (Rat.le_of_lt (ten_pow_pos x.exponent))
  rwa [show ((1 : Int) : Rat) = 1 from rfl, Rat.one_mul] at this

theorem toRat_le_neg_exponent {x : Scaled} (h : x.coefficient < 0) :
    x.toRat ≤ -(10 : Rat) ^ x.exponent := by
  have : (x.coefficient : Rat) ≤ ((-1 : Int) : Rat) := Rat.intCast_le_intCast.2 (by omega)
  have := Rat.mul_le_mul_of_nonneg_right this (Rat.le_of_lt (ten_pow_pos x.exponent))
  rwa [show ((-1 : Int) : Rat) = -1 from rfl, Rat.neg_mul, Rat.one_mul] at this

/-- Beside a number that is out of reach only the sign of that number counts. -/
theorem toRat_lt_of_reach {x y : Scaled} (h : x.reach ≤ y.exponent) :
    (0 < y.coefficient → x.toRat < y.toRat) ∧ (y.coefficient < 0 → y.toRat < x.toRat) := by
  constructor
  · intro hy
    exact Std.lt_of_lt_of_le x.toRat_lt_reach.2 (Rat.le_trans (ten_pow_le h) (exponent_le_toRat hy))
  · intro hy
    exact Std.lt_of_le_of_lt
      (Rat.le_trans (toRat_le_neg_exponent hy) (Rat.neg_le_neg (ten_pow_le h))) x.toRat_lt_reach.1

/-- The order is that of the values. -/
theorem order_eq (x y : Scaled) : x.order y = comparison x.toRat y.toRat := by
  rw [order]
  split
  · next hx =>
    rw [toRat, hx, ← comparison_intCast, ← comparison_mul (ten_pow_pos y.exponent), ← toRat]
    rw [show ((0 : Int) : Rat) = 0 from rfl, Rat.zero_mul, Rat.zero_mul]
  split
  · next hy =>
    rw [toRat.eq_def y, hy, ← comparison_intCast, ← comparison_mul (ten_pow_pos x.exponent), ← toRat]
    rw [show ((0 : Int) : Rat) = 0 from rfl, Rat.zero_mul, Rat.zero_mul]
  split
  · next hy h =>
    rcases Int.lt_or_gt_of_ne hy with hneg | hpos
    · rw [comparison_int_gt hneg, comparison_rat_gt ((toRat_lt_of_reach h).2 hneg)]
    · rw [comparison_lt hpos, comparison_lt ((toRat_lt_of_reach h).1 hpos)]
  split
  · next hx _ _ h =>
    rcases Int.lt_or_gt_of_ne hx with hneg | hpos
    · rw [comparison_lt hneg, comparison_lt ((toRat_lt_of_reach h).2 hneg)]
    · rw [comparison_int_gt hpos, comparison_rat_gt ((toRat_lt_of_reach h).1 hpos)]
  · simp only
    rw [toRat_onScale x (Int.min_le_left x.exponent y.exponent),
      toRat_onScale y (Int.min_le_right x.exponent y.exponent), comparison_mul (ten_pow_pos _),
      comparison_intCast]

/-! ## Powers of two -/

theorem five_pow_mul (n : Nat) :
    (((Nat.pow 5 n : Nat) : Int) : Rat) * (10 : Rat) ^ (-(n : Int)) = (2 : Rat) ^ (-(n : Int)) := by
  induction n with
  | zero =>
    rw [Int.natCast_zero, Int.neg_zero, Rat.zpow_zero, Rat.zpow_zero, Rat.mul_one]
    rfl
  | succ n ih =>
    have hten : (10 : Rat) ^ (-((n + 1 : Nat) : Int)) = (10 : Rat) ^ (-(n : Int)) * 10⁻¹ := by
      rw [← Rat.zpow_sub_one ten_ne_zero, show -((n + 1 : Nat) : Int) = -(n : Int) - 1 by omega]
    have htwo : (2 : Rat) ^ (-((n + 1 : Nat) : Int)) = (2 : Rat) ^ (-(n : Int)) * 2⁻¹ := by
      rw [← Rat.zpow_sub_one (by decide), show -((n + 1 : Nat) : Int) = -(n : Int) - 1 by omega]
    have hfive : (((Nat.pow 5 (n + 1) : Nat) : Int) : Rat) =
        5 * (((Nat.pow 5 n : Nat) : Int) : Rat) := by
      rw [show Nat.pow 5 (n + 1) = 5 * Nat.pow 5 n from Nat.mul_comm .., Int.natCast_mul,
        Rat.intCast_mul]
      rfl
    have hhalf : (2 : Rat)⁻¹ = 5 * 10⁻¹ := Rat.inv_eq_of_mul_eq_one (by decide +kernel)
    rw [hten, htwo, hfive, ← ih, hhalf, Rat.mul_comm 5, Rat.mul_assoc, Rat.mul_assoc,
      ← Rat.mul_assoc 5, Rat.mul_comm 5, Rat.mul_assoc _ 5]

theorem toRat_ofBinary (m e : Int) : (ofBinary m e).toRat = (m : Rat) * (2 : Rat) ^ e := by
  rw [ofBinary]
  split
  · next h =>
    obtain ⟨n, rfl⟩ := Int.eq_ofNat_of_zero_le h
    rw [toRat, Rat.intCast_mul, Int.toNat_natCast, Rat.zpow_zero, Rat.mul_one, Rat.zpow_natCast,
      Rat.intCast_natCast]
    exact congrArg _ (Rat.natCast_pow 2 n)
  · next h =>
    obtain ⟨n, hn⟩ : ∃ n : Nat, e = -(n : Int) := ⟨(-e).toNat, by omega⟩
    subst hn
    rw [toRat, Rat.intCast_mul, Rat.mul_assoc, show (-(-(n : Int))).toNat = n by omega,
      five_pow_mul]

end Scaled

end FeatureToggles
