import FeatureToggles.Proofs.Number.Place
import Mathlib

/-!
# Opposite numbers

Integers and binary numbers have exact opposites.  The opposite of a decimal is a result of decimal
arithmetic, which has so many digits, begins no higher and ends no lower than results may.  A decimal of such
a magnitude is negated exactly, whatever digits and exponent it was given; of any other one the opposite is
rounded, or there is none.

Main statements: `round_of_isResult` and `isResult_of_round` for decimals, and `neg_of_negatesExactly`,
`negatesExactly_of_neg` and `negatesExactly_of_neg_neg` for numbers of all sorts.
-/

namespace FeatureToggles

/-! ## Quotients -/

namespace Binary64

lemma roundQuotient_of_dvd {n d : ℕ} (hd : 0 < d) (h : d ∣ n) : roundQuotient n d = n / d := by
  have hmod : n % d = 0 := Nat.mod_eq_zero_of_dvd h
  have hne : d ≠ 0 := hd.ne'
  simp [roundQuotient, hmod, hne.symm]

lemma roundQuotient_le {n d m : ℕ} (h : n < d * m) : roundQuotient n d ≤ m := by
  have hquotient : n / d < m := Nat.div_lt_of_lt_mul h
  simp only [roundQuotient]
  split_ifs <;> omega

end Binary64

namespace Decimal

variable {c : ℕ} {e : ℤ}

/-! ## Digits -/

/-- The number of digits of a coefficient. -/
def digits (c : ℕ) : ℕ := (Nat.toDigits 10 c).length

lemma digits_le_iff {k : ℕ} (hk : 0 < k) : digits c ≤ k ↔ c < 10 ^ k :=
  Nat.length_toDigits_le_iff (by decide) hk

lemma digits_pos (c : ℕ) : 0 < digits c := Nat.length_toDigits_pos

lemma lt_pow_digits (c : ℕ) : c < 10 ^ digits c := (digits_le_iff (digits_pos c)).mp le_rfl

lemma pow_digits_le (hc : c ≠ 0) : 10 ^ (digits c - 1) ≤ c := by
  by_contra hlt
  have hpos : 0 < digits c - 1 := by
    by_contra hzero
    have : digits c - 1 = 0 := by omega
    rw [this] at hlt
    omega
  have hle : digits c ≤ digits c - 1 := (digits_le_iff hpos).mpr (not_le.mp hlt)
  omega

/-! ## Magnitudes -/

/-- The magnitude of a coefficient that is scaled by a power of ten. -/
def magnitude (c : ℕ) (e : ℤ) : ℚ := c * 10 ^ e

/-- Whether a magnitude is one of results: it has so many digits at most, ends no lower than at the least
exponent, and lies below the power of ten that comes after the greatest one. -/
def IsResult (q : ℚ) : Prop :=
  (∃ (c : ℕ) (e : ℤ), q = magnitude c e ∧ c < 10 ^ precision ∧ minExponent ≤ e) ∧
    q < 10 ^ (maxExponent + 1)

lemma magnitude_shift (c : ℕ) (e : ℤ) (k : ℕ) : magnitude (c * 10 ^ k) e = magnitude c (e + k) := by
  rw [magnitude, magnitude, zpow_add₀ (by norm_num), zpow_natCast]
  push_cast
  ring

lemma magnitude_eq_zero_iff : magnitude c e = 0 ↔ c = 0 := by
  have : (10 : ℚ) ^ e ≠ 0 := zpow_ne_zero e (by norm_num)
  simp [magnitude, this]

/-- Equal magnitudes of the lower exponent have the coefficient of the higher one with zeros behind it. -/
lemma eq_mul_pow_of_magnitude {d : ℕ} {f : ℤ} (hle : e ≤ f) (h : magnitude c e = magnitude d f) :
    c = d * 10 ^ (f - e).toNat := by
  have hshift := magnitude_shift d e (f - e).toNat
  rw [show e + ((f - e).toNat : ℤ) = f by omega, ← h, magnitude, magnitude] at hshift
  have hpow : (10 : ℚ) ^ e ≠ 0 := zpow_ne_zero e (by norm_num)
  exact_mod_cast (mul_right_cancel₀ hpow hshift).symm

lemma magnitude_lt_iff (hc : c ≠ 0) (m : ℤ) : magnitude c e < 10 ^ (m + 1) ↔ e + digits c - 1 ≤ m := by
  have hten : (1 : ℚ) < 10 := by norm_num
  have hpow : (0 : ℚ) < 10 ^ e := zpow_pos (by norm_num) e
  constructor
  · intro h
    have hlow : (10 : ℚ) ^ (digits c - 1) ≤ c := by exact_mod_cast pow_digits_le hc
    have hmagnitude : (10 : ℚ) ^ (e + (digits c - 1 : ℕ)) ≤ magnitude c e := by
      rw [magnitude, zpow_add₀ (by norm_num), zpow_natCast, mul_comm]
      exact mul_le_mul_of_nonneg_right hlow hpow.le
    have hlt := (zpow_lt_zpow_iff_right₀ hten).mp (hmagnitude.trans_lt h)
    have := digits_pos c
    omega
  · intro h
    have hhigh : (c : ℚ) < 10 ^ digits c := by exact_mod_cast lt_pow_digits c
    calc magnitude c e < 10 ^ digits c * 10 ^ e := mul_lt_mul_of_pos_right hhigh hpow
      _ = 10 ^ (digits c + e : ℤ) := by rw [zpow_add₀ (by norm_num), zpow_natCast]
      _ ≤ 10 ^ (m + 1) := zpow_le_zpow_right₀ hten.le (by omega)

/-! ## Rounding -/

/-- The least exponent that is left to a coefficient when it has too many digits or ends too low. -/
def least (c : ℕ) (e : ℤ) : ℤ := max minExponent (e + ((digits c : ℤ) - precision))

/-- What a coefficient is rounded to at the least exponent. -/
def rest (c : ℕ) (e : ℤ) : ℕ :=
  if (digits c : ℤ) + 1 < ((least c e - e).toNat : ℕ) then 0
  else Binary64.roundQuotient c (10 ^ (least c e - e).toNat)

/-- The coefficient and the exponent that rounding leaves, before it is asked whether they are too great. -/
def cut (c : ℕ) (e : ℤ) : ℕ × ℤ :=
  if e < least c e then
    if rest c e = 10 ^ precision then (10 ^ (precision - 1), least c e + 1) else (rest c e, least c e)
  else (c, e)

lemma round_eq_cut (negative : Bool) (hc : c ≠ 0) :
    round negative c e =
      if maxExponent < (cut c e).2 + digits (cut c e).1 - 1 then .error .overflow
      else .ok (.finite negative (cut c e).1 (cut c e).2) := by
  rw [round, if_neg hc]
  rfl

/-- The digits that are kept are no more than a result has. -/
lemma lt_pow_least (h : e < least c e) : c < 10 ^ (least c e - e).toNat * 10 ^ precision := by
  have hleast : e + ((digits c : ℤ) - precision) ≤ least c e := le_max_right _ _
  rw [← pow_add]
  exact (lt_pow_digits c).trans_le (Nat.pow_le_pow_right (by decide) (by omega))

/-- Of a coefficient of a result, only zeros are cut off. -/
lemma pow_least_dvd {d : ℕ} {f : ℤ} (h : magnitude c e = magnitude d f) (hd : d < 10 ^ precision)
    (hf : minExponent ≤ f) (hlt : e < least c e) : 10 ^ (least c e - e).toNat ∣ c := by
  rcases le_total e f with hef | hfe
  · -- as many zeros as `f` lies above `e` end the coefficient, and the least exponent is at most `f`
    have hmul := eq_mul_pow_of_magnitude hef h
    have hbound : c < 10 ^ (precision + (f - e).toNat) := by
      rw [hmul, pow_add]
      exact Nat.mul_lt_mul_of_pos_right hd (Nat.pow_pos (by decide))
    have hdigits := (digits_le_iff (by simp [precision])).mpr hbound
    have hleast : least c e ≤ f := max_le hf (by omega)
    have hdvd : 10 ^ (least c e - e).toNat ∣ d * 10 ^ (f - e).toNat :=
      Dvd.dvd.mul_left (Nat.pow_dvd_pow 10 (by omega)) d
    rwa [← hmul] at hdvd
  · -- a coefficient that is no longer than a result is cut only where the exponent is too low
    have hmul := eq_mul_pow_of_magnitude hfe h.symm
    have hbound : c < 10 ^ precision :=
      (hmul ▸ Nat.le_mul_of_pos_right c (Nat.pow_pos (by decide))).trans_lt hd
    have hdigits := (digits_le_iff (by decide)).mpr hbound
    have hleast : least c e ≤ e := max_le (hf.trans hfe) (by omega)
    omega

/-- Where only zeros are cut off, nothing is rounded. -/
lemma rest_of_dvd (hc : c ≠ 0) (hdvd : 10 ^ (least c e - e).toNat ∣ c) :
    rest c e = c / 10 ^ (least c e - e).toNat := by
  have hpos : 0 < 10 ^ (least c e - e).toNat := Nat.pow_pos (by decide)
  have hdrop : (least c e - e).toNat < digits c := by
    have hle := Nat.le_of_dvd (Nat.pos_of_ne_zero hc) hdvd
    exact (Nat.pow_lt_pow_iff_right (by decide)).mp (hle.trans_lt (lt_pow_digits c))
  rw [rest, if_neg (by omega), Binary64.roundQuotient_of_dvd hpos hdvd]

/-- What rounding leaves of a result is the same magnitude. -/
lemma magnitude_cut {d : ℕ} {f : ℤ} (hc : c ≠ 0) (h : magnitude c e = magnitude d f)
    (hd : d < 10 ^ precision) (hf : minExponent ≤ f) :
    magnitude (cut c e).1 (cut c e).2 = magnitude c e := by
  by_cases hlt : e < least c e
  · have hdvd := pow_least_dvd h hd hf hlt
    have hrest := rest_of_dvd hc hdvd
    have hne : rest c e ≠ 10 ^ precision := by
      rw [hrest]
      exact (Nat.div_lt_of_lt_mul (lt_pow_least hlt)).ne
    rw [cut, if_pos hlt, if_neg hne]
    calc magnitude (rest c e) (least c e)
        = magnitude (rest c e) (e + (least c e - e).toNat) := by congr 1; omega
      _ = magnitude c e := by rw [← magnitude_shift, hrest, Nat.div_mul_cancel hdvd]
  · rw [cut, if_neg hlt]

lemma rest_le (h : e < least c e) : rest c e ≤ 10 ^ precision := by
  unfold rest
  split_ifs
  · exact Nat.zero_le _
  · exact Binary64.roundQuotient_le (lt_pow_least h)

/-- Rounding leaves no more digits than a result has, and no lower exponent. -/
lemma cut_bounds : (cut c e).1 < 10 ^ precision ∧ minExponent ≤ (cut c e).2 := by
  have hleast : minExponent ≤ least c e := le_max_left _ _
  unfold cut
  split_ifs with hlt hcarry
  · exact ⟨Nat.pow_lt_pow_right (by decide) (by decide), hleast.trans (by omega)⟩
  · exact ⟨lt_of_le_of_ne (rest_le hlt) hcarry, hleast⟩
  · have hdigits : digits c ≤ precision := by
      have := le_max_right minExponent (e + ((digits c : ℤ) - precision))
      rw [least] at hlt
      omega
    exact ⟨(digits_le_iff (by decide)).mp hdigits, by omega⟩

/-- A result is its own rounding. -/
lemma round_of_isResult (negative : Bool) (h : IsResult (magnitude c e)) :
    ∃ c' e', round negative c e = .ok (.finite negative c' e') ∧ magnitude c' e' = magnitude c e := by
  by_cases hc : c = 0
  · subst hc
    refine ⟨0, max minExponent (min maxExponent e), rfl, ?_⟩
    rw [magnitude_eq_zero_iff.mpr rfl, magnitude_eq_zero_iff.mpr rfl]
  · obtain ⟨⟨d, f, hdf, hd, hf⟩, hlt⟩ := h
    have hcut := magnitude_cut hc hdf hd hf
    have hne : (cut c e).1 ≠ 0 := by
      rw [Ne, ← magnitude_eq_zero_iff (e := (cut c e).2), hcut, magnitude_eq_zero_iff]
      exact hc
    have hle := (magnitude_lt_iff hne maxExponent).mp (hcut ▸ hlt)
    refine ⟨_, _, ?_, hcut⟩
    rw [round_eq_cut negative hc, if_neg (not_lt.mpr hle)]

lemma eq_overflow_of_round {negative : Bool} {error : Error} (h : round negative c e = .error error) :
    error = .overflow := by
  by_cases hc : c = 0
  · subst hc
    cases h
  · rw [round_eq_cut negative hc] at h
    split_ifs at h with hover
    exact (Except.error.inj h).symm

/-- Rounding gives results. -/
lemma isResult_of_round {negative : Bool} {d : Decimal} (h : round negative c e = .ok d) :
    ∃ c' e', d = .finite negative c' e' ∧ IsResult (magnitude c' e') := by
  have hten : (0 : ℚ) < 10 ^ (maxExponent + 1) := zpow_pos (by norm_num) _
  by_cases hc : c = 0
  · subst hc
    obtain rfl := Except.ok.inj h
    refine ⟨_, _, rfl, ⟨_, _, rfl, Nat.pow_pos (by decide), le_max_left _ _⟩, ?_⟩
    exact (magnitude_eq_zero_iff.mpr rfl).trans_lt hten
  · rw [round_eq_cut negative hc] at h
    split_ifs at h with hover
    obtain rfl := Except.ok.inj h
    obtain ⟨hdigits, hexponent⟩ := cut_bounds (c := c) (e := e)
    refine ⟨_, _, rfl, ⟨_, _, rfl, hdigits, hexponent⟩, ?_⟩
    -- what is rounded away leaves zero, whose leading digit says nothing about its magnitude
    by_cases hzero : (cut c e).1 = 0
    · exact (magnitude_eq_zero_iff.mpr hzero).trans_lt hten
    · exact (magnitude_lt_iff hzero maxExponent).mpr (not_lt.mp hover)

end Decimal

/-! ## Numbers -/

namespace Number

variable {a n : Number} {p : ℤ ×ₗ ℚ}

/-- Whether a number has an exact opposite: an integer, a binary number and an infinite decimal have one, and a
finite decimal has one if arithmetic can have its magnitude as a result. -/
def NegatesExactly : Number → Prop
  | .int _ => True
  | .float x => x.isNaN = false
  | .decimal (.finite _ c e) => Decimal.IsResult (Decimal.magnitude c e)
  | .decimal (.infinite _) => True
  | .decimal (.nan ..) => False

lemma NegatesExactly.isNaN_eq_false (h : a.NegatesExactly) : a.isNaN = false := by
  cases a with
  | int => rfl
  | float x => exact h
  | decimal d =>
      cases d with
      | finite | infinite => rfl
      | nan => exact h.elim

/-- The place of a finite number at a value. -/
def finitePlace (q : ℚ) : ℤ ×ₗ ℚ := toLex (0, q)

lemma neg_finitePlace (q : ℚ) : -finitePlace q = finitePlace (-q) := by
  rw [finitePlace, finitePlace, ← toLex_neg, Prod.neg_mk, neg_zero]

lemma place?_int (i : ℤ) : (Number.int i).place? = some (finitePlace i) := by
  simp [place?, extent?, Extended.place, Scaled.toRat, finitePlace]

lemma place?_float (negative : Bool) (m : ℕ) (e : ℤ) :
    (Number.float (.finite negative m e)).place? =
      some (finitePlace (if negative then -((m : ℚ) * 2 ^ e) else (m : ℚ) * 2 ^ e)) := by
  simp [place?, extent?, Extended.place, Scaled.toRat_ofBinary, cast_signed, finitePlace]

lemma place?_decimal (negative : Bool) (c : ℕ) (e : ℤ) :
    (Number.decimal (.finite negative c e)).place? =
      some (finitePlace (if negative then -Decimal.magnitude c e else Decimal.magnitude c e)) := by
  simp [place?, extent?, Extended.place, Scaled.toRat, cast_signed, Decimal.magnitude, finitePlace]

lemma place_infinity (negative : Bool) :
    (infinity !negative).place = -(infinity negative).place := by
  cases negative <;> rfl

/-- An exact opposite stands at the opposite place. -/
lemma neg_of_negatesExactly (h : a.NegatesExactly) (hp : a.place? = some p) :
    ∃ n, a.neg = .ok n ∧ n.place? = some (-p) := by
  cases a with
  | int i =>
      rw [place?_int] at hp
      obtain rfl := Option.some.inj hp
      refine ⟨_, rfl, ?_⟩
      rw [place?_int, neg_finitePlace, Int.cast_neg]
  | float x =>
      cases x with
      | finite negative m e =>
          rw [place?_float] at hp
          obtain rfl := Option.some.inj hp
          refine ⟨_, rfl, ?_⟩
          rw [Binary64.neg, place?_float, neg_finitePlace]
          cases negative <;> simp
      | infinite negative =>
          obtain rfl := Option.some.inj hp
          exact ⟨_, rfl, congrArg some (place_infinity negative)⟩
      | nan => simp [place?, extent?] at hp
  | decimal d =>
      cases d with
      | finite negative c e =>
          rw [place?_decimal] at hp
          obtain rfl := Option.some.inj hp
          obtain ⟨c', e', hround, hmagnitude⟩ :=
            Decimal.round_of_isResult (if c = 0 then false else !negative) h
          refine ⟨_, by rw [neg, Decimal.neg, hround]; rfl, ?_⟩
          rw [place?_decimal, hmagnitude, neg_finitePlace]
          -- zero loses its sign, which does not count at its place
          by_cases hc : c = 0
          · simp [Decimal.magnitude_eq_zero_iff.mpr hc]
          · cases negative <;> simp [hc]
      | infinite negative =>
          obtain rfl := Option.some.inj hp
          exact ⟨_, rfl, congrArg some (place_infinity negative)⟩
      | nan => simp [place?, extent?] at hp

lemma neg_finite {negative : Bool} {c : ℕ} {e : ℤ} (h : neg (.decimal (.finite negative c e)) = .ok n) :
    ∃ negative' c' e', n = .decimal (.finite negative' c' e') ∧
      Decimal.IsResult (Decimal.magnitude c' e') := by
  rw [neg, Decimal.neg] at h
  cases hround : Decimal.round (if c = 0 then false else !negative) c e with
  | error error =>
      rw [hround] at h
      cases h
  | ok d =>
      rw [hround] at h
      obtain rfl := Except.ok.inj h
      obtain ⟨c', e', rfl, hresult⟩ := Decimal.isResult_of_round hround
      exact ⟨_, c', e', rfl, hresult⟩

/-- A number that has no opposite is too great. -/
lemma eq_overflow_of_neg {error : Decimal.Error} (ha : a.isNaN = false) (h : a.neg = .error error) :
    error = .overflow := by
  cases a with
  | int | float => cases h
  | decimal d =>
      cases d with
      | finite negative c e =>
          rw [neg, Decimal.neg] at h
          cases hround : Decimal.round (if c = 0 then false else !negative) c e with
          | error error' =>
              rw [hround] at h
              obtain rfl := Except.error.inj h
              exact Decimal.eq_overflow_of_round hround
          | ok d =>
              rw [hround] at h
              cases h
      | infinite => cases h
      | nan => simp [isNaN, Decimal.isNaN] at ha

/-- What is an opposite itself has an exact one. -/
lemma negatesExactly_of_neg (ha : a.isNaN = false) (h : a.neg = .ok n) : n.NegatesExactly := by
  cases a with
  | int i =>
      obtain rfl := Except.ok.inj h
      trivial
  | float x =>
      obtain rfl := Except.ok.inj h
      cases x with
      | nan => simp [isNaN, Binary64.isNaN] at ha
      | finite | infinite => rfl
  | decimal d =>
      cases d with
      | finite negative c e =>
          obtain ⟨negative', c', e', rfl, hresult⟩ := neg_finite h
          exact hresult
      | infinite negative =>
          obtain rfl := Except.ok.inj h
          trivial
      | nan => simp [isNaN, Decimal.isNaN] at ha

lemma magnitude_eq_of_place? {negative negative' : Bool} {c c' : ℕ} {e e' : ℤ}
    (h : (Number.decimal (.finite negative c e)).place? =
      (Number.decimal (.finite negative' c' e')).place?) :
    Decimal.magnitude c e = Decimal.magnitude c' e' := by
  have habs : ∀ (negative : Bool) (c : ℕ) (e : ℤ),
      |if negative then -Decimal.magnitude c e else Decimal.magnitude c e| = Decimal.magnitude c e := by
    intro negative c e
    have hnonneg : 0 ≤ Decimal.magnitude c e := mul_nonneg (by positivity) (by positivity)
    cases negative <;> simp [abs_of_nonneg hnonneg]
  rw [place?_decimal, place?_decimal] at h
  have hvalue := congrArg (fun p : ℤ ×ₗ ℚ => |(ofLex p).2|) (Option.some.inj h)
  simpa only [finitePlace, ofLex_toLex, habs] using hvalue

/-- A number that comes back from its opposite has an exact one. -/
lemma negatesExactly_of_neg_neg {m : Number} (ha : a.isNaN = false) (h : a.neg = .ok n)
    (h' : n.neg = .ok m) (hplace : m.place? = a.place?) : a.NegatesExactly := by
  cases a with
  | int => trivial
  | float x => exact ha
  | decimal d =>
      cases d with
      | finite negative c e =>
          obtain ⟨_, c', e', rfl, -⟩ := neg_finite h
          obtain ⟨_, c'', e'', rfl, hresult⟩ := neg_finite h'
          rwa [magnitude_eq_of_place? hplace] at hresult
      | infinite negative => trivial
      | nan => simp [isNaN, Decimal.isNaN] at ha

end Number

end FeatureToggles
