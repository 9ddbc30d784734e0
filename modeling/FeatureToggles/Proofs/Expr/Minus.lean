import FeatureToggles.Proofs.Expr.Ordering
import FeatureToggles.Proofs.Number.Negation
import Mathlib

/-!
# Minus

Comparisons are exact for numbers of all sorts, but a unary minus is an operation of the sort of its operand,
and that of decimals rounds.  Between numbers whose opposites are exact, taking opposites reverses the order and
keeps equations.  Those are the numbers that two minus signs give back; with any other one, a decimal that is no
result of arithmetic, the laws fail.

Main statement: `evaluate_negate_reverses`.
-/

namespace FeatureToggles

namespace Expr

variable {scope : Scope} {l r : Expr} {a b n : Number}

/-! ## Values of operators -/

/-- An expression with a minus sign has the opposite of the number that stands behind it. -/
lemma evaluate_negate_eq_ok_iff {v : Value} : evaluate scope (.negate l) = .ok v ↔
    ∃ a n, evaluate scope l = .ok (.number a) ∧ a.neg = .ok n ∧ v = .number n := by
  constructor
  · intro h
    rw [evaluate] at h
    cases hl : evaluate scope l with
    | error e => simp [hl] at h
    | ok w =>
        cases w with
        | number a =>
            cases hn : a.neg with
            | error e => simp [hl, minus, hn] at h
            | ok n => exact ⟨a, n, rfl, hn, by simpa [hl, minus, hn] using h.symm⟩
        | _ => simp [hl, minus] at h
  · rintro ⟨a, n, hl, hn, rfl⟩
    simp only [evaluate, hl, minus, hn]

lemma evaluate_compare_eq_ok_iff {op : Comparison} {answer : Bool} :
    evaluate scope (.compare op l r) = .ok (.bool answer) ↔
      ∃ v w, evaluate scope l = .ok v ∧ evaluate scope r = .ok w ∧ comparison op v w = .ok answer := by
  constructor
  · intro h
    rw [evaluate] at h
    cases hl : evaluate scope l with
    | error e => simp [hl] at h
    | ok v =>
        cases hr : evaluate scope r with
        | error e => simp [hl, hr] at h
        | ok w =>
            cases hcompare : comparison op v w with
            | error e => simp [hl, hr, hcompare, Except.map] at h
            | ok b => exact ⟨v, w, rfl, rfl, by simpa [hl, hr, hcompare, Except.map] using h⟩
  · rintro ⟨v, w, hl, hr, h⟩
    simp only [evaluate, hl, hr, h, Except.map]

/-! ## The laws -/

/-- The opposite of a number that has an exact one stands at the opposite place. -/
lemma evaluate_negate_of_place {p : ℤ ×ₗ ℚ} (hl : evaluate scope l = .ok (.number a))
    (hp : a.place? = some p) (hexact : a.NegatesExactly) :
    ∃ n, evaluate scope (.negate l) = .ok (.number n) ∧ n.place? = some (-p) ∧ n.NegatesExactly := by
  obtain ⟨n, hn, hplace⟩ := Number.neg_of_negatesExactly hexact hp
  exact ⟨n, evaluate_negate_eq_ok_iff.mpr ⟨a, n, hl, hn, rfl⟩, hplace,
    Number.negatesExactly_of_neg hexact.isNaN_eq_false hn⟩

/-- Exact opposites are compared as the numbers are from the other side. -/
lemma evaluate_compare_negate (hl : evaluate scope l = .ok (.number a))
    (hr : evaluate scope r = .ok (.number b)) (ha : a.NegatesExactly) (hb : b.NegatesExactly) :
    (∃ answer, evaluate scope (.compare .lt (.negate l) (.negate r)) = .ok (.bool answer) ∧
      evaluate scope (.compare .lt r l) = .ok (.bool answer)) ∧
    ∃ answer, evaluate scope (.compare .eq (.negate l) (.negate r)) = .ok (.bool answer) ∧
      evaluate scope (.compare .eq l r) = .ok (.bool answer) := by
  obtain ⟨p, hp⟩ := Number.exists_place ha.isNaN_eq_false
  obtain ⟨q, hq⟩ := Number.exists_place hb.isNaN_eq_false
  obtain ⟨m, hm, hmp, -⟩ := evaluate_negate_of_place hl hp ha
  obtain ⟨n, hn, hnq, -⟩ := evaluate_negate_of_place hr hq hb
  have hopposites := stands_numbers hmp hnq
  constructor
  · have hlt : -p < -q ↔ q < p := neg_lt_neg_iff
    refine ⟨decide (q < p), evaluate_compare_eq_ok_iff.mpr ⟨_, _, hm, hn, ?_⟩,
      evaluate_compare_eq_ok_iff.mpr ⟨_, _, hr, hl, (stands_numbers hq hp).lt⟩⟩
    rw [hopposites.lt, decide_eq_decide.mpr hlt]
  · have heq : -p = -q ↔ p = q := neg_inj
    refine ⟨decide (p = q), evaluate_compare_eq_ok_iff.mpr ⟨_, _, hm, hn, ?_⟩,
      evaluate_compare_eq_ok_iff.mpr ⟨_, _, hl, hr, (stands_numbers hp hq).eq⟩⟩
    rw [hopposites.eq, decide_eq_decide.mpr heq]

/-- Two minus signs give a number back exactly if it has an exact opposite. -/
lemma evaluate_negate_negate (hl : evaluate scope l = .ok (.number a)) (ha : a.isNaN = false) :
    evaluate scope (.compare .eq (.negate (.negate l)) l) = .ok (.bool true) ↔ a.NegatesExactly := by
  obtain ⟨p, hp⟩ := Number.exists_place ha
  constructor
  · intro h
    obtain ⟨v, w, hv, hw, hcompare⟩ := evaluate_compare_eq_ok_iff.mp h
    obtain ⟨n, m, hnegate, hm, rfl⟩ := evaluate_negate_eq_ok_iff.mp hv
    obtain ⟨a', n', hl', hn, hsame⟩ := evaluate_negate_eq_ok_iff.mp hnegate
    obtain rfl : a = a' := by simpa [hl] using hl'
    obtain rfl := Value.number.inj hsame
    obtain rfl : w = .number a := by simpa [hl] using hw.symm
    -- what is negated a second time has an exact opposite, so the equation compares places
    have hexact := Number.negatesExactly_of_neg ha hn
    obtain ⟨q, hq⟩ := Number.exists_place hexact.isNaN_eq_false
    obtain ⟨m', hm', hmq⟩ := Number.neg_of_negatesExactly hexact hq
    obtain rfl := Except.ok.inj (hm.symm.trans hm')
    rw [(stands_numbers hmq hp).eq, Except.ok.injEq, decide_eq_true_iff] at hcompare
    exact Number.negatesExactly_of_neg_neg ha hn hm (by rw [hmq, hp, hcompare])
  · intro hexact
    obtain ⟨n, hn, hnp, hopposite⟩ := evaluate_negate_of_place hl hp hexact
    obtain ⟨m, hm, hmp, -⟩ := evaluate_negate_of_place hn hnp hopposite
    have hback : -(-p) = p := neg_neg p
    refine evaluate_compare_eq_ok_iff.mpr ⟨_, _, hm, hl, ?_⟩
    rw [(stands_numbers hmp hp).eq, decide_eq_true hback]

/-- Every other number has no opposite, being too great, or the same opposite as what two minus signs give,
which is another number. -/
lemma evaluate_negate_of_not_exact (hl : evaluate scope l = .ok (.number a)) (ha : a.isNaN = false)
    (hexact : ¬ a.NegatesExactly) :
    evaluate scope (.negate l) = .error (.value (.arithmetic .overflow)) ∨
      evaluate scope (.compare .eq (.negate (.negate l)) l) = .ok (.bool false) ∧
        evaluate scope (.compare .eq (.negate (.negate (.negate l))) (.negate l)) =
          .ok (.bool true) := by
  obtain ⟨p, hp⟩ := Number.exists_place ha
  cases hneg : a.neg with
  | error e =>
      obtain rfl := Number.eq_overflow_of_neg ha hneg
      left
      simp only [evaluate, hl, minus, hneg]
  | ok n =>
      right
      have hn := evaluate_negate_eq_ok_iff.mpr ⟨a, n, hl, hneg, rfl⟩
      -- the opposite is a result and is given back by two more minus signs, but the number was none
      have hopposite := Number.negatesExactly_of_neg ha hneg
      obtain ⟨q, hq⟩ := Number.exists_place hopposite.isNaN_eq_false
      obtain ⟨m, hm, hmq, -⟩ := evaluate_negate_of_place hn hq hopposite
      refine ⟨?_, (evaluate_negate_negate hn hopposite.isNaN_eq_false).mpr hopposite⟩
      have hcompare := evaluate_compare_eq_ok_iff.mpr ⟨_, _, hm, hl, (stands_numbers hmq hp).eq⟩
      have hne : decide (-q = p) = false := by
        by_contra hsame
        rw [Bool.not_eq_false] at hsame
        exact hexact ((evaluate_negate_negate hl ha).mp (hsame ▸ hcompare))
      rw [hcompare, hne]

/-- Between numbers with exact opposites a minus sign on both sides reverses the order and keeps equations.
They are exactly the numbers that two minus signs give back.  Of any other number the opposite is past the
greatest decimal, or is that of another number too. -/
theorem evaluate_negate_reverses (hl : evaluate scope l = .ok (.number a))
    (hr : evaluate scope r = .ok (.number b)) (ha : a.isNaN = false) :
    (a.NegatesExactly → b.NegatesExactly →
      (∃ answer, evaluate scope (.compare .lt (.negate l) (.negate r)) = .ok (.bool answer) ∧
        evaluate scope (.compare .lt r l) = .ok (.bool answer)) ∧
      ∃ answer, evaluate scope (.compare .eq (.negate l) (.negate r)) = .ok (.bool answer) ∧
        evaluate scope (.compare .eq l r) = .ok (.bool answer)) ∧
      (evaluate scope (.compare .eq (.negate (.negate l)) l) = .ok (.bool true) ↔ a.NegatesExactly) ∧
      (¬ a.NegatesExactly →
        evaluate scope (.negate l) = .error (.value (.arithmetic .overflow)) ∨
          evaluate scope (.compare .eq (.negate (.negate l)) l) = .ok (.bool false) ∧
            evaluate scope (.compare .eq (.negate (.negate (.negate l))) (.negate l)) =
              .ok (.bool true)) := by
  refine ⟨fun hexact hexact' => evaluate_compare_negate hl hr hexact hexact',
    evaluate_negate_negate hl ha, evaluate_negate_of_not_exact hl ha⟩

/-- An integer of twenty-nine digits, and a decimal of that size whose last digit is a zero. -/
def longNumbers : Scope :=
  [("a", .number (.int 10000000000000000000000000001)),
    ("b", .number (.decimal (.finite false 10000000000000000000000000000 0)))]

/-- Both numbers have exact opposites, although only the integer has room for all its digits in any case. -/
theorem evaluate_negate_reverses_long :
    (Number.int 10000000000000000000000000001).NegatesExactly ∧
      (Number.decimal (.finite false 10000000000000000000000000000 0)).NegatesExactly ∧
      (∃ answer,
        evaluate longNumbers (.compare .lt (.negate (.name "a" [])) (.negate (.name "b" []))) =
          .ok (.bool answer) ∧
        evaluate longNumbers (.compare .lt (.name "b" []) (.name "a" [])) = .ok (.bool answer)) ∧
      evaluate longNumbers (.compare .eq (.negate (.negate (.name "b" []))) (.name "b" [])) =
        .ok (.bool true) := by
  have hint : (Number.int 10000000000000000000000000001).NegatesExactly := trivial
  have hdecimal :
      (Number.decimal (.finite false 10000000000000000000000000000 0)).NegatesExactly := by
    have hshift := Decimal.magnitude_shift 1000000000000000000000000000 0 1
    refine ⟨⟨_, _, hshift, by decide, by decide⟩, ?_⟩
    exact (Decimal.magnitude_lt_iff (by decide) Decimal.maxExponent).mpr (by decide)
  have ha : evaluate longNumbers (.name "a" []) = .ok (.number (.int 10000000000000000000000000001)) := by
    cbv
  have hb : evaluate longNumbers (.name "b" []) =
      .ok (.number (.decimal (.finite false 10000000000000000000000000000 0))) := by
    cbv
  obtain ⟨hreverses, -⟩ := evaluate_negate_reverses ha hb rfl
  obtain ⟨-, hback, -⟩ := evaluate_negate_reverses hb ha rfl
  exact ⟨hint, hdecimal, (hreverses hint hdecimal).1, hback.mpr hdecimal⟩

/-- A decimal of twenty-nine digits, and the one of twenty-eight digits that is nearest to it. -/
def longDecimals : Scope :=
  [("a", .number (.decimal (.finite false 10000000000000000000000000001 0))),
    ("b", .number (.decimal (.finite false 1000000000000000000000000000 1)))]

/-- The opposites of two different decimals can be equal, so that neither of them is below the other one. -/
theorem evaluate_negate_rounds :
    evaluate longDecimals (.compare .lt (.name "b" []) (.name "a" [])) = .ok (.bool true) ∧
      evaluate longDecimals (.compare .lt (.negate (.name "a" [])) (.negate (.name "b" []))) =
        .ok (.bool false) ∧
      evaluate longDecimals (.compare .eq (.name "a" []) (.name "b" [])) = .ok (.bool false) ∧
      evaluate longDecimals (.compare .eq (.negate (.name "a" [])) (.negate (.name "b" []))) =
        .ok (.bool true) ∧
      evaluate longDecimals (.compare .eq (.negate (.negate (.name "a" []))) (.name "a" [])) =
        .ok (.bool false) := by
  have ha : evaluate longDecimals (.name "a" []) =
      .ok (.number (.decimal (.finite false 10000000000000000000000000001 0))) := by
    cbv
  have hb : evaluate longDecimals (.name "b" []) =
      .ok (.number (.decimal (.finite false 1000000000000000000000000000 1))) := by
    cbv
  have hna := evaluate_negate_eq_ok_iff.mpr
    ⟨_, .decimal (.finite true 1000000000000000000000000000 1), ha, by decide +kernel, rfl⟩
  have hnb := evaluate_negate_eq_ok_iff.mpr
    ⟨_, .decimal (.finite true 1000000000000000000000000000 1), hb, by decide +kernel, rfl⟩
  have hback := evaluate_negate_eq_ok_iff.mpr
    ⟨_, .decimal (.finite false 1000000000000000000000000000 1), hna, by decide +kernel, rfl⟩
  refine ⟨?_, ?_, ?_, ?_, ?_⟩
  · exact evaluate_compare_eq_ok_iff.mpr ⟨_, _, hb, ha, comparison_lt_of_less (by decide +kernel)⟩
  · exact evaluate_compare_eq_ok_iff.mpr ⟨_, _, hna, hnb, comparison_lt_of_less (by decide +kernel)⟩
  · exact evaluate_compare_eq_ok_iff.mpr ⟨_, _, ha, hb, comparison_eq_of_equal (by decide +kernel)⟩
  · exact evaluate_compare_eq_ok_iff.mpr ⟨_, _, hna, hnb, comparison_eq_of_equal (by decide +kernel)⟩
  · exact evaluate_compare_eq_ok_iff.mpr ⟨_, _, hback, ha, comparison_eq_of_equal (by decide +kernel)⟩

end Expr

end FeatureToggles
