import FeatureToggles.Expr.Fault
import FeatureToggles.Proofs.Number.Place
import Mathlib

/-!
# Order

Two numbers stand at places of one linear order, whatever their sorts, and so do two texts; the operators of
comparison answer as this order does.  So one of two operands lies below the other one or equals it, and no
chain of answers leads back to where it started.  Between all other operands there is no order, and a
comparison that asks for one fails.

Main statements: `stands_numbers` and `stands_texts`, from which the laws follow for both kinds at once, and
`comparison_ordered`.
-/

namespace FeatureToggles

namespace Expr

/-! ## Operands at places of a linear order -/

/-- Whether the operators compare two operands as a linear order compares the places where they stand. -/
structure Stands {α : Type} [LinearOrder α] (p q : α) (l r : Value) : Prop where
  lt : comparison .lt l r = .ok (decide (p < q))
  le : comparison .le l r = .ok (decide (p ≤ q))
  gt : comparison .gt l r = .ok (decide (q < p))
  ge : comparison .ge l r = .ok (decide (q ≤ p))
  eq : comparison .eq l r = .ok (decide (p = q))
  ne : comparison .ne l r = .ok (!decide (p = q))

section

variable {a b : Number} {answer : Bool}

lemma comparison_lt_of_less (h : a.less b = .ok answer) :
    comparison .lt (.number a) (.number b) = .ok answer := by
  simp only [comparison, orderNumbers, h, Except.mapError]

lemma comparison_eq_of_equal (h : a.equal b = .ok answer) :
    comparison .eq (.number a) (.number b) = .ok answer := by
  simp [comparison, comparable, Value.kind, Value.equal, Value.equalNumbers, h, Except.mapError]

end

/-- Numbers stand where their values are. -/
lemma stands_numbers {a b : Number} {p q : ℤ ×ₗ ℚ} (ha : a.place? = some p) (hb : b.place? = some q) :
    Stands p q (.number a) (.number b) where
  lt := comparison_lt_of_less (Number.less_of_place ha hb)
  le := by simp only [comparison, orderNumbers, Number.lessEqual_of_place ha hb, Except.mapError]
  gt := by simp only [comparison, orderNumbers, Number.less_of_place hb ha, Except.mapError]
  ge := by simp only [comparison, orderNumbers, Number.lessEqual_of_place hb ha, Except.mapError]
  eq := comparison_eq_of_equal (Number.equal_of_place ha hb)
  ne := by
    simp [comparison, comparable, Value.kind, Value.equal, Value.equalNumbers,
      Number.equal_of_place ha hb, Except.mapError, Except.map]

lemma points_inj {s t : String} : Text.points s = Text.points t ↔ s = t := by
  refine ⟨fun h => String.toList_inj.mp ?_, congrArg Text.points⟩
  exact (List.map_inj_right fun _ _ => Text.point_inj.mp).mp h

/-- Texts stand in the order of their code points. -/
lemma stands_texts (s t : String) : Stands (Text.points s) (Text.points t) (.text s) (.text t) where
  lt := by
    refine congrArg Except.ok (Bool.eq_iff_iff.mpr ?_)
    simp only [orderTexts, decide_eq_true_iff]
  le := by
    refine congrArg Except.ok (Bool.eq_iff_iff.mpr ?_)
    simp only [orderTexts]
    rw [Bool.not_eq_true', decide_eq_false_iff_not, not_lt, decide_eq_true_iff]
  gt := by
    refine congrArg Except.ok (Bool.eq_iff_iff.mpr ?_)
    simp only [orderTexts, decide_eq_true_iff]
  ge := by
    refine congrArg Except.ok (Bool.eq_iff_iff.mpr ?_)
    simp only [orderTexts]
    rw [Bool.not_eq_true', decide_eq_false_iff_not, not_lt, decide_eq_true_iff]
  eq := by
    refine congrArg Except.ok (Bool.eq_iff_iff.mpr ?_)
    simp only [beq_iff_eq, decide_eq_true_eq, points_inj]
  ne := by
    refine congrArg (fun b => Except.ok !b) (Bool.eq_iff_iff.mpr ?_)
    simp only [beq_iff_eq, decide_eq_true_eq, points_inj]

namespace Stands

variable {α : Type} [LinearOrder α] {p q r : α} {l m n : Value}

/-- Of the three ways in which one place can lie beside another one exactly one is the case, and the
operators that leave two of them open say so. -/
lemma trichotomy (h : Stands p q l m) : ∃ below equal above : Bool,
    comparison .lt l m = .ok below ∧ comparison .eq l m = .ok equal ∧
      comparison .gt l m = .ok above ∧ [below, equal, above].count true = 1 ∧
      comparison .le l m = .ok (below || equal) ∧ comparison .ge l m = .ok (above || equal) ∧
      comparison .ne l m = .ok !equal := by
  refine ⟨_, _, _, h.lt, h.eq, h.gt, ?_, ?_, ?_, h.ne⟩
  · rcases lt_trichotomy p q with hlt | rfl | hgt
    · simp [hlt, hlt.ne, hlt.le]
    · simp
    · simp [hgt, hgt.ne', hgt.le]
  · rw [h.le, ← Bool.decide_or]
    exact congrArg _ (decide_eq_decide.mpr le_iff_lt_or_eq)
  · rw [h.ge, ← Bool.decide_or]
    exact congrArg _ (decide_eq_decide.mpr (le_iff_lt_or_eq.trans (or_congr_right eq_comm)))

lemma eq_symm (h : Stands p q l m) (h' : Stands q p m l) :
    comparison .eq l m = comparison .eq m l := by
  rw [h.eq, h'.eq]
  exact congrArg _ (decide_eq_decide.mpr eq_comm)

lemma lt_trans (hlm : Stands p q l m) (hmn : Stands q r m n) (hln : Stands p r l n)
    (h : comparison .lt l m = .ok true) (h' : comparison .lt m n = .ok true) :
    comparison .lt l n = .ok true := by
  rw [hlm.lt, Except.ok.injEq, decide_eq_true_iff] at h
  rw [hmn.lt, Except.ok.injEq, decide_eq_true_iff] at h'
  rw [hln.lt, decide_eq_true (h.trans h')]

lemma eq_trans (hlm : Stands p q l m) (hmn : Stands q r m n) (hln : Stands p r l n)
    (h : comparison .eq l m = .ok true) (h' : comparison .eq m n = .ok true) :
    comparison .eq l n = .ok true := by
  rw [hlm.eq, Except.ok.injEq, decide_eq_true_iff] at h
  rw [hmn.eq, Except.ok.injEq, decide_eq_true_iff] at h'
  rw [hln.eq, decide_eq_true (h.trans h')]

end Stands

/-! ## Operands that are ordered, and others -/

/-- Two operands that are both numbers, of any sorts and none of them not a number, or both texts. -/
inductive Ordered : Value → Value → Prop where
  | numbers {a b : Number} : a.isNaN = false → b.isNaN = false → Ordered (.number a) (.number b)
  | texts (s t : String) : Ordered (.text s) (.text t)

/-- The operators that ask for an order. -/
def orderings : List Comparison := [.lt, .le, .gt, .ge]

/-- Values of different kinds, and values of a kind without an order, do not fit an operator that asks for
one. -/
lemma comparison_incompatible {op : Comparison} (hop : op ∈ orderings) {l r : Value}
    (h : l.kind ≠ r.kind ∨ l.kind ≠ .number ∧ l.kind ≠ .string) :
    comparison op l r = .error (.incompatible op l.kind r.kind) := by
  have hfour : op = .lt ∨ op = .le ∨ op = .gt ∨ op = .ge := by simpa [orderings] using hop
  cases l with
  | number a =>
      cases r with
      | number b => simp [Value.kind] at h
      | _ => rcases hfour with rfl | rfl | rfl | rfl <;> rfl
  | text s =>
      cases r with
      | text t => simp [Value.kind] at h
      | _ => rcases hfour with rfl | rfl | rfl | rfl <;> rfl
  | _ => rcases hfour with rfl | rfl | rfl | rfl <;> rfl

/-- Numbers of all sorts are in one linear order, and so are texts.  Of below, equal and above exactly one is
the case; the other operators follow from these, and the answers go together along a chain of operands. Where
the kinds differ or have no order, asking for one is an error of expressions. -/
theorem comparison_ordered :
    (∀ l r, Ordered l r →
      (∃ below equal above : Bool,
        comparison .lt l r = .ok below ∧ comparison .eq l r = .ok equal ∧
          comparison .gt l r = .ok above ∧ [below, equal, above].count true = 1 ∧
          comparison .le l r = .ok (below || equal) ∧ comparison .ge l r = .ok (above || equal) ∧
          comparison .ne l r = .ok !equal) ∧
        comparison .eq l r = comparison .eq r l) ∧
      (∀ l m n, Ordered l m → Ordered m n →
        (comparison .lt l m = .ok true → comparison .lt m n = .ok true →
          comparison .lt l n = .ok true) ∧
        (comparison .eq l m = .ok true → comparison .eq m n = .ok true →
          comparison .eq l n = .ok true)) ∧
      ∀ l r : Value, l.kind ≠ r.kind ∨ l.kind ≠ .number ∧ l.kind ≠ .string →
        ∀ op ∈ orderings, ∃ error, comparison op l r = .error error ∧
          error = .incompatible op l.kind r.kind ∧
          Fault.ofEvalError error = .of (.undefined error.message none) := by
  refine ⟨fun l r h => ?_, fun l m n hlm hmn => ?_, fun l r h op hop => ?_⟩
  · cases h with
    | numbers ha hb =>
        obtain ⟨p, hp⟩ := Number.exists_place ha
        obtain ⟨q, hq⟩ := Number.exists_place hb
        exact ⟨(stands_numbers hp hq).trichotomy, (stands_numbers hp hq).eq_symm (stands_numbers hq hp)⟩
    | texts s t => exact ⟨(stands_texts s t).trichotomy, (stands_texts s t).eq_symm (stands_texts t s)⟩
  · cases hlm with
    | numbers ha hb =>
        cases hmn with
        | numbers _ hc =>
            obtain ⟨p, hp⟩ := Number.exists_place ha
            obtain ⟨q, hq⟩ := Number.exists_place hb
            obtain ⟨r, hr⟩ := Number.exists_place hc
            have hab := stands_numbers hp hq
            have hbc := stands_numbers hq hr
            have hac := stands_numbers hp hr
            exact ⟨hab.lt_trans hbc hac, hab.eq_trans hbc hac⟩
    | texts s t =>
        cases hmn with
        | texts _ u =>
            have hst := stands_texts s t
            have htu := stands_texts t u
            have hsu := stands_texts s u
            exact ⟨hst.lt_trans htu hsu, hst.eq_trans htu hsu⟩
  · exact ⟨_, comparison_incompatible hop h, rfl, rfl⟩

/-- The binary number 2^53, an integer that no binary number of this size is equal to, and a decimal half a
step above it. -/
theorem comparison_ordered_odd_integer :
    Ordered (.number (.float (.finite false 9007199254740992 0)))
        (.number (.int 9007199254740993)) ∧
      Ordered (.number (.int 9007199254740993))
        (.number (.decimal (.finite false 90071992547409935 (-1)))) ∧
      comparison .lt (.number (.float (.finite false 9007199254740992 0)))
        (.number (.int 9007199254740993)) = .ok true ∧
      comparison .lt (.number (.int 9007199254740993))
        (.number (.decimal (.finite false 90071992547409935 (-1)))) = .ok true ∧
      comparison .lt (.number (.float (.finite false 9007199254740992 0)))
        (.number (.decimal (.finite false 90071992547409935 (-1)))) = .ok true ∧
      ∃ error, comparison .ge (.bool true) (.number (.int 1)) = .error error ∧
        error = .incompatible .ge .boolean .number ∧
        Fault.ofEvalError error = .of (.undefined error.message none) := by
  have hfloat : Ordered (.number (.float (.finite false 9007199254740992 0)))
      (.number (.int 9007199254740993)) := .numbers rfl rfl
  have hdecimal : Ordered (.number (.int 9007199254740993))
      (.number (.decimal (.finite false 90071992547409935 (-1)))) := .numbers rfl rfl
  have hlt : comparison .lt (.number (.float (.finite false 9007199254740992 0)))
      (.number (.int 9007199254740993)) = .ok true :=
    comparison_lt_of_less (by decide +kernel)
  have hlt' : comparison .lt (.number (.int 9007199254740993))
      (.number (.decimal (.finite false 90071992547409935 (-1)))) = .ok true :=
    comparison_lt_of_less (by decide +kernel)
  obtain ⟨-, hchain, herror⟩ := comparison_ordered
  have htrans := (hchain _ _ _ hfloat hdecimal).1 hlt hlt'
  have hkinds : (Value.bool true).kind ≠ (Value.number (.int 1)).kind := by simp [Value.kind]
  exact ⟨hfloat, hdecimal, hlt, hlt', htrans, herror _ _ (.inl hkinds) .ge (by simp [orderings])⟩

end Expr

end FeatureToggles
