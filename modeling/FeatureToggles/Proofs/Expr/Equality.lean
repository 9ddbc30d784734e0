import FeatureToggles.Expr.Fault
import FeatureToggles.Proofs.Value.Equality
import Mathlib

/-!
# Equations

An equation is defined between operands of one kind, and with null.  Over values in which nothing is not a
number, and no mapping has a key twice, it always has an answer there, and the answers are those of an
equivalence that does not see the order of entries.  Operands of different kinds do not fit, whichever of
them stands on the left.  An inequation is the opposite of an equation, and fails where that one does.

Main statement: `comparison_equivalence`.
-/

namespace FeatureToggles

namespace Expr

open Value (IsRegular Rearranged)

variable {u v w : Value}

/-! ## Operands that fit -/

lemma comparison_eq_of_comparable (h : comparable v w = true) :
    comparison .eq v w = (v.equal w).mapError .value := by
  rw [comparison, if_pos h]

/-- Kinds that differ do not fit unless one of them is null. -/
lemma comparison_eq_of_kind_ne (h : v.kind ≠ w.kind) (hv : v.kind ≠ .null) (hw : w.kind ≠ .null) :
    comparison .eq v w = .error (.incompatible .eq v.kind w.kind) ∧
      comparison .ne v w = .error (.incompatible .ne v.kind w.kind) := by
  have hunfit : ¬ comparable v w = true := by simp [comparable, h, hv, hw]
  exact ⟨by rw [comparison, if_neg hunfit], by rw [comparison, if_neg hunfit]⟩

/-- An inequation has the opposite answer, and has none where the equation has none. -/
lemma comparison_eq_iff_ne (v w : Value) (answer : Bool) :
    comparison .eq v w = .ok answer ↔ comparison .ne v w = .ok !answer := by
  by_cases h : comparable v w = true
  · rw [comparison, comparison, if_pos h, if_pos h]
    cases v.equal w with
    | error e => simp [Except.mapError, Except.map]
    | ok b => simp [Except.mapError, Except.map]
  · rw [comparison, comparison, if_neg h, if_neg h]
    simp

lemma eq_null_of_kind (h : v.kind = .null) : v = .null := by
  cases v with
  | null => rfl
  | _ => simp [Value.kind] at h

/-- Null equals itself only, on either side. -/
lemma comparison_eq_null (v : Value) :
    ∃ answer, comparison .eq v .null = .ok answer ∧ comparison .eq .null v = .ok answer ∧
      (answer = true ↔ v = .null) := by
  cases v with
  | null => exact ⟨true, rfl, rfl, by simp⟩
  | _ => exact ⟨false, rfl, rfl, by simp⟩

/-! ## Regular operands -/

/-- Regular operands of one kind have an answer. -/
lemma exists_comparison_eq (hv : v.IsRegular) (hw : w.IsRegular) (h : v.kind = w.kind) :
    ∃ answer, comparison .eq v w = .ok answer := by
  obtain ⟨answer, hequal⟩ := hv.exists_equal hw
  have hfit : comparable v w = true := by simp [comparable, h]
  exact ⟨answer, by rw [comparison_eq_of_comparable hfit, hequal, Except.mapError]⟩

/-- What an equation holds of is of one kind, and equal as values are. -/
lemma comparison_eq_ok_true_iff :
    comparison .eq v w = .ok true ↔ v.kind = w.kind ∧ v.equal w = .ok true := by
  by_cases hkind : v.kind = w.kind
  · have hfit : comparable v w = true := by simp [comparable, hkind]
    rw [comparison_eq_of_comparable hfit]
    cases v.equal w with
    | error e => simp [Except.mapError]
    | ok answer => simp [Except.mapError, hkind]
  -- values of different kinds do not fit, unless one is null, which the other one then is not
  · refine iff_of_false (fun h => ?_) fun h => hkind h.1
    obtain ⟨answer, hleft, -, hanswer⟩ := comparison_eq_null v
    obtain ⟨answer', -, hright, hanswer'⟩ := comparison_eq_null w
    by_cases hv : v.kind = .null
    · obtain rfl := eq_null_of_kind hv
      obtain rfl := Except.ok.inj (h.symm.trans hright)
      exact hkind (congrArg Value.kind (hanswer'.mp rfl)).symm
    by_cases hw : w.kind = .null
    · obtain rfl := eq_null_of_kind hw
      obtain rfl := Except.ok.inj (h.symm.trans hleft)
      exact hkind (congrArg Value.kind (hanswer.mp rfl))
    · rw [(comparison_eq_of_kind_ne hkind hv hw).1] at h
      cases h

lemma comparison_eq_refl (hv : v.IsRegular) : comparison .eq v v = .ok true :=
  comparison_eq_ok_true_iff.mpr ⟨rfl, hv.equal_refl⟩

lemma comparison_eq_comm (hv : v.IsRegular) (hw : w.IsRegular) (h : v.kind = w.kind) :
    comparison .eq v w = comparison .eq w v := by
  rw [comparison_eq_of_comparable (by simp [comparable, h]),
    comparison_eq_of_comparable (by simp [comparable, h]), hv.equal_comm hw]

lemma comparison_eq_trans (hu : u.IsRegular) (hv : v.IsRegular) (hw : w.IsRegular)
    (h : comparison .eq u v = .ok true) (h' : comparison .eq v w = .ok true) :
    comparison .eq u w = .ok true := by
  rw [comparison_eq_ok_true_iff] at h h' ⊢
  exact ⟨h.1.trans h'.1, hu.equal_trans hv hw h.2 h'.2⟩

/-- An operand may be rearranged, on either side. -/
lemma comparison_eq_of_rearranged {v' w' : Value} (hv : v.IsRegular) (hw : w.IsRegular)
    (h : Rearranged v v') (h' : Rearranged w w') :
    comparison .eq v' w' = comparison .eq v w ∧ comparison .ne v' w' = comparison .ne v w := by
  have hfit : comparable v' w' = comparable v w := by
    rw [comparable, comparable, h.kind_eq, h'.kind_eq]
  have hequal := h.equal_eq hv hw h'
  constructor
  · rw [comparison, comparison, hfit, hequal, h.kind_eq, h'.kind_eq]
  · rw [comparison, comparison, hfit, hequal, h.kind_eq, h'.kind_eq]

/-- Between regular operands of one kind an equation has an answer, and the answers are those of an
equivalence, to which the order of entries does not matter at any depth.  Null equals null only.  Operands
of other kinds that differ do not fit, in either order, and an inequation answers the opposite of the
equation, or fails with it. -/
theorem comparison_equivalence :
    (∀ v w : Value, v.IsRegular → w.IsRegular → v.kind = w.kind →
      ∃ answer, comparison .eq v w = .ok answer ∧ comparison .eq w v = .ok answer) ∧
    (∀ v : Value, v.IsRegular → comparison .eq v v = .ok true) ∧
    (∀ u v w : Value, u.IsRegular → v.IsRegular → w.IsRegular →
      comparison .eq u v = .ok true → comparison .eq v w = .ok true →
        comparison .eq u w = .ok true) ∧
    (∀ v w v' w' : Value, v.IsRegular → w.IsRegular → Rearranged v v' → Rearranged w w' →
      comparison .eq v v' = .ok true ∧ comparison .eq v' w' = comparison .eq v w ∧
        comparison .ne v' w' = comparison .ne v w) ∧
    (∀ v : Value, ∃ answer, comparison .eq v .null = .ok answer ∧
      comparison .eq .null v = .ok answer ∧ (answer = true ↔ v = .null)) ∧
    (∀ v w : Value, v.kind ≠ w.kind → v.kind ≠ .null → w.kind ≠ .null →
      ∀ op ∈ [Comparison.eq, Comparison.ne],
        (∃ error, comparison op v w = .error error ∧
          Fault.ofEvalError error = .of (.undefined error.message none)) ∧
        ∃ error, comparison op w v = .error error ∧
          Fault.ofEvalError error = .of (.undefined error.message none)) ∧
    ∀ (v w : Value) (answer : Bool),
      comparison .eq v w = .ok answer ↔ comparison .ne v w = .ok !answer := by
  refine ⟨fun v w hv hw h => ?_, fun v hv => comparison_eq_refl hv,
    fun u v w hu hv hw => comparison_eq_trans hu hv hw, fun v w v' w' hv hw h h' => ⟨?_, ?_⟩,
    comparison_eq_null, fun v w h hv hw op hop => ?_, comparison_eq_iff_ne⟩
  · obtain ⟨answer, hanswer⟩ := exists_comparison_eq hv hw h
    exact ⟨answer, hanswer, (comparison_eq_comm hv hw h).symm.trans hanswer⟩
  · exact comparison_eq_ok_true_iff.mpr ⟨h.kind_eq, (h.equal hv).2⟩
  · exact comparison_eq_of_rearranged hv hw h h'
  · obtain ⟨heq, hne⟩ := comparison_eq_of_kind_ne h hv hw
    obtain ⟨heq', hne'⟩ := comparison_eq_of_kind_ne h.symm hw hv
    simp only [List.mem_cons, List.not_mem_nil, or_false] at hop
    rcases hop with rfl | rfl
    · exact ⟨⟨_, heq, rfl⟩, _, heq', rfl⟩
    · exact ⟨⟨_, hne, rfl⟩, _, hne', rfl⟩

/-- Mappings of which one holds a boolean where the other one holds a decimal, with their entries in either
order. -/
theorem comparison_equivalence_mappings :
    Value.IsRegular (.map [(.text "a", .list [.bool true]), (.text "b", .null)]) ∧
      Value.IsRegular (.map [(.text "a", .list [.number (.decimal (.finite false 10 (-1)))]),
        (.text "b", .null)]) ∧
      Rearranged (.map [(.text "a", .list [.bool true]), (.text "b", .null)])
        (.map [(.text "b", .null), (.text "a", .list [.bool true])]) ∧
      comparison .eq (.map [(.text "a", .list [.bool true]), (.text "b", .null)])
        (.map [(.text "a", .list [.number (.decimal (.finite false 10 (-1)))]),
          (.text "b", .null)]) = .ok true ∧
      comparison .eq (.map [(.text "b", .null), (.text "a", .list [.bool true])])
        (.map [(.text "a", .list [.number (.decimal (.finite false 10 (-1)))]),
          (.text "b", .null)]) = .ok true ∧
      ∃ error, comparison .ne (.bool true) (.number (.int 1)) = .error error ∧
        Fault.ofEvalError error = .of (.undefined error.message none) := by
  have hkeys : ∀ v w : Value, Value.HasKeys [(.text "a", v), (.text "b", w)] := fun v w =>
    .of_marks (by simp [Value.IsScalar.text]) (by simp [Value.mark?])
  have hv : Value.IsRegular (.map [(.text "a", .list [.bool true]), (.text "b", .null)]) :=
    .map (hkeys _ _) (by simp [Value.IsRegular.list, Value.IsRegular.scalar, Value.IsScalar.bool,
      Value.IsScalar.null])
  have hw : Value.IsRegular (.map [(.text "a",
      .list [.number (.decimal (.finite false 10 (-1)))]), (.text "b", .null)]) := by
    have hdecimal : Value.IsRegular (.number (.decimal (.finite false 10 (-1)))) :=
      .scalar (.number rfl)
    exact .map (hkeys _ _) (by simp [Value.IsRegular.list, hdecimal, Value.IsRegular.scalar,
      Value.IsScalar.null])
  have hswap : Rearranged (.map [(.text "a", .list [.bool true]), (.text "b", .null)])
      (.map [(.text "b", .null), (.text "a", .list [.bool true])]) :=
    .map (.swap _ _ _) rfl (by simp [Rearranged.same])
  have hequal : comparison .eq (.map [(.text "a", .list [.bool true]), (.text "b", .null)])
      (.map [(.text "a", .list [.number (.decimal (.finite false 10 (-1)))]),
        (.text "b", .null)]) = .ok true := by
    cbv
  obtain ⟨-, -, -, hrearranged, -, hkinds, -⟩ := comparison_equivalence
  have hsame := (hrearranged _ _ _ _ hv hw hswap (.same _)).2.1
  have hbool : (Value.bool true).kind ≠ (Value.number (.int 1)).kind := by simp [Value.kind]
  exact ⟨hv, hw, hswap, hequal, hsame.trans hequal,
    (hkinds _ _ hbool (by simp [Value.kind]) (by simp [Value.kind]) .ne (by simp)).1⟩

end Expr

end FeatureToggles
