import FeatureToggles.Condition
import FeatureToggles.Proofs.Expr.Safety
import FeatureToggles.Proofs.Fault.Asking
import FeatureToggles.Proofs.Value.Raising
import Mathlib

/-!
# Errors that a condition meets

A condition that has no truth value on a context meets an error: its text does not parse, the context does
not list its attributes, or the expression has no value over them.  Such an error is one that the value of
the context raises, or else its text can be told.

Main statements: `Draws.evaluate`, which follows the tree, and `isTellable_or_raises_of_holds`.
-/

namespace FeatureToggles

/-! ## Errors that can be told -/

namespace Fault

lemma isTellable_ofParseError (e : ParseError) : (ofParseError e).IsTellable := by
  unfold ofParseError
  split
  · exact isTellable_other _ _
  · exact isTellable_of rfl (by simp)

lemma isTellable_or_raised (e : Value.Error) :
    e.fault.IsTellable ∨ ∃ fault, e = .raised fault := by
  cases e with
  | raised fault => exact .inr ⟨fault, rfl⟩
  | _ => exact .inl (isTellable_other _ _)

lemma isTellable_ofEvalError {e : EvalError} (h : ∀ fault, e ≠ .value (.raised fault)) :
    (ofEvalError e).IsTellable := by
  unfold ofEvalError
  split
  · rename_i v
    rcases isTellable_or_raised v with htellable | ⟨fault, rfl⟩
    · exact htellable
    · exact absurd rfl (h fault)
  · exact isTellable_other _ _
  · exact isTellable_of rfl (by simp)

end Fault

/-! ## Expressions -/

/-- Whether a value in scope raises an error. -/
def Scope.Raises (scope : Scope) (fault : Fault) : Prop :=
  ∃ binding ∈ scope, binding.2.Raises fault

namespace Expr

/-- Whether an error that a result raises is raised in a scope, be it that the result is this error or that
it is a value which raises it. -/
structure Draws (scope : Scope) (fault : Fault) (r : Except EvalError Value) : Prop where
  error : r = .error (.value (.raised fault)) → scope.Raises fault
  value : ∀ v, r = .ok v → v.Raises fault → scope.Raises fault

variable {scope : Scope} {fault : Fault}

lemma not_raises_bool (b : Bool) : ¬ (Value.bool b).Raises fault := (Value.IsData.bool b).not_raises

lemma Draws.map_bool {α : Type} {r : Except EvalError α} {f : α → Bool}
    (h : r = .error (.value (.raised fault)) → scope.Raises fault) :
    Draws scope fault (r.map fun a => .bool (f a)) := by
  cases r with
  | error e => exact ⟨fun he => h (by simpa [Except.map] using he), by simp [Except.map]⟩
  | ok a =>
      refine ⟨by simp [Except.map], fun v hv hraises => ?_⟩
      obtain rfl : Value.bool (f a) = v := by simpa [Except.map] using hv
      exact absurd hraises (not_raises_bool _)

lemma draws_resolveMembers {v : Value} (hv : v.Raises fault → scope.Raises fault) (owner : String)
    (members : List String) : Draws scope fault (resolveMembers owner v members) := by
  induction members generalizing owner v with
  | nil => exact ⟨by simp [resolveMembers], fun w hw hraises => hv (Except.ok.inj hw ▸ hraises)⟩
  | cons member rest ih =>
      obtain ⟨hlisting, hmembers⟩ := @Value.members?_raises v fault
      rw [resolveMembers]
      cases hlisted : v.members? with
      | error e =>
          refine ⟨fun he => hv (hlisting ?_), by simp⟩
          obtain rfl : e = .raised fault := by simpa using he
          exact hlisted
      | ok entries =>
          cases entries with
          | none => exact ⟨by simp, by simp⟩
          | some entries =>
              dsimp only
              cases hlookup : Value.lookup entries (.text member) with
              | none => exact ⟨by simp, by simp⟩
              | some w =>
                  refine ih (fun hraises => hv ?_) _
                  obtain ⟨entry, hfind, rfl⟩ := Option.map_eq_some_iff.mp hlookup
                  exact hmembers entries hlisted entry (List.mem_of_find?_eq_some hfind) hraises

lemma draws_resolve (root : String) (members : List String) :
    Draws scope fault (resolve scope root members) := by
  rw [resolve]
  cases hlookup : scope.lookup root with
  | none => exact ⟨by simp, by simp⟩
  | some v =>
      obtain ⟨binding, hfind, rfl⟩ := Option.map_eq_some_iff.mp hlookup
      have hmem := List.mem_reverse.mp (List.mem_of_find?_eq_some hfind)
      exact draws_resolveMembers (fun hraises => ⟨binding, hmem, hraises⟩) root members

lemma error_of_asBoolean {operator : String} {r : Except EvalError Value}
    (h : asBoolean operator r = .error (.value (.raised fault))) :
    r = .error (.value (.raised fault)) := by
  unfold asBoolean at h
  split at h <;> simp_all

lemma ne_raised_of_mapError {α : Type} (r : Except Decimal.Error α) :
    r.mapError (fun e => EvalError.value (.arithmetic e)) ≠ .error (.value (.raised fault)) := by
  cases r <;> simp [Except.mapError]

lemma ne_raised_of_equal (v w : Value) :
    (v.equal w).mapError EvalError.value ≠ .error (.value (.raised fault)) := by
  have hequal := Value.not_raised_of_equal fault v w
  cases h : v.equal w with
  | ok answer => simp [Except.mapError]
  | error e => simpa [Except.mapError, h] using hequal

lemma comparison_ne_raised (op : Comparison) (v w : Value) :
    comparison op v w ≠ .error (.value (.raised fault)) := by
  have hordered : ∀ a b : Number, orderNumbers op a b ≠ .error (.value (.raised fault)) :=
    fun a b => ne_raised_of_mapError _
  have hequal : (v.equal w).mapError EvalError.value ≠ .error (.value (.raised fault)) :=
    ne_raised_of_equal v w
  unfold comparison
  split
  · split
    · exact hequal
    · simp
  · split
    · cases h : (v.equal w).mapError EvalError.value with
      | ok answer => simp [Except.map]
      | error e => simpa [Except.map, h] using hequal
    · simp
  · split
    · split
      · simp
      · exact hordered _ _
    · split <;> simp
    · simp

lemma draws_minus {v : Value} : Draws scope fault (minus v) := by
  unfold minus
  split
  · split
    · refine ⟨by simp, fun w hw hraises => ?_⟩
      obtain rfl := Except.ok.inj hw
      cases hraises with
      | part hp => simp [Value.parts] at hp
    · exact ⟨by simp, by simp⟩
  · exact ⟨by simp, by simp⟩

/-- What an expression raises is raised by a value in scope, as its literals raise nothing. -/
theorem Draws.evaluate {e : Expr} (he : OverData e) : Draws scope fault (e.evaluate scope) := by
  induction he with
  | literal hv =>
      rw [Expr.evaluate]
      refine ⟨by simp, fun w hw hraises => ?_⟩
      obtain rfl := Except.ok.inj hw
      exact absurd hraises hv.not_raises
  | name root members =>
      rw [Expr.evaluate]
      exact draws_resolve root members
  | not _ ih =>
      rw [Expr.evaluate]
      exact .map_bool fun h => ih.error (error_of_asBoolean h)
  | @negate e _ ih =>
      rw [Expr.evaluate]
      cases hvalue : e.evaluate scope with
      | error error => exact ⟨fun h => ih.error (by simpa [hvalue] using h), by simp⟩
      | ok v => exact draws_minus
  | @compare op l r _ _ _ ihl ihr =>
      rw [Expr.evaluate]
      cases hl : l.evaluate scope with
      | error error => exact ⟨fun h => ihl.error (by simpa [hl] using h), by simp⟩
      | ok v =>
          cases hr : r.evaluate scope with
          | error error => exact ⟨fun h => ihr.error (by simpa [hr] using h), by simp⟩
          | ok w => exact .map_bool fun h => absurd h (comparison_ne_raised op v w)
  | @and l r _ _ ihl ihr =>
      rw [Expr.evaluate]
      rcases hl : asBoolean "&&" (l.evaluate scope) with error | _ | _
      · exact ⟨fun h => ihl.error (error_of_asBoolean (hl.trans (by simpa using h))), by simp⟩
      · exact ⟨by simp, fun v hv hraises => by
          obtain rfl := Except.ok.inj hv
          exact absurd hraises (not_raises_bool _)⟩
      · exact .map_bool fun h => ihr.error (error_of_asBoolean h)
  | @or l r _ _ ihl ihr =>
      rw [Expr.evaluate]
      rcases hl : asBoolean "||" (l.evaluate scope) with error | _ | _
      · exact ⟨fun h => ihl.error (error_of_asBoolean (hl.trans (by simpa using h))), by simp⟩
      · exact .map_bool fun h => ihr.error (error_of_asBoolean h)
      · exact ⟨by simp, fun v hv hraises => by
          obtain rfl := Except.ok.inj hv
          exact absurd hraises (not_raises_bool _)⟩

lemma raises_of_holds {e : Expr} (he : OverData e)
    (h : e.holds scope = .error (.value (.raised fault))) : scope.Raises fault := by
  unfold holds at h
  split at h
  · rename_i error herror
    obtain rfl := Except.error.inj h
    exact (Draws.evaluate he).error herror
  · simp at h
  · simp at h

end Expr

/-! ## Conditions -/

namespace Condition

/-- An error that a condition meets on a context can be told, or it is raised inside the value that stands
for the context. -/
theorem isTellable_or_raises_of_holds {condition : String} {value : Value}
    {context : Option Context} (hcontext : Context.ofValue value = .ok context) {fault : Fault}
    (h : holds condition context = .error fault) : fault.IsTellable ∨ value.Raises fault := by
  unfold holds at h
  cases hparse : Expr.parse condition with
  | error e =>
      obtain rfl : Fault.ofParseError e = fault := by simpa [hparse] using h
      exact .inl (Fault.isTellable_ofParseError e)
  | ok tree =>
      have hraises : (∀ fault', Context.attributesOf context = .error (.raised fault') →
          value.Raises fault') ∧ ∀ attributes, Context.attributesOf context = .ok attributes →
            ∀ fault', Scope.Raises attributes fault' → value.Raises fault' := by
        cases context with
        | none => simp [Context.attributesOf, Scope.Raises]
        | some c =>
            refine ⟨fun fault' he => (Context.attributes_raises hcontext).1 he,
              fun attributes hlisted fault' => ?_⟩
            rintro ⟨a, ha, hraised⟩
            exact (Context.attributes_raises hcontext).2 attributes hlisted a ha hraised
      cases hattributes : Context.attributesOf context with
      | error e =>
          obtain rfl : e.fault = fault := by simpa [hparse, hattributes] using h
          rcases Fault.isTellable_or_raised e with htellable | ⟨fault', rfl⟩
          · exact .inl htellable
          · exact .inr (hraises.1 fault' hattributes)
      | ok attributes =>
          simp only [hparse, hattributes] at h
          cases hholds : Expr.holds attributes tree with
          | ok b => simp [hholds, Except.mapError] at h
          | error e =>
              obtain rfl : Fault.ofEvalError e = fault := by
                simpa [hholds, Except.mapError] using h
              by_cases hraised : ∃ fault', e = .value (.raised fault')
              · obtain ⟨fault', rfl⟩ := hraised
                exact .inr (hraises.2 attributes hattributes fault'
                  (Expr.raises_of_holds (Expr.overData_of_parse hparse) hholds))
              · exact .inl (Fault.isTellable_ofEvalError fun fault' he => hraised ⟨fault', he⟩)

/-- An error with which a context does not list its attributes can be told, or it is raised inside the value
that stands for the context. -/
lemma isTellable_or_raises_of_attributes {value : Value} {c : Context}
    (hcontext : Context.ofValue value = .ok (some c)) {e : Value.Error}
    (h : c.attributes = .error e) : e.fault.IsTellable ∨ value.Raises e.fault := by
  rcases Fault.isTellable_or_raised e with htellable | ⟨fault, rfl⟩
  · exact .inl htellable
  · exact .inr ((Context.attributes_raises hcontext).1 h)

/-- The error of a value that is no context can be told, or it is raised inside the value. -/
lemma isTellable_or_raises_of_ofValue {value : Value} {fault : Fault}
    (h : Context.ofValue value = .error fault) : fault.IsTellable ∨ value.Raises fault := by
  cases value with
  | null | map | context | provider => cases h
  | foreign self failure =>
      cases failure with
      | none =>
          obtain rfl := Except.error.inj h
          exact .inl (Fault.isTellable_other _ _)
      | some fault' =>
          obtain rfl : fault' = fault := Except.error.inj h
          exact .inr (.attributes self fault')
  | bool | number | text | list =>
      obtain rfl := Except.error.inj h
      exact .inl (Fault.isTellable_other _ _)

/-- A context that cannot be shown makes every test on it leave over the same error. -/
lemma testOn_of_unlisted {c : Context} {e : Value.Error} {raised : Fault}
    (hattributes : c.attributes = .error e) (htext : e.fault.text = .error raised)
    (condition : String) : testOn condition (some c) = (.error raised, []) := by
  have hsnapshot : Context.snapshot (some c) = .error raised :=
    Context.snapshot_eq_error_iff.mpr ⟨c, e, rfl, hattributes, htext⟩
  cases hparse : Expr.parse (normalize condition) with
  | error e' =>
      have hholds : holds (normalize condition) (some c) = .error (.ofParseError e') := by
        simp only [holds, hparse]
      obtain ⟨text, hparsed⟩ := (Fault.isTellable_ofParseError e').hasTexts.exists_text
      obtain ⟨message, hexplain⟩ := exists_explain_of_text hparsed
      rw [testOn_of_explain hholds hexplain, failure_of_snapshot_error hsnapshot]
  | ok tree =>
      have hholds : holds (normalize condition) (some c) = .error e.fault := by
        simp only [holds, hparse, Context.attributesOf, hattributes]
      rw [testOn_of_explain_error hholds (explain_of_text_error htext)]

lemma testRuleOn_of_unlisted {c : Context} {e : Value.Error} {raised : Fault}
    (hattributes : c.attributes = .error e) (htext : e.fault.text = .error raised) (rule : Rule) :
    testRuleOn rule (some c) = (.error raised, []) := by
  unfold testRuleOn
  split
  · exact failure_of_snapshot_error
      (Context.snapshot_eq_error_iff.mpr ⟨c, e, rfl, hattributes, htext⟩)
  · exact testOn_of_unlisted hattributes htext rule.condition

end Condition

end FeatureToggles
