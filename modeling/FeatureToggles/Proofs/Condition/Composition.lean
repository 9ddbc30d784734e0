import FeatureToggles.Proofs.Expr.Composition
import FeatureToggles.Condition
import Mathlib

/-!
# Tests of conditions made of conditions

What a test of a conjunction or of a negation comes to is told by the tests of its parts, on every
value that is to be a context.  The right part of a conjunction counts only where the left one matched,
and a part that fails there makes the whole fail.

Main statement: `parse_and_test_composed`.
-/

namespace FeatureToggles

namespace Condition

/-- How a test can end. -/
inductive Status where
  | matched
  | notMatched
  | failed
  /-- By an error that is left over in the place of an outcome. -/
  | raised
deriving DecidableEq

/-- How a test ended that has an outcome. -/
def Outcome.status : Outcome → Status
  | .matched _ => .matched
  | .notMatched _ => .notMatched
  | .failed .. => .failed

/-- How a test of a condition ends on a value that is to be a context. -/
def status (condition : String) (value : Value) : Status :=
  match (test condition value).1 with
  | .ok outcome => outcome.status
  | .error _ => .raised

/-! ## Truth -/

/-- How a test ends that meets an error: it fails if the error has a text. -/
def Status.ofFault (fault : Fault) : Status :=
  match fault.failure.text with
  | .ok _ => .failed
  | .error _ => .raised

/-- The attributes that a value gives, or how tests on it end if it gives none. -/
def scopeOf (value : Value) : Except Status Scope :=
  match Context.ofValue value with
  | .error fault => .error (if fault.failure.isTypeError then .ofFault fault else .raised)
  | .ok context => (Context.attributesOf context).mapError fun e => .ofFault e.fault

/-- How a test of an expression ends over some attributes. -/
def verdict (scope : Scope) (e : Expr) : Status :=
  match Expr.holds scope e with
  | .ok true => .matched
  | .ok false => .notMatched
  | .error e => .ofFault (.ofEvalError e)

/-- The truth of an expression, if it has one. -/
def truth? (scope : Scope) (e : Expr) : Option Bool := (Expr.holds scope e).toOption

lemma Status.ofFault_eq (fault : Fault) : Status.ofFault fault = .failed ∨
    Status.ofFault fault = .raised := by
  unfold Status.ofFault
  cases fault.failure.text <;> simp

lemma scopeOf_eq_error {value : Value} {ending : Status} (h : scopeOf value = .error ending) :
    ending = .failed ∨ ending = .raised := by
  unfold scopeOf at h
  split at h
  · obtain rfl := Except.error.inj h
    split
    · exact Status.ofFault_eq _
    · exact .inr rfl
  · rename_i context _
    cases hattributes : Context.attributesOf context with
    | ok attributes => simp [hattributes, Except.mapError] at h
    | error e =>
        obtain rfl : Status.ofFault e.fault = ending := by
          simpa [hattributes, Except.mapError] using h
        exact Status.ofFault_eq _

lemma verdict_and (scope : Scope) (l r : Expr) :
    verdict scope (.and l r) =
      match verdict scope l with
      | .matched => verdict scope r
      | ending => ending := by
  -- an operand that is no boolean is another error than a condition that is none, and both have texts
  unfold verdict Expr.holds
  rw [Expr.evaluate]
  cases Expr.evaluate scope l with
  | error e =>
      simp only [Expr.asBoolean, Status.ofFault]
      split <;> simp_all
  | ok v =>
      cases v with
      | bool b =>
          cases b with
          | false => rfl
          | true =>
              cases Expr.evaluate scope r with
              | error e => rfl
              | ok w => cases w <;> rfl
      | _ => rfl

lemma verdict_not (scope : Scope) (e : Expr) :
    verdict scope (.not e) =
      match verdict scope e with
      | .matched => .notMatched
      | .notMatched => .matched
      | ending => ending := by
  unfold verdict Expr.holds
  rw [Expr.evaluate]
  cases Expr.evaluate scope e with
  | error e =>
      simp only [Expr.asBoolean, Except.map, Status.ofFault]
      split <;> simp_all
  | ok v =>
      cases v with
      | bool b => cases b <;> rfl
      | _ => rfl

lemma truth?_not (scope : Scope) (e : Expr) :
    truth? scope (.not e) = (truth? scope e).map fun b => !b := by
  unfold truth? Expr.holds
  rw [Expr.evaluate]
  cases Expr.evaluate scope e with
  | error e => rfl
  | ok v => cases v <;> rfl

/-- Whoever asks an error for its text is left with something exactly if there is none. -/
lemma status_of_failureOf {condition : String} {context : Option Context} {fault : Fault}
    {told : Except Fault String} {snapshot : String}
    (hsnapshot : Context.snapshot context = .ok snapshot)
    (htold : told.isOk = fault.failure.text.isOk) :
    (match (failureOf condition context fault told).1 with
      | .ok outcome => outcome.status
      | .error _ => Status.raised) = .ofFault fault := by
  unfold failureOf Status.ofFault
  cases told with
  | error raised =>
      cases htext : fault.failure.text with
      | error e => rfl
      | ok text => simp [htext, Except.isOk, Except.toBool] at htold
  | ok message =>
      dsimp only
      rw [failure_of_snapshot hsnapshot]
      cases htext : fault.failure.text with
      | ok text => rfl
      | error e => simp [htext, Except.isOk, Except.toBool] at htold

lemma isOk_text (fault : Fault) : fault.text.isOk = fault.failure.text.isOk := by
  rw [Fault.text]
  cases fault.failure.text <;> rfl

lemma isOk_explain (fault : Fault) : (explain fault).isOk = fault.failure.text.isOk := by
  rw [explain, ← isOk_text]
  cases fault.text <;> rfl

/-- A condition that parses is tested by its expression over the attributes. -/
lemma status_of_parse {condition : String} {e : Expr}
    (h : Expr.parse (normalize condition) = .ok e) (value : Value) :
    status condition value =
      match scopeOf value with
      | .error ending => ending
      | .ok scope => verdict scope e := by
  unfold status test scopeOf
  cases Context.ofValue value with
  | error fault =>
      cases htype : fault.failure.isTypeError with
      | true =>
          simp only [htype, if_true]
          exact status_of_failureOf rfl (isOk_text fault)
      | false => simp [htype]
  | ok context =>
      simp only [testOn, holds, h]
      cases hattributes : Context.attributesOf context with
      | error e' =>
          -- the context is visited once more, to be shown, and the same error is met
          simp only [Except.mapError]
          cases context with
          | none => simp [Context.attributesOf] at hattributes
          | some c =>
              cases htext : e'.fault.failure.text with
              | ok text =>
                  exact status_of_failureOf (Context.snapshot_of_text hattributes htext)
                    (isOk_explain _)
              | error raised =>
                  have hexplain : explain e'.fault = .error (.raise (some e'.fault) raised) :=
                    explain_of_text_error (by rw [Fault.text, htext, Except.mapError])
                  simp only [failureOf, hexplain, Status.ofFault, htext]
      | ok attributes =>
          simp only [verdict, Except.mapError]
          cases Expr.holds attributes e with
          | ok b => cases b <;> rfl
          | error e' =>
              obtain ⟨snapshot, hsnapshot⟩ := Context.exists_snapshot_of_attributesOf hattributes
              exact status_of_failureOf hsnapshot (isOk_explain _)

/-! ## The texts of compositions -/

lemma normalize_append (s t : String) : normalize (s ++ t) = normalize s ++ normalize t := by
  simp [normalize, String.toList_append]

/-- Quotes are put right in the parts of a conjunction. -/
lemma normalize_connected (s t : String) :
    normalize (Expr.connected "&&" s t) = Expr.connected "&&" (normalize s) (normalize t) := by
  have hopening : normalize "(" = "(" := rfl
  have hclosing : normalize ") " = ") " := rfl
  have hoperator : normalize "&&" = "&&" := rfl
  have hopening' : normalize " (" = " (" := rfl
  have hclosing' : normalize ")" = ")" := rfl
  simp only [Expr.connected, normalize_append, hopening, hclosing, hoperator, hopening', hclosing']

/-- Quotes are put right in the part of a negation. -/
lemma normalize_negated (s : String) :
    normalize (Expr.negated s) = Expr.negated (normalize s) := by
  have hopening : normalize "!(" = "!(" := rfl
  have hclosing : normalize ")" = ")" := rfl
  simp only [Expr.negated, normalize_append, hopening, hclosing]

/-- Conditions that parse are put together by parentheses: with any operator between two of them the
text parses to this operator on their expressions, and after an exclamation mark to the negation.  So
the tests of conjunctions and negations are told by the tests of their parts, also where these fail, and
where they are left with an error. -/
theorem parse_and_test_composed (s t : String) :
    (∀ a b, Expr.parse s = .ok a → Expr.parse t = .ok b →
      (∀ l kind op f, Expr.Joins l kind op f →
        Expr.parse (Expr.connected (String.ofList op) s t) = .ok (f a b)) ∧
      Expr.parse (Expr.negated s) = .ok (.not a)) ∧
    (∀ a b, Expr.parse (normalize s) = .ok a → Expr.parse (normalize t) = .ok b → ∀ value,
      (status (Expr.connected "&&" s t) value = .matched ↔
        status s value = .matched ∧ status t value = .matched) ∧
      (status (Expr.connected "&&" s t) value = .failed ↔
        status s value = .failed ∨ status s value = .matched ∧ status t value = .failed) ∧
      (status (Expr.connected "&&" s t) value = .notMatched ↔
        status s value = .notMatched ∨ status s value = .matched ∧ status t value = .notMatched) ∧
      (status (Expr.connected "&&" s t) value = .raised ↔
        status s value = .raised ∨ status s value = .matched ∧ status t value = .raised)) ∧
    (∀ a, Expr.parse (normalize s) = .ok a → ∀ value,
      (status (Expr.negated s) value = .matched ↔ status s value = .notMatched) ∧
      (status (Expr.negated s) value = .notMatched ↔ status s value = .matched) ∧
      (status (Expr.negated s) value = .failed ↔ status s value = .failed) ∧
      (status (Expr.negated s) value = .raised ↔ status s value = .raised)) := by
  refine ⟨fun a b ha hb => ⟨fun l kind op f hop => ?_, ?_⟩, fun a b ha hb value => ?_,
    fun a ha value => ?_⟩
  · exact Expr.parse_connected ha hb hop
  · exact Expr.parse_negated ha
  · have hand : Expr.parse (normalize (Expr.connected "&&" s t)) = .ok (.and a b) := by
      rw [normalize_connected]
      exact Expr.parse_connected ha hb .ampersands
    rw [status_of_parse hand, status_of_parse ha, status_of_parse hb]
    cases hscope : scopeOf value with
    | error ending => rcases scopeOf_eq_error hscope with rfl | rfl <;> simp
    | ok scope =>
        simp only [verdict_and]
        cases verdict scope a <;> cases verdict scope b <;> simp
  · have hnot : Expr.parse (normalize (Expr.negated s)) = .ok (.not a) := by
      rw [normalize_negated]
      exact Expr.parse_negated ha
    rw [status_of_parse hnot, status_of_parse ha]
    cases hscope : scopeOf value with
    | error ending => rcases scopeOf_eq_error hscope with rfl | rfl <;> simp
    | ok scope =>
        simp only [verdict_not]
        cases verdict scope a <;> simp

/-- A disjunction and a string with a parenthesis in it, put together, and tested where the left part
matches and the right one fails. -/
theorem parse_and_test_disjunction_with_string :
    Expr.parse "(a or b) < (\")\")" =
        .ok (.compare .lt (.or (.name "a" []) (.name "b" [])) (.literal (.text ")"))) ∧
      status "(a or b) && (')')" (.map [(.text "a", .bool true)]) = .failed ∧
      status "!(a or b)" (.map [(.text "a", .bool true)]) = .notMatched := by
  have hleft : Expr.parse "a or b" = .ok (.or (.name "a" []) (.name "b" [])) := by cbv
  have hright : Expr.parse "\")\"" = .ok (.literal (.text ")")) := by cbv
  have hleft' : Expr.parse (normalize "a or b") = .ok (.or (.name "a" []) (.name "b" [])) := by cbv
  have hright' : Expr.parse (normalize "')'") = .ok (.literal (.text ")")) := by cbv
  have hmatched : status "a or b" (.map [(.text "a", .bool true)]) = .matched :=
    (status_of_parse hleft' _).trans rfl
  have hfailed : status "')'" (.map [(.text "a", .bool true)]) = .failed :=
    (status_of_parse hright' _).trans rfl
  have hless : Expr.connected (String.ofList ['<']) "a or b" "\")\"" = "(a or b) < (\")\")" := by cbv
  have hand : Expr.connected "&&" "a or b" "')'" = "(a or b) && (')')" := by cbv
  have hnot : Expr.negated "a or b" = "!(a or b)" := by cbv
  rw [← hless, ← hand, ← hnot]
  refine ⟨((parse_and_test_composed "a or b" "\")\"").1 _ _ hleft hright).1 _ _ _ _ .less, ?_, ?_⟩
  · exact ((parse_and_test_composed "a or b" "')'").2.1 _ _ hleft' hright' _).2.1.mpr
      (.inr ⟨hmatched, hfailed⟩)
  · exact ((parse_and_test_composed "a or b" "')'").2.2 _ hleft' _).2.1.mpr hmatched

end Condition

end FeatureToggles
