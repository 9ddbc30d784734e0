import FeatureToggles.Proofs.Condition.Composition

/-!
# Connectives

A connective asks its operands for booleans from left to right, and leaves the second one alone where the
first one decides.  Conjunction and disjunction differ in the value that decides, and negation exchanges
these values; so each law is proved once, for an operator with either value.

Which error is told depends on the operator that meets it and on the operand that is asked first.  A row may
be grouped in another way without any change to its errors.  The laws that exchange the operators, or ask an
operand twice, keep the values, and whether there is one.

Main statement: `connectives_in_turn`.
-/

namespace FeatureToggles

namespace Expr

open Condition (truth?)

/-! ## Booleans asked for in turn -/

/-- A boolean asked for after another one, unless that is the one that decides. -/
def inTurn {m : Type → Type} [Monad m] (deciding : Bool) (p q : m Bool) : m Bool := do
  let b ← p
  if b = deciding then pure deciding else q

/-- The errors of a row do not depend on how it is grouped, nor does what is asked for. -/
lemma inTurn_assoc (d : Bool) (p q r : Except EvalError Bool) :
    inTurn d (inTurn d p q) r = inTurn d p (inTurn d q r) := by
  cases p with
  | error e => rfl
  | ok b =>
      by_cases h : b = d
      · subst h
        simp [inTurn, bind, Except.bind, pure, Except.pure]
      · simp [inTurn, bind, Except.bind, h]

lemma inTurn_ok_comm (d b c : Bool) :
    inTurn d (.ok b : Except EvalError Bool) (.ok c) = inTurn d (.ok c) (.ok b) := by
  cases d <;> cases b <;> cases c <;> rfl

lemma toOption_inTurn (d : Bool) (p q : Except EvalError Bool) :
    (inTurn d p q).toOption = inTurn d p.toOption q.toOption := by
  cases p with
  | error e => rfl
  | ok b =>
      by_cases h : b = d
      · subst h
        simp [inTurn, bind, Except.bind, pure, Except.pure, Except.toOption]
      · simp [inTurn, bind, Except.bind, Except.toOption, h]

/-- Negation exchanges the values that decide. -/
lemma map_not_inTurn (d : Bool) (p q : Option Bool) :
    (inTurn d p q).map (!·) = inTurn (!d) (p.map (!·)) (q.map (!·)) := by
  rcases p with _ | b
  · rfl
  · cases d <;> cases b <;> rfl

/-- An operand that does not decide may be asked again. -/
lemma inTurn_distrib (d : Bool) (p q r : Option Bool) :
    inTurn d p (inTurn (!d) q r) = inTurn (!d) (inTurn d p q) (inTurn d p r) := by
  rcases p with _ | b
  · rfl
  · cases d <;> cases b <;> rfl

/-! ## Connectives -/

variable {scope : Scope} {e e' : Expr}

/-- The connective that a value of its left operand decides: disjunction if it is true, else conjunction. -/
def decidedBy : Bool → Expr → Expr → Expr
  | false => .and
  | true => .or

/-- How such a connective is written. -/
def connectiveSymbol : Bool → String
  | false => "&&"
  | true => "||"

lemma asBoolean_map_bool (operator : String) (p : Except EvalError Bool) :
    asBoolean operator (p.map .bool) = p := by
  cases p <;> rfl

lemma evaluate_not (scope : Scope) (a : Expr) :
    evaluate scope (.not a) =
      ((asBoolean "!" (evaluate scope a)).map (!·)).map .bool := by
  rw [evaluate]
  cases asBoolean "!" (evaluate scope a) <;> rfl

/-- A connective asks its operands for booleans in turn. -/
lemma evaluate_decidedBy (scope : Scope) (d : Bool) (a b : Expr) :
    evaluate scope (decidedBy d a b) =
      (inTurn d (asBoolean (connectiveSymbol d) (evaluate scope a))
        (asBoolean (connectiveSymbol d) (evaluate scope b))).map .bool := by
  cases d with
  | false =>
      rw [decidedBy, evaluate, connectiveSymbol]
      cases asBoolean "&&" (evaluate scope a) with
      | error e => rfl
      | ok x => cases x <;> rfl
  | true =>
      rw [decidedBy, evaluate, connectiveSymbol]
      cases asBoolean "||" (evaluate scope a) with
      | error e => rfl
      | ok x => cases x <;> rfl

/-- Regrouping keeps values and errors. -/
lemma evaluate_decidedBy_assoc (scope : Scope) (d : Bool) (a b c : Expr) :
    evaluate scope (decidedBy d (decidedBy d a b) c) =
      evaluate scope (decidedBy d a (decidedBy d b c)) := by
  simp only [evaluate_decidedBy, asBoolean_map_bool, inTurn_assoc]

/-- Booleans may be asked for in any order. -/
lemma evaluate_decidedBy_comm {a b : Expr} {x y : Bool} (ha : evaluate scope a = .ok (.bool x))
    (hb : evaluate scope b = .ok (.bool y)) (d : Bool) :
    evaluate scope (decidedBy d a b) = evaluate scope (decidedBy d b a) := by
  rw [evaluate_decidedBy, evaluate_decidedBy, ha, hb]
  exact congrArg (Except.map Value.bool) (inTurn_ok_comm d x y)

lemma evaluate_not_not {a : Expr} {x : Bool} (ha : evaluate scope a = .ok (.bool x)) :
    evaluate scope (.not (.not a)) = evaluate scope a := by
  rw [evaluate_not, evaluate_not, asBoolean_map_bool, ha]
  cases x <;> rfl

/-! ## Truth -/

/-- Whatever operator asks for it, a boolean is the truth of the expression, and all else is an error. -/
lemma toOption_asBoolean (operator : String) (scope : Scope) (e : Expr) :
    (asBoolean operator (evaluate scope e)).toOption = truth? scope e := by
  unfold truth? holds
  cases evaluate scope e with
  | error e => rfl
  | ok v => cases v <;> rfl

/-- The truth of what has a boolean for its value, if it has one. -/
lemma truth?_of_evaluate {p : Except EvalError Bool} (h : evaluate scope e = p.map .bool) :
    truth? scope e = p.toOption := by
  unfold truth? holds
  rw [h]
  cases p <;> rfl

lemma truth?_decidedBy (scope : Scope) (d : Bool) (a b : Expr) :
    truth? scope (decidedBy d a b) = inTurn d (truth? scope a) (truth? scope b) := by
  rw [truth?_of_evaluate (evaluate_decidedBy scope d a b), toOption_inTurn, toOption_asBoolean,
    toOption_asBoolean]

/-- Whether two expressions have the same value, or neither of them has one. -/
def SameValue (scope : Scope) (e e' : Expr) : Prop :=
  (evaluate scope e).toOption = (evaluate scope e').toOption

/-- Whether an expression has no other values than booleans. -/
def IsLogical (e : Expr) : Prop :=
  ∀ scope, ∃ p : Except EvalError Bool, evaluate scope e = p.map .bool

lemma isLogical_not (a : Expr) : IsLogical (.not a) := fun scope => ⟨_, evaluate_not scope a⟩

lemma isLogical_decidedBy (d : Bool) (a b : Expr) : IsLogical (decidedBy d a b) :=
  fun scope => ⟨_, evaluate_decidedBy scope d a b⟩

/-- Expressions with boolean values have the same value if they have the same truth. -/
lemma IsLogical.sameValue (he : IsLogical e) (he' : IsLogical e')
    (h : truth? scope e = truth? scope e') : SameValue scope e e' := by
  have hvalue : ∀ {e : Expr}, IsLogical e →
      (evaluate scope e).toOption = (truth? scope e).map .bool := by
    intro e he
    obtain ⟨p, hp⟩ := he scope
    rw [truth?_of_evaluate hp, hp]
    cases p <;> rfl
  rw [SameValue, hvalue he, hvalue he', h]

/-- The negation of a connective is the other connective on the negations. -/
lemma sameValue_not_decidedBy (scope : Scope) (d : Bool) (a b : Expr) :
    SameValue scope (.not (decidedBy d a b)) (decidedBy (!d) (.not a) (.not b)) := by
  refine (isLogical_not _).sameValue (isLogical_decidedBy _ _ _) ?_
  rw [Condition.truth?_not, truth?_decidedBy, truth?_decidedBy, Condition.truth?_not,
    Condition.truth?_not]
  exact map_not_inTurn d _ _

/-- Each connective distributes over the other. -/
lemma sameValue_decidedBy_distrib (scope : Scope) (d : Bool) (a b c : Expr) :
    SameValue scope (decidedBy d a (decidedBy (!d) b c))
      (decidedBy (!d) (decidedBy d a b) (decidedBy d a c)) := by
  refine (isLogical_decidedBy _ _ _).sameValue (isLogical_decidedBy _ _ _) ?_
  simp only [truth?_decidedBy]
  exact inTurn_distrib d _ _ _

/-- Conjunction and disjunction may be grouped in any way, with the same value or the same error.  Where it
does not matter which error there is, the negation of the one is the other of the negations, and each
distributes over the other.  Over booleans both commute, and two negations do nothing. -/
theorem connectives_in_turn (scope : Scope) (a b c : Expr) :
    (evaluate scope (.and (.and a b) c) = evaluate scope (.and a (.and b c)) ∧
        evaluate scope (.or (.or a b) c) = evaluate scope (.or a (.or b c))) ∧
      (SameValue scope (.not (.and a b)) (.or (.not a) (.not b)) ∧
        SameValue scope (.not (.or a b)) (.and (.not a) (.not b))) ∧
      (SameValue scope (.and a (.or b c)) (.or (.and a b) (.and a c)) ∧
        SameValue scope (.or a (.and b c)) (.and (.or a b) (.or a c))) ∧
      ∀ x y, evaluate scope a = .ok (.bool x) → evaluate scope b = .ok (.bool y) →
        evaluate scope (.and a b) = evaluate scope (.and b a) ∧
          evaluate scope (.or a b) = evaluate scope (.or b a) ∧
          evaluate scope (.not (.not a)) = evaluate scope a := by
  refine ⟨?_, ?_, ?_, fun x y ha hb => ?_⟩
  · exact ⟨evaluate_decidedBy_assoc scope false a b c, evaluate_decidedBy_assoc scope true a b c⟩
  · exact ⟨sameValue_not_decidedBy scope false a b, sameValue_not_decidedBy scope true a b⟩
  · exact ⟨sameValue_decidedBy_distrib scope false a b c,
      sameValue_decidedBy_distrib scope true a b c⟩
  · exact ⟨evaluate_decidedBy_comm ha hb false, evaluate_decidedBy_comm ha hb true,
      evaluate_not_not ha⟩

/-- An attribute and a comparison that are booleans, and a third operand that is not there. -/
theorem connectives_in_turn_missing_operand :
    ∃ a b, evaluate [("Beta", .bool true), ("Age", .number (.int 3))] a = .ok (.bool true) ∧
      evaluate [("Beta", .bool true), ("Age", .number (.int 3))] b = .ok (.bool false) ∧
      evaluate [("Beta", .bool true), ("Age", .number (.int 3))] (.and a b) =
        evaluate [("Beta", .bool true), ("Age", .number (.int 3))] (.and b a) ∧
      SameValue [("Beta", .bool true), ("Age", .number (.int 3))]
        (.and a (.or b (.name "Plan" []))) (.or (.and a b) (.and a (.name "Plan" []))) := by
  have ha : evaluate [("Beta", .bool true), ("Age", .number (.int 3))] (.name "Beta" []) =
      .ok (.bool true) := by
    cbv
  have hb : evaluate [("Beta", .bool true), ("Age", .number (.int 3))]
      (.compare .gt (.name "Age" []) (.literal (.number (.int 18)))) = .ok (.bool false) := by
    cbv
  obtain ⟨-, -, hdistrib, hbooleans⟩ := connectives_in_turn
    [("Beta", .bool true), ("Age", .number (.int 3))] (.name "Beta" [])
    (.compare .gt (.name "Age" []) (.literal (.number (.int 18)))) (.name "Plan" [])
  exact ⟨_, _, ha, hb, (hbooleans true false ha hb).1, hdistrib.1⟩

end Expr

end FeatureToggles
