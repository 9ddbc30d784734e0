import FeatureToggles.Engine
import Mathlib.Tactic.Common

/-!
# The scan of the rules

On a context a rule matches, is skipped as its condition is false, or fails, be it that it reports so or
that the test is left with an error.  The scan leaves out the rules that are skipped; the first other one
ends it, and what stands after that rule does not matter.

Main statements: `scan_append_of_skipped`, `scan_of_matches`, `scan_of_fails` and `scan_cons_congr`.
-/

namespace FeatureToggles

/-! ## Conditions and rules on a context -/

/-- The truth value of a condition on a context: its text, with single quotes read as double ones, is
an expression that has this value over the attributes of the context. -/
def Condition.Yields (condition : String) (c : Context) (b : Bool) : Prop :=
  ∃ e attributes, Expr.parse (normalize condition) = .ok e ∧ c.attributes = .ok attributes ∧
    Expr.holds attributes e = .ok b

/-- Whether a rule is left out on a context. -/
def Rule.Skipped (r : Rule) (c : Context) : Prop :=
  r.disabled = false ∧ Condition.Yields r.condition c false

/-- Whether a rule matches a context. -/
def Rule.Matches (r : Rule) (c : Context) : Prop :=
  r.disabled = false ∧ Condition.Yields r.condition c true

namespace Condition

lemma holds_eq_ok_iff {condition : String} {c : Context} {b : Bool} :
    holds (normalize condition) (some c) = .ok b ↔ Yields condition c b := by
  unfold holds Yields Context.attributesOf
  constructor
  · intro h
    cases hparse : Expr.parse (normalize condition) with
    | error e => simp [hparse] at h
    | ok e =>
        cases hattributes : c.attributes with
        | error e' => simp [hparse, hattributes] at h
        | ok attributes =>
            refine ⟨e, attributes, rfl, rfl, ?_⟩
            cases hholds : Expr.holds attributes e with
            | error e' => simp [hparse, hattributes, hholds, Except.mapError] at h
            | ok b' => simpa [hparse, hattributes, hholds, Except.mapError] using h
  · rintro ⟨e, attributes, hparse, hattributes, hholds⟩
    simp [hparse, hattributes, hholds, Except.mapError]

/-- A condition does not have two truth values. -/
lemma Yields.eq {condition : String} {c : Context} {b b' : Bool} (h : Yields condition c b)
    (h' : Yields condition c b') : b = b' :=
  Except.ok.inj ((holds_eq_ok_iff.mpr h).symm.trans (holds_eq_ok_iff.mpr h'))

/-! ## Tests of rules -/

lemma testRuleOn_of_skipped {r : Rule} {c : Context} (h : r.Skipped c) :
    testRuleOn r (some c) = (.ok (.notMatched (normalize r.condition)), []) := by
  simp [testRuleOn, testOn, h.1, holds_eq_ok_iff.mpr h.2]

lemma testRuleOn_of_matches {r : Rule} {c : Context} (h : r.Matches c) :
    testRuleOn r (some c) = (.ok (.matched (normalize r.condition)), []) := by
  simp [testRuleOn, testOn, h.1, holds_eq_ok_iff.mpr h.2]

/-- A failure is logged with the context that it came up on, or it is left with an error. -/
lemma failure_some (condition message : String) (c : Context) (cause : Option Fault) :
    (∃ snapshot, Context.snapshot (some c) = .ok snapshot ∧
        failure condition (some c) message cause =
          (.ok (.failed condition snapshot message cause),
            [.conditionFailed condition message snapshot])) ∨
      ∃ raised, failure condition (some c) message cause = (.error raised, []) := by
  cases hsnapshot : Context.snapshot (some c) with
  | ok snapshot => exact .inl ⟨snapshot, rfl, failure_of_snapshot hsnapshot⟩
  | error raised => exact .inr ⟨raised, failure_of_snapshot_error hsnapshot⟩

/-- A rule that neither matches nor is skipped fails, which is logged with the context that it failed
on, or its test is left with an error. -/
lemma testRuleOn_of_fails {r : Rule} {c : Context} (hskipped : ¬ r.Skipped c)
    (hmatches : ¬ r.Matches c) :
    (∃ snapshot message cause, Context.snapshot (some c) = .ok snapshot ∧
        testRuleOn r (some c) =
          (.ok (.failed (normalize r.condition) snapshot message cause),
            [.conditionFailed (normalize r.condition) message snapshot])) ∨
      ∃ raised, testRuleOn r (some c) = (.error raised, []) := by
  have hfailure : ∀ message cause,
      testRuleOn r (some c) = failure (normalize r.condition) (some c) message cause →
      (∃ snapshot message cause, Context.snapshot (some c) = .ok snapshot ∧
          testRuleOn r (some c) =
            (.ok (.failed (normalize r.condition) snapshot message cause),
              [.conditionFailed (normalize r.condition) message snapshot])) ∨
        ∃ raised, testRuleOn r (some c) = (.error raised, []) := by
    intro message cause htest
    rw [htest]
    exact (failure_some (normalize r.condition) message c cause).imp_left fun ⟨snapshot, hsnapshot, h⟩ =>
      ⟨snapshot, message, cause, hsnapshot, h⟩
  cases hdisabled : r.disabled with
  | true =>
      exact hfailure (disabledMessage (normalize r.condition)) none
        (by simp only [testRuleOn, hdisabled, if_true])
  | false =>
      have htest : testRuleOn r (some c) = testOn r.condition (some c) := by
        simp [testRuleOn, hdisabled]
      cases hholds : holds (normalize r.condition) (some c) with
      | error e =>
          cases hexplain : explain e with
          | error raised => exact .inr ⟨raised, htest.trans (testOn_of_explain_error hholds hexplain)⟩
          | ok message => exact hfailure _ _ (htest.trans (testOn_of_explain hholds hexplain))
      | ok b =>
          cases b with
          | true => exact absurd ⟨hdisabled, holds_eq_ok_iff.mp hholds⟩ hmatches
          | false => exact absurd ⟨hdisabled, holds_eq_ok_iff.mp hholds⟩ hskipped

end Condition

namespace Engine

open Condition

/-- The fault of a feature of which the rule at some place failed on a context that is shown. -/
def ruleFault (feature : String) (index : ℕ) (condition snapshot message : String)
    (cause : Option Fault) : Fault :=
  .featureCausedBy none feature (failureMessage feature (ruleWords index condition message))
    .evaluationFailed (.condition condition snapshot message cause)

variable {feature : String} {c : Context}

/-! ## The rule that ends a scan -/

/-- Either all rules are skipped, or there is a first one that is not. -/
lemma exists_first_rule (c : Context) (rules : List Rule) :
    (∀ r ∈ rules, r.Skipped c) ∨
      ∃ before r after, rules = before ++ r :: after ∧ (∀ s ∈ before, s.Skipped c) ∧
        ¬ r.Skipped c := by
  induction rules with
  | nil => exact .inl (by simp)
  | cons r rules ih =>
      by_cases hr : r.Skipped c
      · rcases ih with hall | ⟨before, r', after, rfl, hbefore, hr'⟩
        · exact .inl (by simpa using ⟨hr, hall⟩)
        · exact .inr ⟨r :: before, r', after, rfl, by simpa using ⟨hr, hbefore⟩, hr'⟩
      · exact .inr ⟨[], r, rules, rfl, by simp, hr⟩

lemma scan_append_of_skipped {before : List Rule} (h : ∀ r ∈ before, r.Skipped c) (index : Nat)
    (rules : List Rule) :
    scan feature (some c) index (before ++ rules) =
      scan feature (some c) (index + before.length) rules := by
  induction before generalizing index with
  | nil => rfl
  | cons r before ih =>
      -- a rule that is skipped logs nothing, so only the index goes on
      have hr := testRuleOn_of_skipped (h r (by simp))
      rw [List.cons_append, scan, hr]
      simp only [List.nil_append, ih (fun s hs => h s (by simp [hs])), List.length_cons]
      rw [Nat.add_assoc, Nat.add_comm 1]

lemma scan_of_skipped {rules : List Rule} (h : ∀ r ∈ rules, r.Skipped c) (index : Nat) :
    scan feature (some c) index rules = (.ok none, []) := by
  rw [← List.append_nil rules, scan_append_of_skipped h index []]
  rfl

lemma scan_of_matches {r : Rule} (h : r.Matches c) (index : Nat) (after : List Rule) :
    scan feature (some c) index (r :: after) =
      (.ok (some r.enabled), [.ruleMatched feature index (normalize r.condition) r.enabled]) := by
  rw [scan, testRuleOn_of_matches h]
  rfl

lemma scan_of_fails {r : Rule} (hskipped : ¬ r.Skipped c) (hmatches : ¬ r.Matches c) (feature : String)
    (index : Nat) (after : List Rule) :
    (∃ snapshot message cause, Context.snapshot (some c) = .ok snapshot ∧
        scan feature (some c) index (r :: after) =
          (.error (ruleFault feature index (normalize r.condition) snapshot message cause),
            [.conditionFailed (normalize r.condition) message snapshot])) ∨
      ∃ raised, testRuleOn r (some c) = (.error raised, []) ∧
        scan feature (some c) index (r :: after) = (.error raised, []) := by
  obtain ⟨snapshot, message, cause, hsnapshot, htest⟩ | ⟨raised, htest⟩ :=
    testRuleOn_of_fails hskipped hmatches
  · exact .inl ⟨snapshot, message, cause, hsnapshot, by rw [scan, htest]; rfl⟩
  · exact .inr ⟨raised, htest, by rw [scan, htest]⟩

/-- What stands after a rule that is not skipped does not matter. -/
lemma scan_cons_congr {r : Rule} (h : ¬ r.Skipped c) (index : Nat) (after after' : List Rule) :
    scan feature (some c) index (r :: after) = scan feature (some c) index (r :: after') := by
  by_cases hmatches : r.Matches c
  · rw [scan_of_matches hmatches, scan_of_matches hmatches]
  · obtain ⟨snapshot, message, cause, -, htest⟩ | ⟨raised, htest⟩ := testRuleOn_of_fails h hmatches
    · rw [scan, scan, htest]
    · rw [scan, scan, htest]

end Engine

end FeatureToggles
