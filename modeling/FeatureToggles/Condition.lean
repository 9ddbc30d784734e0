import FeatureToggles.Context
import FeatureToggles.Expr.Fault
import FeatureToggles.Feature
import FeatureToggles.Log

/-!
# Conditions

A condition is a text that is tested against a context.  It may write its strings in single quotes,
which are turned into double ones first.  The test ends in one of three ways: the condition matched,
it did not, or it failed; a failure is reported with the condition as it was read and a snapshot of
the context.  Two kinds of errors are not made a failure of the test: one that a value raises when it is
looked at for attributes, unless it is a type error, and one that comes of asking an error for its text.

Main statements: a disabled rule fails on every context that can be shown (`testRuleOn_disabled`), and the
condition of an outcome is the normalized text (`condition_of_test`).
-/

namespace FeatureToggles

namespace Condition

/-- A condition with double quotes in the place of single ones. -/
def normalize (condition : String) : String :=
  String.ofList (condition.toList.map fun c => if c = '\'' then '"' else c)

/-- How a test ended, with the condition that was tested. -/
inductive Outcome where
  | matched (condition : String)
  | notMatched (condition : String)
  /-- A failure: the context as it is shown, what is told of the failure, and the error behind it, if
  any. -/
  | failed (condition snapshot message : String) (cause : Option Fault)

namespace Outcome

/-- The condition that was tested. -/
def condition : Outcome → String
  | .matched c => c
  | .notMatched c => c
  | .failed c .. => c

/-- Whether the condition matched. -/
def isMatch : Outcome → Bool
  | .matched _ => true
  | _ => false

/-- The word for an outcome. -/
def word : Outcome → String
  | .matched _ => "matched"
  | .notMatched _ => "not_matched"
  | .failed .. => "failed"

/-- The fault of a failure. -/
def fault? : Outcome → Option Fault
  | .failed condition snapshot message cause => some (.condition condition snapshot message cause)
  | _ => none

end Outcome

/-- What came of something, and what was logged meanwhile. -/
abbrev Logged (α : Type) := α × List Event

/-- A failure, which is logged, unless the context cannot be shown. -/
def failure (condition : String) (context : Option Context) (message : String)
    (cause : Option Fault) : Logged (Except Fault Outcome) :=
  match Context.snapshot context with
  | .error raised => (.error raised, [])
  | .ok snapshot =>
    (.ok (.failed condition snapshot message cause), [.conditionFailed condition message snapshot])

/-- The failure that comes of an error, unless what is told about the error is an error itself. -/
def failureOf (condition : String) (context : Option Context) (cause : Fault)
    (message : Except Fault String) : Logged (Except Fault Outcome) :=
  match message with
  | .error raised => (.error raised, [])
  | .ok message => failure condition context message (some cause)

/-- What is told about the error behind a failure.  Errors of expressions speak for themselves; of
others the class is told as well. -/
def explain (f : Fault) : Except Fault String :=
  f.text.map fun text =>
    if f.isExpressionError then text else f.failure.className ++ ": " ++ text

/-- The truth of a normalized condition on a context. -/
def holds (condition : String) (context : Option Context) : Except Fault Bool :=
  match Expr.parse condition with
  | .error e => .error (.ofParseError e)
  | .ok e =>
    match Context.attributesOf context with
    | .error e => .error e.fault
    | .ok attributes => (Expr.holds attributes e).mapError .ofEvalError

/-- Tests a condition on a context. -/
def testOn (condition : String) (context : Option Context) : Logged (Except Fault Outcome) :=
  let normalized := normalize condition
  match holds normalized context with
  | .error fault => failureOf normalized context fault (explain fault)
  | .ok true => (.ok (.matched normalized), [])
  | .ok false => (.ok (.notMatched normalized), [])

/-- Tests a condition on a value that is to be a context. -/
def test (condition : String) (value : Value) : Logged (Except Fault Outcome) :=
  match Context.ofValue value with
  | .ok context => testOn condition context
  | .error fault =>
    if fault.failure.isTypeError then failureOf (normalize condition) none fault fault.text
    else (.error fault, [])

/-- What is told about a rule that is disabled. -/
def disabledMessage (condition : String) : String :=
  "Rule with condition '" ++ condition ++ "' is disabled and cannot match"

/-- Tests the condition of a rule on a context; a disabled rule fails. -/
def testRuleOn (rule : Rule) (context : Option Context) : Logged (Except Fault Outcome) :=
  if rule.disabled then
    let normalized := normalize rule.condition
    failure normalized context (disabledMessage normalized) none
  else testOn rule.condition context

/-- The context that a value stands for, or none if it is refused by a type error. -/
def contextOrNone (value : Value) : Except Fault (Option Context) :=
  match Context.ofValue value with
  | .ok context => .ok context
  | .error fault => if fault.failure.isTypeError then .ok none else .error fault

/-- Tests the condition of a rule on a value that is to be a context; a disabled rule fails. -/
def testRule (rule : Rule) (value : Value) : Logged (Except Fault Outcome) :=
  if rule.disabled then
    match contextOrNone value with
    | .error fault => (.error fault, [])
    | .ok context => testRuleOn rule context
  else test rule.condition value

/-- What is told about a condition that did not match. -/
def unmatchedMessage (condition snapshot : String) : String :=
  "Condition failed: " ++ condition ++ ", Context Details: " ++ snapshot

/-- Demands a match: any other outcome is a fault. -/
def require (value : Value) : Outcome → Except Fault Bool
  | .matched _ => .ok true
  | .failed condition snapshot message cause =>
    .error (.condition condition snapshot message cause)
  | .notMatched condition =>
    match contextOrNone value with
    | .error fault => .error fault
    | .ok context =>
      match Context.snapshot context with
      | .error raised => .error raised
      | .ok snapshot =>
        .error (.condition condition snapshot (unmatchedMessage condition snapshot) none)

/-- Demands that a tested condition matches. -/
def demand (value : Value) : Logged (Except Fault Outcome) → Logged (Except Fault Bool)
  | (.error fault, events) => (.error fault, events)
  | (.ok outcome, events) => (require value outcome, events)

/-! ## Lemmas -/

section

variable {condition message snapshot : String} {context : Option Context} {cause : Option Fault}
  {fault raised : Fault}

theorem failure_of_snapshot (h : Context.snapshot context = .ok snapshot) :
    failure condition context message cause =
      (.ok (.failed condition snapshot message cause), [.conditionFailed condition message snapshot]) := by
  simp only [failure, h]

theorem failure_of_snapshot_error (h : Context.snapshot context = .error raised) :
    failure condition context message cause = (.error raised, []) := by
  simp only [failure, h]

theorem explain_of_text_error (h : fault.text = .error raised) : explain fault = .error raised := by
  rw [explain, h, Except.map]

theorem exists_explain_of_text {text : String} (h : fault.text = .ok text) :
    ∃ message, explain fault = .ok message := by
  rw [explain, h]
  exact ⟨_, rfl⟩

theorem testOn_of_explain (h : holds (normalize condition) context = .error fault)
    (hexplain : explain fault = .ok message) :
    testOn condition context = failure (normalize condition) context message (some fault) := by
  simp only [testOn, h, failureOf, hexplain]

theorem testOn_of_explain_error (h : holds (normalize condition) context = .error fault)
    (hexplain : explain fault = .error raised) : testOn condition context = (.error raised, []) := by
  simp only [testOn, h, failureOf, hexplain]

end

theorem condition_of_failureOf {condition : String} {context : Option Context} {cause : Fault}
    {told : Except Fault String} {outcome : Outcome}
    (h : (failureOf condition context cause told).1 = .ok outcome) :
    outcome.condition = condition := by
  unfold failureOf failure at h
  split at h
  · cases h
  · split at h
    · cases h
    · cases h
      rfl

theorem condition_of_test {condition : String} {value : Value} {outcome : Outcome}
    (h : (test condition value).1 = .ok outcome) : outcome.condition = normalize condition := by
  unfold test testOn at h
  dsimp only at h
  split at h
  · split at h
    · exact condition_of_failureOf h
    all_goals cases h; rfl
  · split at h
    · exact condition_of_failureOf h
    · cases h

theorem testRuleOn_disabled {rule : Rule} {context : Option Context} {snapshot : String}
    (h : rule.disabled = true) (hsnapshot : Context.snapshot context = .ok snapshot) :
    (testRuleOn rule context).1 = .ok (.failed (normalize rule.condition) snapshot
      (disabledMessage (normalize rule.condition)) none) := by
  simp [testRuleOn, h, failure, hsnapshot]

end Condition

end FeatureToggles
