import FeatureToggles.Condition

/-!
# The decision about a feature

A feature is decided on one catalog, fetched for the purpose: it has to be found, its prerequisites
have to be met, its flag has to be set; then the first rule that is not simply false decides, if
there are rules and a context, and the flag does otherwise.  A rule that fails ends the decision.

An evaluation that fails does so with a failure of the feature.  Of other errors such a failure is made,
and for that they are asked for their texts; one that has no text makes another error of the evaluation.

The catalog comes from a source that is asked in any monad, so that what an evaluation asks for can
be told from its result.

Main statements: a decision that needs no rules logs one event (`conclude_ok`), an error without a text is
left over (`conclude_mute`), and a feature whose evaluation fails reads as inactive
(`isEnabledOn_of_feature`).
-/

namespace FeatureToggles

/-- What a source of catalogs gives when it is asked, with what it logs meanwhile. -/
structure Fetched where
  outcome : Except Fault Catalog
  events : List Event

namespace Engine

open Condition (Logged Outcome)

/-- What is told about an error that ended the evaluation of a feature. -/
def failureMessage (feature words : String) : String :=
  "Error during feature evaluation for '" ++ feature ++ "': " ++ words

/-- What is told about a rule that failed. -/
def ruleWords (index : Nat) (condition message : String) : String :=
  "rule " ++ toString index ++ " (" ++ condition ++ "): " ++ message

/-- The outcome of the first rule that matches, if any; the number of the first rule is `index`. -/
def scan (feature : String) (context : Option Context) (index : Nat) :
    List Rule → Logged (Except Fault (Option Bool))
  | [] => (.ok none, [])
  | rule :: rules =>
    match Condition.testRuleOn rule context with
    | (.error raised, events) => (.error raised, events)
    | (.ok (.matched condition), events) =>
      (.ok (some rule.enabled), events ++ [.ruleMatched feature index condition rule.enabled])
    | (.ok (.notMatched _), events) =>
      let (answer, more) := scan feature context (index + 1) rules
      (answer, events ++ more)
    | (.ok (.failed condition snapshot message cause), events) =>
      (.error (.featureCausedBy none feature
        (failureMessage feature (ruleWords index condition message)) .evaluationFailed
        (.condition condition snapshot message cause)), events)

/-- A feature that cannot be evaluated, for a reason of its own. -/
def refusal (feature message : String) (reason : Reason) (missing : List String) : Fault :=
  .of (.feature ⟨feature, message, reason, missing, none⟩)

/-- What becomes of an error that is handled by making it a failure of the feature: this failure, or the
error that comes of asking for a text.  The words stand in front of the text of the error. -/
def wrap (feature words : String) (fault : Fault) : Fault :=
  match fault.text with
  | .error raised => raised
  | .ok text =>
    .featureCausedBy (some fault) feature (failureMessage feature (words ++ text)) .evaluationFailed
      fault

/-- Ends an evaluation: logs the outcome, or why there is none.  A failure of the feature is passed on,
and any other error is made one, if it has a text. -/
def conclude (feature : String) : Logged (Except Fault Bool) → Logged (Except Fault Bool)
  | (.ok outcome, events) => (.ok outcome, events ++ [.featureEvaluated feature outcome])
  | (.error fault, events) =>
    match fault.failure with
    | .feature f => (.error fault, events ++ [.evaluationFailed feature f.reason f.message])
    | _ =>
      match fault.text with
      | .error raised => (.error raised, events)
      | .ok text => (.error (wrap feature "" fault), events ++ [.unexpectedError feature text])

/-- The decision about a feature that was found, has its prerequisites, and has its flag set. -/
def decideActive (feature : Feature) (value : Value) : Logged (Except Fault Bool) :=
  if feature.rules.isEmpty then (.ok feature.enabled, [])
  else match value with
    | .null => (.ok feature.enabled, [])
    | value =>
      match Context.ofValue value with
      | .error fault => (.error fault, [])
      | .ok context =>
        match scan feature.name context 0 feature.rules with
        | (.error fault, events) => (.error fault, events)
        | (.ok (some outcome), events) => (.ok outcome, events)
        | (.ok none, events) => (.ok feature.enabled, events)

/-- The decision about a name on a catalog. -/
def decide (catalog : Catalog) (name : String) (value : Value) : Logged (Except Fault Bool) :=
  match catalog.find? name with
  | none => (.error (refusal name ("Feature '" ++ name ++ "' not found") .notFound []), [])
  | some feature =>
    let missing := catalog.missing feature.dependsOn
    if !missing.isEmpty then
      (.error (refusal name
        ("Dependencies for feature '" ++ name ++ "' are not satisfied. Missing dependencies: " ++
          ", ".intercalate missing) .dependenciesUnsatisfied missing), [])
    else if !feature.enabled then
      (.error (refusal name ("Feature '" ++ name ++ "' is disabled") .disabled []), [])
    else decideActive feature value

/-- What is told before the text of an error that ended a fetch. -/
def fetchWords : String := "cannot fetch feature catalog: "

/-- The evaluation of a name on what a source of catalogs gave. -/
def evaluateOn (fetched : Fetched) (name : String) (value : Value) :
    Logged (Except Fault Bool) :=
  let (answer, events) := conclude name <| match fetched.outcome with
    | .error fault => (.error (wrap name fetchWords fault), [])
    | .ok catalog => decide catalog name value
  (answer.mapError Fault.traced, fetched.events ++ events)

/-- Whether a feature is active, where a failure of the feature reads as inactive.  Any other fault
goes through to the caller. -/
def isEnabledOn (fetched : Fetched) (name : String) (value : Value) : Logged (Except Fault Bool) :=
  match evaluateOn fetched name value with
  | (.ok outcome, events) => (.ok outcome, events)
  | (.error fault, events) =>
    match fault.failure with
    | .feature f => (.ok false, events ++ [.treatedAsInactive name f.reason f.message])
    | _ => (.error fault, events)

/-! ## Asking a source -/

/-- Evaluates a name on a catalog that is fetched for it. -/
def evaluate {m : Type → Type} [Monad m] (fetch : m Fetched) (name : String) (value : Value) :
    m (Logged (Except Fault Bool)) := do
  return evaluateOn (← fetch) name value

/-- Tells whether a feature is active on a catalog that is fetched for it. -/
def isEnabled {m : Type → Type} [Monad m] (fetch : m Fetched) (name : String) (value : Value) :
    m (Logged (Except Fault Bool)) := do
  return isEnabledOn (← fetch) name value

/-- The prerequisites among some names that are not met: on a given catalog, or else on one that is
fetched, unless there are no names. -/
def missingDependencies {m : Type → Type} [Monad m] (fetch : m Fetched) (names : List String)
    (catalog : Option Catalog) : m (Logged (Except Fault (List String))) := do
  if names.isEmpty then return (.ok [], [])
  match catalog with
  | some catalog => return (.ok (catalog.missing names), [])
  | none =>
    let fetched ← fetch
    return (fetched.outcome.map (·.missing names), fetched.events)

/-! ## Lemmas -/

theorem conclude_ok (feature : String) (outcome : Bool) (events : List Event) :
    conclude feature (.ok outcome, events) =
      (.ok outcome, events ++ [.featureEvaluated feature outcome]) := rfl

theorem conclude_mute {fault : Fault} {kind : ErrorClass} {raised : Failure}
    (h : fault.failure = .mute kind raised) (feature : String) (events : List Event) :
    conclude feature (.error fault, events) = (.error (.raise (some fault) raised), events) := by
  simp only [conclude, Fault.text, h, Failure.text]
  rfl

theorem isEnabledOn_of_feature {fetched : Fetched} {name : String} {value : Value} {fault : Fault}
    {f : FeatureFailure} (h : (evaluateOn fetched name value).1 = .error fault)
    (hf : fault.failure = .feature f) : (isEnabledOn fetched name value).1 = .ok false := by
  rcases hresult : evaluateOn fetched name value with ⟨answer, events⟩
  obtain rfl : answer = .error fault := by simpa [hresult] using h
  simp only [isEnabledOn, hresult, hf]

end Engine

end FeatureToggles
