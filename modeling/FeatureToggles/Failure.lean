import FeatureToggles.ErrorClass
import FeatureToggles.Validation

/-!
# Failures

What can fail, each with its text and with what the service reports about it: a code, a status and
details.  Only the service's own failures are reported; others reach the client as an internal error.
An error of a caller need not have a text: it may be mute, and then it is an error to ask for its text.

Main statements: the words of the reasons are told apart by their reading (`ofWord?_word`), a
failure of a feature is reported under the code of its reason (`report?_feature`), a report tells the text
of its failure (`text_of_report`), and a failure has a label exactly if it has a text (`label_isOk`).
-/

namespace FeatureToggles

/-- Why a feature could not be evaluated. -/
inductive Reason where
  | notFound
  | dependenciesUnsatisfied
  | disabled
  | evaluationFailed
deriving DecidableEq

namespace Reason

/-- The word for a reason. -/
def word : Reason → String
  | .notFound => "not_found"
  | .dependenciesUnsatisfied => "dependencies_unsatisfied"
  | .disabled => "disabled"
  | .evaluationFailed => "evaluation_failed"

/-- The name of a reason, as codes spell it. -/
def name : Reason → String
  | .notFound => "NOT_FOUND"
  | .dependenciesUnsatisfied => "DEPENDENCIES_UNSATISFIED"
  | .disabled => "DISABLED"
  | .evaluationFailed => "EVALUATION_FAILED"

/-- The code of a reason. -/
def code (reason : Reason) : String := "FEATURE_" ++ reason.name

/-- The status with which the service answers. -/
def status : Reason → Nat
  | .notFound => 404
  | _ => 422

/-- All reasons. -/
def all : List Reason := [.notFound, .dependenciesUnsatisfied, .disabled, .evaluationFailed]

/-- The reason that a word names. -/
def ofWord? (word : String) : Option Reason := all.find? fun reason => reason.word == word

theorem ofWord?_word (reason : Reason) : ofWord? reason.word = some reason := by
  cases reason <;> decide +kernel

end Reason

/-- A feature that could not be evaluated.  `causes` lists the errors that the failure came from as
they were when it arose; it is absent if there were none. -/
structure FeatureFailure where
  feature : String
  message : String
  reason : Reason
  missing : List String
  causes : Option (List String)

/-- What failed, without the errors that it came from. -/
inductive Failure where
  /-- A failure of the service with its own code and status. -/
  | service (code message : String) (details : Json.Fields) (status : Nat)
  /-- A catalog that could not be read. -/
  | catalog (message : String) (source : Option String) (details : Json.Fields)
  /-- A feature that could not be evaluated. -/
  | feature (f : FeatureFailure)
  /-- A condition that failed on a context, given by its snapshot. -/
  | condition (condition snapshot message : String)
  /-- A text that is not an expression. -/
  | malformed (message : String) (position : Option Int)
  /-- An expression that has no value. -/
  | undefined (message : String) (position : Option Int)
  /-- Data that did not pass a check; `title` names what was expected. -/
  | invalid (title : String) (issues : List Issue)
  /-- Any other error. -/
  | other (kind : ErrorClass) (text : String)
  /-- An error without a text: who asks for the text is met by another error. -/
  | mute (kind : ErrorClass) (raised : Failure)

namespace Failure

/-- The status of a failure of the service that names none. -/
def defaultStatus : Nat := 400

/-- What is told about a catalog when nothing else is known. -/
def defaultCatalogMessage : String := "Feature catalog unavailable"

/-- The name of the class of a failure. -/
def className : Failure → String
  | .service .. => "FeatureToggleException"
  | .catalog .. => "CatalogError"
  | .feature _ => "FeatureEvaluationError"
  | .condition .. => "ConditionEvaluationError"
  | .malformed .. => "ExpressionSyntaxError"
  | .undefined .. => "ExpressionEvaluationError"
  | .invalid .. => "ValidationError"
  | .other kind _ => kind.name
  | .mute kind _ => kind.name

/-- Whether a failure is a type error. -/
def isTypeError : Failure → Bool
  | .other kind _ => kind.isType
  | .mute kind _ => kind.isType
  | _ => false

/-- The first line of the report on data that did not pass a check. -/
def invalidText (title : String) (count : Nat) : String :=
  toString count ++ (if count = 1 then " validation error for " else " validation errors for ") ++
    title

/-- The text of a failure, or the error that comes of asking for it. -/
def text : Failure → Except Failure String
  | .service _ message _ _ => .ok message
  | .catalog message _ _ => .ok message
  | .feature f => .ok f.message
  | .condition _ _ message => .ok message
  | .malformed message _ => .ok message
  | .undefined message _ => .ok message
  | .invalid title issues => .ok (invalidText title issues.length)
  | .other _ text => .ok text
  | .mute _ raised => .error raised

/-- The text of a failure, or the name of its class where the text is empty. -/
def label (f : Failure) : Except Failure String :=
  f.text.map fun text => if text.isEmpty then f.className else text

theorem label_isOk (f : Failure) : f.label.isOk = f.text.isOk := by
  unfold label
  cases f.text <;> rfl

/-- The code, the text, the status and the details of a failure of the service. -/
structure Report where
  code : String
  message : String
  status : Nat
  details : Json.Fields

/-- A list of texts as JSON. -/
def texts (ss : List String) : Json := .arr (ss.map .str)

/-- What the service reports about a failure, if it is one of its own. -/
def report? : Failure → Option Report
  | .service code message details status => some ⟨code, message, status, details⟩
  | .catalog message source details =>
    let details := match source with
      | some s => if (details.get? "source").isSome then details else details ++ [("source", .str s)]
      | none => details
    some ⟨"CATALOG_ERROR", message, 503, details⟩
  | .feature f =>
    some ⟨f.reason.code, f.message, f.reason.status,
      [("feature", .str f.feature), ("reason", .str f.reason.word)] ++
        (if f.missing.isEmpty then [] else [("missing_dependencies", texts f.missing)]) ++
        (match f.causes with
          | some causes => [("causes", texts causes)]
          | none => [])⟩
  | .condition source snapshot message =>
    some ⟨"CONDITION_EVALUATION_ERROR", message, 422,
      [("condition", .str source), ("context", .str snapshot)]⟩
  | _ => none

theorem text_of_report {f : Failure} {report : Report} (h : f.report? = some report) :
    f.text = .ok report.message := by
  cases f <;> simp_all [report?, text]
  all_goals subst h; rfl

theorem report?_feature (f : FeatureFailure) :
    (Failure.feature f).report?.map (·.code) = some f.reason.code := rfl

end Failure

end FeatureToggles
