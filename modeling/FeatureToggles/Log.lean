import FeatureToggles.Fault
import FeatureToggles.Json.Value
import FeatureToggles.Text.Quoted

/-!
# Log events

What the service logs while it decides, and the stages through which an event passes before it is
written: each adds what it knows about the service, the request or the trace.

Main statement: a stage for the service leaves a service that is already named (`setDefault_isSome`).
-/

namespace FeatureToggles

/-- An event of the log. -/
inductive Event where
  | conditionFailed (condition error context : String)
  | ruleMatched (feature : String) (index : Nat) (condition : String) (enabled : Bool)
  | featureEvaluated (feature : String) (enabled : Bool)
  | evaluationFailed (feature : String) (reason : Reason) (error : String)
  | unexpectedError (feature error : String)
  | treatedAsInactive (feature : String) (reason : Reason) (error : String)
  | catalogUnreadable (path error : String)
  | catalogLoaded (path : String) (features : Nat)
deriving DecidableEq

namespace Event

/-- The title of an event. -/
def title : Event → String
  | .conditionFailed .. => "Condition evaluation failed"
  | .ruleMatched .. => "Rule matched"
  | .featureEvaluated .. => "Feature evaluated"
  | .evaluationFailed .. => "Feature evaluation failed"
  | .unexpectedError .. => "Unexpected feature evaluation error"
  | .treatedAsInactive .. => "Feature treated as inactive"
  | .catalogUnreadable .. => "Failed to read feature catalog"
  | .catalogLoaded .. => "Feature catalog loaded"

/-- The level of an event. -/
def level : Event → String
  | .conditionFailed .. => "debug"
  | .ruleMatched .. => "debug"
  | .featureEvaluated .. => "debug"
  | .evaluationFailed .. => "info"
  | .unexpectedError .. => "error"
  | .treatedAsInactive .. => "warning"
  | .catalogUnreadable .. => "error"
  | .catalogLoaded .. => "debug"

/-- The logger of an event. -/
def logger : Event → String
  | .conditionFailed .. => "features.conditions"
  | .catalogUnreadable .. => "features.catalog.json"
  | .catalogLoaded .. => "features.catalog.json"
  | _ => "features.engine"

/-- The fields of an event's own. -/
def ownFields : Event → Json.Fields
  | .conditionFailed condition error context =>
    [("condition", .str condition), ("error", .str error), ("context", .str context)]
  | .ruleMatched feature index condition enabled =>
    [("feature", .str feature), ("rule_index", .int index), ("condition", .str condition),
      ("enabled", .bool enabled)]
  | .featureEvaluated feature enabled => [("feature", .str feature), ("enabled", .bool enabled)]
  | .evaluationFailed feature reason error =>
    [("feature", .str feature), ("reason", .str reason.word), ("error", .str error)]
  | .unexpectedError feature error => [("feature", .str feature), ("error", .str error)]
  | .treatedAsInactive feature reason error =>
    [("feature", .str feature), ("reason", .str reason.word), ("error", .str error)]
  | .catalogUnreadable path error => [("path", .str path), ("error", .str error)]
  | .catalogLoaded path features => [("path", .str path), ("features", .int features)]

/-- The fields of an event. -/
def fields (e : Event) : Json.Fields :=
  e.ownFields ++ [("event", .str e.title), ("level", .str e.level), ("logger", .str e.logger)]

end Event

/-! ## Stages -/

namespace Log

/-- Sets a field unless it is there. -/
def setDefault (fields : Json.Fields) (key : String) (v : Json) : Json.Fields :=
  if (fields.get? key).isSome then fields else fields ++ [(key, v)]

theorem setDefault_isSome {fields : Json.Fields} {key : String} (v : Json)
    (h : (fields.get? key).isSome = true) : setDefault fields key v = fields := by
  simp [setDefault, h]

/-- The part of a logger's name after its first dot, if there is one. -/
def component? (logger : String) : Option String :=
  match logger.toList.dropWhile (· != '.') with
  | '.' :: rest => some (String.ofList rest)
  | _ => none

/-- The name of the type of a JSON value. -/
def typeName (j : Json) : String := j.toValue.typeName

/-- Whether a JSON value is a given text. -/
def isText (s : String) : Json → Bool
  | .str t => t == s
  | _ => false

/-- Names the service, and the component that the logger's name tells.  A logger's name that is not
a text is an error: it cannot be searched, or else not be split. -/
def stampService (service : String) (fields : Json.Fields) : Except Fault Json.Fields :=
  let fields := setDefault fields "service" (.str service)
  let unsplittable (j : Json) : Fault :=
    .other .noAttribute ("'" ++ typeName j ++ "' object has no attribute 'split'")
  match (fields.get? "logger").getD (.str "") with
  | .str logger =>
    match component? logger with
    | some component => .ok (setDefault fields "component" (.str component))
    | none => .ok fields
  | .arr items =>
    if items.any (isText ".") then .error (unsplittable (.arr items)) else .ok fields
  | .obj entries =>
    if (Json.Fields.get? entries ".").isSome then .error (unsplittable (.obj entries))
    else .ok fields
  | j => .error (.other .type ("argument of type '" ++ typeName j ++ "' is not iterable"))

/-- The identifiers of a trace and of a span in it; zero is no identifier. -/
structure Span where
  trace : Nat
  span : Nat
deriving DecidableEq

/-- Whether both identifiers are there and have no more bits than they may have: 128 for that of a trace
and 64 for that of a span. -/
def Span.isValid (s : Span) : Bool :=
  0 < s.trace && s.trace < Nat.pow 2 128 && 0 < s.span && s.span < Nat.pow 2 64

/-- A trace's identifier as text. -/
def traceText (trace : Nat) : String := Text.hex 32 trace

/-- Names the trace and the span, if their identifiers are valid. -/
def stampTrace (span : Option Span) (fields : Json.Fields) : Json.Fields :=
  match span with
  | some s =>
    if s.isValid then
      (fields.set "trace_id" (.str (traceText s.trace))).set "span_id" (.str (Text.hex 16 s.span))
    else fields
  | none => fields

/-- Names the request, if it has an identifier that is not empty. -/
def stampRequest (request : Option String) (fields : Json.Fields) : Json.Fields :=
  match request with
  | some id => if id.isEmpty then fields else fields.set "request_id" (.str id)
  | none => fields

/-- The identifier under which a request is known: its own unless that is empty or absent, else a
fresh one. -/
def requestId (own : Option String) (fresh : String) : String :=
  match own with
  | some id => if id.isEmpty then fresh else id
  | none => fresh

/-- An event as the log of a service shows it. -/
def shown (service : String) (e : Event) : Except Fault Json.Fields := stampService service e.fields

end Log

end FeatureToggles
