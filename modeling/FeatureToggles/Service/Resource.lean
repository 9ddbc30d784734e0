import FeatureToggles.Catalog.Listing
import FeatureToggles.Engine
import FeatureToggles.Metrics.Exposition
import FeatureToggles.Service.Body
import FeatureToggles.Service.Request
import FeatureToggles.Service.Route

/-!
# The resources of a service

What a service answers at each of its resources.  The toggle service lists the features of its catalog,
shows one, and evaluates one on a context; every service reports its health and its metrics.  A request
asks the source of the catalog at most once, so what the source gives is an argument here.  What the
framework answers without the service is a part of the service that is given.

Main statements: no resource counts requests (`requests_serve`), and a feature is shown exactly if the
catalog has it (`showFeature_ok_iff`).
-/

namespace FeatureToggles

/-- What the framework of a service answers on its own: questions about requests from other origins, and
its description of the service.  It leaves the resources of the service to the service. -/
structure Framework where
  /-- The reply, and where it sends the client, if it does. -/
  answer? : Request → Option (Reply × Option (List Char))
  leaves : ∀ request, request.method ≠ "OPTIONS" → Route.isMatched Route.all request.path = true →
    answer? request = none

/-- The framework that answers nothing on its own. -/
def Framework.silent : Framework := ⟨fun _ => none, fun _ _ _ => rfl⟩

/-- What a service does. -/
inductive Service.Kind where
  /-- Nothing but to report its health, of which the check fails with an error, if it fails. -/
  | bare (failure : Option Fault)
  /-- To serve a catalog from a source, given by its description. -/
  | toggles (source : String)

/-- A service. -/
structure Service where
  name : String
  kind : Service.Kind
  framework : Framework

/-- A request, and what the service meets while it answers: what the source of the catalog gives, how
long the evaluation and the request take, and an identifier that no request has yet. -/
structure Exchange where
  request : Request
  fetched : Fetched
  evaluationTime : Binary64
  requestTime : Binary64
  freshIdentifier : String

namespace Service

/-- The name of the toggle service. -/
def togglesName : String := "features"

/-- The toggle service over a source of catalogs. -/
def toggles (source : String) (framework : Framework) : Service :=
  ⟨togglesName, .toggles source, framework⟩

/-- The resources of a service, in the order in which they are looked up. -/
def routes (service : Service) : List Route :=
  match service.kind with
  | .bare _ => [.health, .metrics]
  | .toggles _ => Route.all

/-- The label of features that the catalog does not have. -/
def unknownLabel : String := "<unknown>"

/-- What came of a request to a resource, and the metrics after it. -/
abbrev Served := Except Fault Reply × Metrics

/-- The reply to a check of health that went well. -/
def healthy (service : Service) (dependencies : Json.Fields) : Reply :=
  Reply.json 200 (.obj [("service", .str service.name), ("status", .str "ok"),
    ("dependencies", .obj dependencies), ("version", .str Metrics.version),
    ("commit", .str "unknown")])

/-- The reply to a check of health that failed with an error of some text. -/
def unhealthy (service : Service) (text : String) : Reply :=
  Reply.json 503 (.obj [("service", .str service.name), ("status", .str "error"),
    ("error", .str text)])

/-- What a check of health finds out about the things that a service depends on.  A catalog that cannot be
fetched is told, and is no failure, unless its error has no text to be logged. -/
def dependencies (service : Service) (fetched : Fetched) : Except Fault Json.Fields :=
  match service.kind with
  | .bare (some failure) => .error failure
  | .bare none => .ok []
  | .toggles _ =>
    match fetched.outcome with
    | .ok _ => .ok [("catalog", .str "ok")]
    | .error fault => fault.text.map fun _ => [("catalog", .str "error")]

/-- The reply to a check of health.  An error of the check is told by its text. -/
def health (service : Service) (fetched : Fetched) : Except Fault Reply :=
  match service.dependencies fetched with
  | .ok dependencies => .ok (service.healthy dependencies)
  | .error fault => fault.text.map service.unhealthy

/-- Checks the health of a service, and counts how it went. -/
def serveHealth (service : Service) (fetched : Fetched) (m : Metrics) : Served :=
  let reply := service.health fetched
  match service.dependencies fetched, reply with
  | .ok _, _ => (reply, m.recordHealthCheck "ok")
  | .error _, .ok _ => (reply, m.recordHealthCheck "error")
  | .error _, .error _ => (reply, m)

/-- The reply that introduces the toggle service. -/
def index (service : Service) : Reply :=
  let source := match service.kind with
    | .bare _ => ""
    | .toggles source => source
  Reply.json 200 (.obj [("service", .str service.name), ("message", .str "Feature Toggle Service"),
    ("version", .str Metrics.version), ("catalog", .str source),
    ("capabilities", .arr [.str "evaluation", .str "dependencies", .str "rules"])])

/-- The reply that lists the features of a catalog. -/
def listReply (catalog : Catalog) : Reply :=
  Reply.json 200 (.obj [("features", .arr catalog.listing), ("total", .int catalog.length)])

/-- The fault of a feature that is asked for and not in the catalog. -/
def notFound (name : String) : Fault :=
  .of (.service Reason.notFound.code ("Feature '" ++ name ++ "' not found")
    [("feature", .str name)] Reason.notFound.status)

/-- Shows a feature of a catalog. -/
def showFeature (catalog : Catalog) (name : String) : Except Fault Reply :=
  match catalog.find? name with
  | some feature => .ok (Reply.json 200 feature.toJson)
  | none => .error (notFound name)

/-- The word for an outcome. -/
def outcomeWord (outcome : Bool) : String := if outcome then "true" else "false"

/-- The label under which a failed evaluation is counted: names that the catalog does not have share
one. -/
def failureLabel (name : String) (reason : Reason) : String :=
  if reason = .notFound then unknownLabel else name

/-- Evaluates a feature on a context, and counts the outcome. -/
def evaluate (fetched : Fetched) (name : String) (context : Value) (duration : Binary64)
    (m : Metrics) : Served :=
  match (Engine.evaluateOn fetched name context).1 with
  | .ok outcome =>
    (.ok (Reply.json 200 (.obj [("feature", .str name), ("enabled", .bool outcome)])),
      m.recordEvaluation name (outcomeWord outcome) duration)
  | .error fault =>
    match fault.failure with
    | .feature f =>
      (.error fault, m.recordEvaluation (failureLabel name f.reason) f.reason.word duration)
    | _ => (.error fault, m)

/-- Answers a request to a resource. -/
def serve (service : Service) (route : Route) (name : String) (e : Exchange) (m : Metrics) : Served :=
  match route with
  | .health => service.serveHealth e.fetched m
  | .metrics => (.ok ⟨200, .text m.exposition⟩, m)
  | .index => (.ok service.index, m)
  | .features => (e.fetched.outcome.map listReply, m)
  | .feature => (e.fetched.outcome.bind (showFeature · name), m)
  | .evaluate =>
    match Body.contextOf e.request.mediaType e.request.body with
    | .error refused => (refused.reply, m)
    | .ok context => evaluate e.fetched name context e.evaluationTime m

theorem showFeature_ok_iff (catalog : Catalog) (name : String) :
    (∃ reply, showFeature catalog name = .ok reply) ↔ (catalog.find? name).isSome = true := by
  unfold showFeature
  split <;> simp_all

theorem requests_evaluate (fetched : Fetched) (name : String) (context : Value)
    (duration : Binary64) (m : Metrics) :
    (evaluate fetched name context duration m).2.requests = m.requests := by
  unfold evaluate
  repeat' split
  all_goals rfl

theorem requests_serveHealth (service : Service) (fetched : Fetched) (m : Metrics) :
    (service.serveHealth fetched m).2.requests = m.requests := by
  unfold serveHealth
  dsimp only
  split <;> rfl

theorem requests_serve (service : Service) (route : Route) (name : String) (e : Exchange)
    (m : Metrics) : (service.serve route name e m).2.requests = m.requests := by
  cases route with
  | health => exact requests_serveHealth service e.fetched m
  | metrics => rfl
  | index => rfl
  | features => rfl
  | feature => rfl
  | evaluate =>
    simp only [serve]
    split
    · rfl
    · exact requests_evaluate _ _ _ _ _

end Service

end FeatureToggles
