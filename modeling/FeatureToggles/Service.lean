import FeatureToggles.Service.Resource

/-!
# The service

A service answers requests and counts what it does.  A request ends in one of two ways.  Either it is
completed, and counted under its method, its resource and the status of the reply, which is marked with
the identifier of the request; or it ends with an error that the service does not expect, and is neither
counted nor marked.  Such an error counts as an internal error, unless it has no text to be logged: then
the server answers in the place of the service.

Errors are of the second sort if they are no failures of the service's own, and so are those of replies
that cannot be written, reports on failures among them.

Main statements: a request that is completed adds one to the requests
(`total_requests_handle`), and the reply to it carries the identifier that the client gave
(`identifier_handle`).
-/

namespace FeatureToggles

/-- What the client receives. -/
structure Response where
  reply : Reply
  /-- The identifier of the request, which a failure that nobody expected does not carry. -/
  identifier : Option String
  /-- Where the client is sent, if it is. -/
  location : Option (List Char)

namespace Service

/-- The label of requests whose path leads to no resource of the service. -/
def unmatchedLabel : String := "<unmatched>"

/-- A request that was completed: the reply, the label of its resource, and where the client is
sent. -/
structure Completed where
  reply : Reply
  endpoint : String
  location : Option (List Char)

/-- Completes a request that ended at a resource with a reply, which has to be written. -/
def finish (route : Route) (reply : Reply) : Except Fault Completed :=
  reply.written.map fun reply => ⟨reply, route.template, none⟩

/-- Completes a request that ended at a resource.  A failure of the service's own is reported and counted;
any other error does not complete the request. -/
def complete (route : Route) : Served → Except Fault Completed × Metrics
  | (.ok r, m) => (finish route r, m)
  | (.error f, m) =>
    match f.failure.report? with
    | some report => (finish route (Reply.ofReport none report), m.recordError report.code none)
    | none => (.error f, m)

/-- Answers a request, as far as it can be completed. -/
def dispatch (service : Service) (e : Exchange) (m : Metrics) : Except Fault Completed × Metrics :=
  match service.framework.answer? e.request with
  | some (reply, location) => (.ok ⟨reply, unmatchedLabel, location⟩, m)
  | none =>
    match Route.lookup service.routes e.request.method e.request.path with
    | .found route name => complete route (service.serve route name e m)
    | .wrongMethod route => (.ok ⟨Reply.detail 405 "Method Not Allowed", route.template, none⟩, m)
    | .elsewhere path => (.ok ⟨⟨307, .empty⟩, unmatchedLabel, some path⟩, m)
    | .nowhere => (.ok ⟨Reply.detail 404 "Not Found", unmatchedLabel, none⟩, m)

/-- The response to a request that ended with an error that nobody expected, which is counted if it can be
logged. -/
def lose (fault : Fault) (m : Metrics) : Response × Metrics :=
  match fault.text with
  | .ok _ => (⟨Reply.internalError, none, none⟩, m.recordError "INTERNAL_ERROR" none)
  | .error _ => (⟨Reply.serverError, none, none⟩, m)

/-- Handles a request: answers it, counts it, and marks the reply with its identifier. -/
def handle (service : Service) (e : Exchange) (m : Metrics) : Response × Metrics :=
  match service.dispatch e m with
  | (.ok c, m) =>
    (⟨c.reply, some (Log.requestId e.request.identifier e.freshIdentifier), c.location⟩,
      m.recordRequest e.request.method c.endpoint (toString c.reply.status) e.requestTime)
  | (.error fault, m) => lose fault m

/-- Handles requests one after the other. -/
def run (service : Service) (m : Metrics) : List Exchange → List Response × Metrics
  | [] => ([], m)
  | e :: es =>
    let (response, m) := service.handle e m
    let (responses, m) := run service m es
    (response :: responses, m)

theorem requests_complete (route : Route) (served : Served) :
    (complete route served).2.requests = served.2.requests := by
  unfold complete
  repeat' split
  all_goals rfl

theorem requests_dispatch (service : Service) (e : Exchange) (m : Metrics) :
    (service.dispatch e m).2.requests = m.requests := by
  unfold dispatch
  repeat' split
  · rfl
  · rw [requests_complete, requests_serve]
  all_goals rfl

theorem total_requests_handle {service : Service} {e : Exchange} {m m' : Metrics} {c : Completed}
    (h : service.dispatch e m = (.ok c, m')) :
    (service.handle e m).2.requests.total = m.requests.total + 1 := by
  have hm := requests_dispatch service e m
  rw [h] at hm
  simp only at hm
  rw [handle, h]
  simp [Metrics.recordRequest, Metrics.Family.total_increment, hm]

theorem identifier_handle {service : Service} {e : Exchange} {m m' : Metrics} {c : Completed}
    {id : String} (h : service.dispatch e m = (.ok c, m')) (hid : e.request.identifier = some id)
    (hne : id.isEmpty = false) : (service.handle e m).1.identifier = some id := by
  rw [handle, h]
  simp [Log.requestId, hid, hne]

end Service

end FeatureToggles
