import FeatureToggles.Service
import Mathlib.Tactic.Common

/-!
# What becomes of an answer

A resource answers with a reply or with an error, and the client need not receive it.  A failure of the
service's own is reported in the place of a reply.  Then the reply has to be written; if it cannot be, or if
there was no report to be made, the request is lost: something else is sent to the client, which is an
internal error unless this has no text either.

Main statements: `dispatch_of_found` and `reply_handle_of_found`, for requests that lead to a resource.
-/

namespace FeatureToggles

namespace Service

/-- The reply that tells whether a feature is active. -/
def activeReply (name : String) (b : Bool) : Reply :=
  Reply.json 200 (.obj [("feature", .str name), ("enabled", .bool b)])

/-- What a resource answers, where the metrics are those from before. -/
def answer (service : Service) (route : Route) (name : String) (e : Exchange) (m : Metrics) :
    Except Fault Reply :=
  match route with
  | .health => service.health e.fetched
  | .metrics => .ok ⟨200, .text m.exposition⟩
  | .index => .ok service.index
  | .features => e.fetched.outcome.map listReply
  | .feature => e.fetched.outcome.bind (showFeature · name)
  | .evaluate =>
    match Body.contextOf e.request.mediaType e.request.body with
    | .error refused => refused.reply
    | .ok context => (Engine.evaluateOn e.fetched name context).1.map (activeReply name)

/-- The reply that is written for an answer, or the error with which the request is lost. -/
def settle : Except Fault Reply → Except Fault Reply
  | .ok r => r.written
  | .error f =>
    match f.failure.report? with
    | some report => (Reply.ofReport none report).written
    | none => .error f

/-- What is sent for a request that is lost with an error. -/
def fallback (fault : Fault) : Reply :=
  match fault.text with
  | .ok _ => Reply.internalError
  | .error _ => Reply.serverError

/-- What the client receives for an answer. -/
def sent (answer : Except Fault Reply) : Reply :=
  match settle answer with
  | .ok r => r
  | .error fault => fallback fault

variable {service : Service} {route : Route} {name : String} {e : Exchange} {m : Metrics}
  {fault : Fault} {r : Reply} {report : Failure.Report}

/-! ## Answers and what is sent -/

lemma settle_ok_of_isWritable (h : r.isWritable = true) : settle (.ok r) = .ok r :=
  Reply.written_of_isWritable h

lemma sent_ok_of_isWritable (h : r.isWritable = true) : sent (.ok r) = r := by
  rw [sent, settle_ok_of_isWritable h]

/-- What keeps a reply from being written has a text. -/
lemma fallback_of_written_error (h : r.written = .error fault) : fallback fault = Reply.internalError := by
  unfold Reply.written at h
  split at h
  · rename_i flaw hflaw
    obtain rfl := Except.error.inj h
    unfold Body.flaw? at hflaw
    split at hflaw
    · split_ifs at hflaw
      · obtain ⟨text, -, rfl⟩ := Option.map_eq_some_iff.mp hflaw
        rfl
      · obtain rfl := Option.some.inj hflaw
        rfl
    · cases hflaw
  · cases h

lemma sent_ok (r : Reply) : sent (.ok r) = if r.isWritable then r else Reply.internalError := by
  split_ifs with hwritable
  · exact sent_ok_of_isWritable hwritable
  · cases hwritten : r.written with
    | ok r' => exact absurd (Reply.eq_of_written hwritten).2 hwritable
    | error fault =>
        rw [sent, settle, hwritten]
        exact fallback_of_written_error hwritten

/-- A failure of the service's own is answered by its report. -/
lemma sent_error_of_report (h : fault.failure.report? = some report) :
    sent (.error fault) = sent (.ok (Reply.ofReport none report)) := by
  simp only [sent, settle, h]

lemma sent_error_of_report_none (h : fault.failure.report? = none) :
    sent (.error fault) = fallback fault := by
  simp only [sent, settle, h]

/-! ## Requests that lead to a resource -/

lemma evaluate_fst (fetched : Fetched) (name : String) (c : Value) (duration : Binary64)
    (m : Metrics) : (evaluate fetched name c duration m).1 =
      (Engine.evaluateOn fetched name c).1.map (activeReply name) := by
  unfold evaluate
  cases (Engine.evaluateOn fetched name c).1 with
  | ok b => rfl
  | error fault => cases hfailure : fault.failure <;> simp only [hfailure] <;> rfl

lemma serve_fst (service : Service) (route : Route) (name : String) (e : Exchange) (m : Metrics) :
    (service.serve route name e m).1 = service.answer route name e m := by
  cases route with
  | health =>
      simp only [serve, serveHealth, answer]
      split <;> rfl
  | metrics | index | features | feature => rfl
  | evaluate =>
      simp only [serve, answer]
      cases Body.contextOf e.request.mediaType e.request.body with
      | error refused => rfl
      | ok c => exact evaluate_fst e.fetched name c e.evaluationTime m

lemma complete_fst (route : Route) (answer : Except Fault Reply) (m : Metrics) :
    (complete route (answer, m)).1 =
      (settle answer).map fun reply => ⟨reply, route.template, none⟩ := by
  cases answer with
  | ok r => rfl
  | error fault =>
      simp only [complete, settle]
      cases fault.failure.report? <;> rfl

/-- A request is left to the service if it leads to a resource. -/
lemma answer?_eq_none_of_found {r : Request}
    (h : Route.lookup service.routes r.method r.path = .found route name) :
    service.framework.answer? r = none := by
  have hroutes : ∀ route ∈ service.routes, route ∈ Route.all := by
    unfold routes
    split <;> simp [Route.all]
  unfold Route.lookup at h
  split at h
  · rename_i found parameters hfound
    obtain ⟨route', hroute', hmatch⟩ := List.exists_of_findSome?_eq_some hfound
    split_ifs at hmatch with hmethod
    · obtain ⟨parameters', hparameters, -⟩ := Option.map_eq_some_iff.mp hmatch
      refine service.framework.leaves r ?_ ?_
      · rw [← hmethod]
        cases route' <;> decide
      · exact List.any_eq_true.mpr ⟨route', hroutes route' hroute', by simp [hparameters]⟩
  · split at h
    · cases h
    · split_ifs at h

/-- A request that leads to a resource ends as the answer of the resource is settled. -/
theorem dispatch_of_found
    (h : Route.lookup service.routes e.request.method e.request.path = .found route name)
    (m : Metrics) : (service.dispatch e m).1 =
      (settle (service.answer route name e m)).map fun reply => ⟨reply, route.template, none⟩ := by
  rw [dispatch, answer?_eq_none_of_found h, h, ← serve_fst]
  exact complete_fst route _ _

lemma lose_fst (fault : Fault) (m : Metrics) : (lose fault m).1 = ⟨fallback fault, none, none⟩ := by
  unfold lose fallback
  cases fault.text <;> rfl

lemma reply_handle (service : Service) (e : Exchange) (m : Metrics) :
    (service.handle e m).1.reply =
      match (service.dispatch e m).1 with
      | .ok completed => completed.reply
      | .error fault => fallback fault := by
  unfold handle
  rcases service.dispatch e m with ⟨fault | completed, m'⟩
  · exact congrArg Response.reply (lose_fst fault m')
  · rfl

/-- The client receives what is sent for the answer. -/
theorem reply_handle_of_found
    (h : Route.lookup service.routes e.request.method e.request.path = .found route name)
    (m : Metrics) : (service.handle e m).1.reply = sent (service.answer route name e m) := by
  rw [reply_handle, dispatch_of_found h, sent]
  cases settle (service.answer route name e m) <;> rfl

end Service

end FeatureToggles
