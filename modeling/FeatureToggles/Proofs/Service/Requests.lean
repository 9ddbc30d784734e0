import FeatureToggles.Proofs.Catalog.Refusal
import FeatureToggles.Proofs.Service.Answers
import FeatureToggles.Proofs.Service.Writing

/-!
# How requests are counted and marked

A request that is completed adds one to a single series of requests: that of its method, of the resource
that it leads to, and of the status that the client receives; and its response carries the identifier
that the client gave.  A request that breaks, since what is wrong is no failure of the service's own or since
the reply cannot be written, does neither: the client receives something else, which is not marked, and no
request is counted.

Main statements: `isSome_lossOf?_iff` says which answers are lost, `handle_of_not_breaks` and
`handle_of_breaksWith` what one request does, and `requests_run` what all requests do; the counts and the
marks are complete exactly if no request breaks.
-/

namespace FeatureToggles

namespace Metrics.Family

/-- Counting once adds one to the series that is counted in, and to no other. -/
lemma count_increment (labels labels' : Labels) (family : Family Nat) :
    count (increment labels family) labels' =
      count family labels' + if labels' = labels then 1 else 0 := by
  unfold increment
  induction family with
  | nil =>
      by_cases h : labels' = labels
      · simp [update, count, h]
      · simp [update, count, h, Ne.symm h]
  | cons series rest ih =>
      by_cases hseries : series.1 = labels
      · by_cases h : labels' = labels
        · simp [update, count, hseries, h]
        · simp [update, count, hseries, h, Ne.symm h]
      · rw [update, if_neg hseries]
        by_cases h : series.1 = labels'
        · have hne : labels' ≠ labels := h ▸ hseries
          simp [count, h, hne]
        · simpa [count, h] using ih

end Metrics.Family

namespace Service

/-! ## Requests that break -/

/-- The label of the resource that a request leads to. -/
def endpointOf (service : Service) (r : Request) : String :=
  match service.framework.answer? r with
  | some _ => unmatchedLabel
  | none =>
    match Route.lookup service.routes r.method r.path with
    | .found route _ | .wrongMethod route => route.template
    | .elsewhere _ | .nowhere => unmatchedLabel

/-- The error with which an answer is lost, if it is: it is an error without a report, or it is a reply or an
error with a report that cannot be written. -/
def lossOf? (answer : Except Fault Reply) : Option Fault :=
  match settle answer with
  | .ok _ => none
  | .error fault => some fault

/-- The error with which a request breaks, if it does.  It breaks at its resource, with the answer of this
resource: to the check of health, to the request for a description, for a list of the features or for one of
them, or to a request for an evaluation, where it may be the body that is refused. -/
def breaksWith? (service : Service) (e : Exchange) : Option Fault :=
  match Route.lookup service.routes e.request.method e.request.path with
  | .found .health _ => lossOf? (service.health e.fetched)
  | .found .index _ => lossOf? (.ok service.index)
  | .found .features _ => lossOf? (e.fetched.outcome.map listReply)
  | .found .feature name => lossOf? (e.fetched.outcome.bind (showFeature · name))
  | .found .evaluate name =>
    match Body.contextOf e.request.mediaType e.request.body with
    | .error refused => lossOf? refused.reply
    | .ok c => lossOf? ((Engine.evaluateOn e.fetched name c).1.map (activeReply name))
  | _ => none

variable {service : Service} {e : Exchange} {m : Metrics} {fault : Fault}

/-- The metrics can always be written, and of the other answers they are no part. -/
lemma breaksWith?_of_found {route : Route} {name : String}
    (h : Route.lookup service.routes e.request.method e.request.path = .found route name)
    (m : Metrics) : service.breaksWith? e = lossOf? (service.answer route name e m) := by
  rw [breaksWith?, h]
  cases route with
  | health | metrics | index | features | feature => rfl
  | evaluate =>
      simp only [answer]
      cases Body.contextOf e.request.mediaType e.request.body <;> rfl

lemma lossOf?_eq_some_iff {answer : Except Fault Reply} :
    lossOf? answer = some fault ↔ settle answer = .error fault := by
  unfold lossOf?
  cases settle answer <;> simp

/-- An answer is lost if it is a reply that cannot be written, or an error that has no report, or has one that
cannot be written. -/
theorem isSome_lossOf?_iff (answer : Except Fault Reply) : (lossOf? answer).isSome = true ↔
    match answer with
    | .ok r => r.isWritable = false
    | .error f => ∀ report, f.failure.report? = some report →
        ¬ (Text.IsWhole report.code ∧ Text.IsWhole report.message ∧
          (Json.obj report.details).IsSendable) := by
  have hwritten : ∀ r : Reply, (lossOf? (.ok r)).isSome = true ↔ r.isWritable = false := by
    intro r
    rw [lossOf?, settle, Reply.written, Reply.isWritable]
    cases r.body.flaw? <;> simp
  cases answer with
  | ok r => exact hwritten r
  | error f =>
      cases hreport : f.failure.report? with
      | none => simp [lossOf?, settle, hreport]
      | some report =>
          have hsettle : settle (.error f) = settle (.ok (Reply.ofReport none report)) := by
            simp only [settle, hreport]
          rw [lossOf?, hsettle, ← lossOf?, hwritten, ← Bool.not_eq_true,
            Reply.isWritable_ofReport_iff]
          simp [hreport]

lemma sent_ok_of_lossOf?_none {r : Reply} (h : lossOf? (.ok r) = none) : sent (.ok r) = r := by
  have hlost := isSome_lossOf?_iff (.ok r)
  rw [h] at hlost
  exact sent_ok_of_isWritable (by simpa using hlost)

lemma exists_report_of_lossOf?_none (h : lossOf? (.error fault) = none) :
    ∃ report, fault.failure.report? = some report ∧
      sent (.error fault) = Reply.ofReport none report := by
  cases hreport : fault.failure.report? with
  | none => simp [lossOf?, settle, hreport] at h
  | some report =>
      have hlost := isSome_lossOf?_iff (.error fault)
      rw [h] at hlost
      have hwritable : (Reply.ofReport none report).isWritable = true := by
        rw [Reply.isWritable_ofReport_iff]
        simpa [hreport] using hlost
      exact ⟨report, rfl, by rw [sent_error_of_report hreport, sent_ok_of_isWritable hwritable]⟩

/-- The requests that break are those that are not completed. -/
lemma dispatch_eq_error_iff :
    (service.dispatch e m).1 = .error fault ↔ service.breaksWith? e = some fault := by
  cases hlookup : Route.lookup service.routes e.request.method e.request.path with
  | found route name =>
      rw [dispatch_of_found hlookup, breaksWith?_of_found hlookup m, lossOf?_eq_some_iff]
      cases settle (service.answer route name e m) <;> simp [Except.map]
  | wrongMethod | elsewhere | nowhere =>
      refine iff_of_false ?_ (by simp [breaksWith?, hlookup])
      unfold dispatch
      split <;> simp [hlookup]

/-- A request is counted under the resource that it leads to. -/
lemma endpoint_dispatch {c : Completed} (h : (service.dispatch e m).1 = .ok c) :
    c.endpoint = service.endpointOf e.request := by
  cases hlookup : Route.lookup service.routes e.request.method e.request.path with
  | found route name =>
      rw [endpointOf, answer?_eq_none_of_found hlookup, hlookup]
      rw [dispatch_of_found hlookup] at h
      cases hsettle : settle (service.answer route name e m) with
      | ok r =>
          rw [hsettle] at h
          obtain rfl := Except.ok.inj h
          rfl
      | error fault => simp [hsettle, Except.map] at h
  | wrongMethod | elsewhere | nowhere =>
      unfold dispatch at h
      unfold endpointOf
      split at h <;> simp_all <;> rw [← h]

/-! ## One request -/

/-- The series of requests in which one is counted whose response has a status. -/
def seriesOf (service : Service) (e : Exchange) (response : Response) : Metrics.Labels :=
  [("method", e.request.method), ("endpoint", service.endpointOf e.request),
    ("status_code", toString response.reply.status)]

/-- Whether the response to a request carries the identifier that the client gave, unless this is
empty. -/
def IsMarked (e : Exchange) (response : Response) : Prop :=
  ∀ id, e.request.identifier = some id → id.isEmpty = false → response.identifier = some id

/-- A request that breaks is answered with something else without a mark, and no request is counted. -/
theorem handle_of_breaksWith (h : service.breaksWith? e = some fault) (m : Metrics) :
    (service.handle e m).1 = ⟨fallback fault, none, none⟩ ∧
      (service.handle e m).2.requests = m.requests := by
  have hdispatch := dispatch_eq_error_iff (m := m).mpr h
  have hrequests := requests_dispatch service e m
  unfold handle
  rcases hpair : service.dispatch e m with ⟨c, m'⟩
  rw [hpair] at hdispatch hrequests
  obtain rfl : c = .error fault := hdispatch
  refine ⟨lose_fst fault m', ?_⟩
  rw [← hrequests]
  simp only [lose]
  cases fault.text <;> rfl

/-- Any other request is counted once, in the series of its response, which is marked. -/
theorem handle_of_not_breaks (h : service.breaksWith? e = none) (m : Metrics) :
    (service.handle e m).2.requests =
        m.requests.increment (service.seriesOf e (service.handle e m).1) ∧
      IsMarked e (service.handle e m).1 := by
  cases hc : (service.dispatch e m).1 with
  | error fault =>
      have hbreaks := dispatch_eq_error_iff.mp hc
      simp [h] at hbreaks
  | ok c =>
      have hendpoint := endpoint_dispatch hc
      have hrequests := requests_dispatch service e m
      have hdispatch : service.dispatch e m = (.ok c, (service.dispatch e m).2) := Prod.ext hc rfl
      refine ⟨?_, fun id hid hne => identifier_handle hdispatch hid hne⟩
      rw [handle, hdispatch]
      simp only [Metrics.recordRequest, hrequests, seriesOf, hendpoint]

/-! ## All requests -/

/-- Whether a request does not break, and its response has it counted in a series. -/
def isCounted (service : Service) (labels : Metrics.Labels) (p : Exchange × Response) : Bool :=
  (service.breaksWith? p.1).isNone && labels == service.seriesOf p.1 p.2

/-- One request adds one to the series in which it is counted. -/
lemma count_requests_handle (service : Service) (e : Exchange) (m : Metrics)
    (labels : Metrics.Labels) :
    (service.handle e m).2.requests.count labels = m.requests.count labels +
      if service.isCounted labels (e, (service.handle e m).1) then 1 else 0 := by
  cases hbreaks : service.breaksWith? e with
  | some fault =>
      rw [(handle_of_breaksWith hbreaks m).2]
      simp [isCounted, hbreaks]
  | none =>
      rw [(handle_of_not_breaks hbreaks m).1, Metrics.Family.count_increment]
      simp [isCounted, hbreaks]

lemma length_run (service : Service) (m : Metrics) (es : List Exchange) :
    (service.run m es).1.length = es.length := by
  induction es generalizing m with
  | nil => rfl
  | cons e es ih => rw [run, List.length_cons, ih, List.length_cons]

/-- What grows by one with some of the requests grows by their number. -/
lemma run_of_handle {service : Service} {f : Metrics → Nat} {p : Exchange × Response → Bool}
    (h : ∀ e m, f (service.handle e m).2 = f m + if p (e, (service.handle e m).1) then 1 else 0)
    (m : Metrics) (es : List Exchange) :
    f (service.run m es).2 = f m + (es.zip (service.run m es).1).countP p := by
  induction es generalizing m with
  | nil => rfl
  | cons e es ih =>
      rw [run, ih, h, List.zip_cons_cons, List.countP_cons]
      omega

/-- A series has as many requests more as were counted in it. -/
lemma count_requests_run (service : Service) (m : Metrics) (es : List Exchange)
    (labels : Metrics.Labels) :
    (service.run m es).2.requests.count labels = m.requests.count labels +
      (es.zip (service.run m es).1).countP (service.isCounted labels) :=
  @run_of_handle service (·.requests.count labels) _
    (fun e m => count_requests_handle service e m labels) m es

/-- Whether a response is marked, or is what is sent for a request that breaks. -/
def IsDue (service : Service) (e : Exchange) (response : Response) : Prop :=
  match service.breaksWith? e with
  | some fault => response = ⟨fallback fault, none, none⟩
  | none => IsMarked e response

lemma isDue_handle (service : Service) (e : Exchange) (m : Metrics) :
    service.IsDue e (service.handle e m).1 := by
  unfold IsDue
  split
  · exact (handle_of_breaksWith ‹_› m).1
  · exact (handle_of_not_breaks ‹_› m).2

/-- Each response of a run is that of handling its request, whatever was counted before. -/
lemma response_run {service : Service} {m : Metrics} {es : List Exchange} {p : Exchange × Response}
    (hp : p ∈ es.zip (service.run m es).1) : ∃ m', p.2 = (service.handle p.1 m').1 := by
  induction es generalizing m with
  | nil => simp at hp
  | cons e es ih =>
      rw [run, List.zip_cons_cons] at hp
      rcases List.mem_cons.mp hp with rfl | hp
      · exact ⟨m, rfl⟩
      · exact ih hp

lemma responses_run (service : Service) (m : Metrics) (es : List Exchange) :
    ∀ p ∈ es.zip (service.run m es).1, service.IsDue p.1 p.2 := by
  intro p hp
  obtain ⟨m', hresponse⟩ := response_run hp
  exact hresponse ▸ isDue_handle service p.1 m'

/-- Every request has a response. -/
lemma exists_response (service : Service) (m : Metrics) {es : List Exchange} (he : e ∈ es) :
    ∃ response, (e, response) ∈ es.zip (service.run m es).1 := by
  have hfst := List.map_fst_zip (Nat.le_of_eq (length_run service m es).symm)
  rw [← hfst] at he
  obtain ⟨⟨e', response⟩, hmem, rfl⟩ := List.mem_map.mp he
  exact ⟨response, hmem⟩

/-- No request is left out of the counts exactly if none breaks. -/
lemma counts_complete_iff (service : Service) (m : Metrics) (es : List Exchange) :
    (∀ labels, (service.run m es).2.requests.count labels = m.requests.count labels +
        (es.zip (service.run m es).1).countP fun p => labels == service.seriesOf p.1 p.2) ↔
      ∀ e ∈ es, service.breaksWith? e = none := by
  simp only [count_requests_run, Nat.add_left_cancel_iff]
  constructor
  · intro h e he
    obtain ⟨response, hmem⟩ := exists_response service m he
    have hcount := h (service.seriesOf e response)
    rw [List.countP_eq_length_filter, List.countP_eq_length_filter] at hcount
    have hsublist := List.monotone_filter_right (es.zip (service.run m es).1)
      (p := service.isCounted (service.seriesOf e response))
      (q := fun p => service.seriesOf e response == service.seriesOf p.1 p.2)
      fun p hp => by simp_all [isCounted]
    -- the request is among those that lead to its series, so it has to be counted there
    have hfilter := hsublist.eq_of_length hcount
    have hled : (e, response) ∈ (es.zip (service.run m es).1).filter
        fun p => service.seriesOf e response == service.seriesOf p.1 p.2 := by
      simp [hmem]
    rw [← hfilter, List.mem_filter, isCounted] at hled
    simpa using (Bool.and_eq_true_iff.mp hled.2).1
  · intro h labels
    refine List.countP_congr fun p hp => ?_
    have hbreaks := h p.1 (List.of_mem_zip hp).1
    simp [isCounted, hbreaks]

/-- Each request that does not break is counted once, in the series of its response, which is marked; one
that breaks is not counted, and it is answered with something else that is not marked: with an internal error,
or by the server where the error has no text.  So all requests are counted and all responses are marked exactly
if no request breaks. -/
theorem requests_run (service : Service) (m : Metrics) (es : List Exchange) :
    (service.run m es).1.length = es.length ∧
    (∀ labels, (service.run m es).2.requests.count labels = m.requests.count labels +
      (es.zip (service.run m es).1).countP (service.isCounted labels)) ∧
    (∀ p ∈ es.zip (service.run m es).1, service.IsDue p.1 p.2) ∧
    (((∀ labels, (service.run m es).2.requests.count labels = m.requests.count labels +
        (es.zip (service.run m es).1).countP fun p => labels == service.seriesOf p.1 p.2) ∧
      ∀ p ∈ es.zip (service.run m es).1, IsMarked p.1 p.2) ↔
        ∀ e ∈ es, service.breaksWith? e = none) := by
  refine ⟨length_run service m es, count_requests_run service m es, responses_run service m es,
    fun h => (counts_complete_iff service m es).mp h.1, fun h => ?_⟩
  refine ⟨(counts_complete_iff service m es).mpr h, fun p hp => ?_⟩
  have hdue := responses_run service m es p hp
  rwa [IsDue, h p.1 (List.of_mem_zip hp).1] at hdue

/-- A request for the features while the file holds no text. -/
def brokenExchange : Exchange where
  request := ⟨"GET", "/features".toList, [("x-request-id", "abc")], []⟩
  fetched := (CatalogFile.ofPath "features.json" "utf-8").fetch (.content [0xFF])
  evaluationTime := .zero false
  requestTime := .zero false
  freshIdentifier := "1"

lemma breaksWith?_brokenExchange :
    ∃ fault, (toggles "" .silent).breaksWith? brokenExchange = some fault := by
  have hlookup : Route.lookup (toggles "" .silent).routes brokenExchange.request.method
      brokenExchange.request.path = .found .features "" := by decide
  have hdecode : (CatalogFile.ofPath "features.json" "utf-8").decode [0xFF] =
      .error (.other .decoding
        "'utf-8' codec can't decode byte 0xff in position 0: invalid start byte") := by
    refine (CatalogFile.decode_usual [0xFF]).trans ?_
    cbv
  have hfetched : brokenExchange.fetched.outcome = .error _ :=
    CatalogFile.outcome_fetch_of_decode_error hdecode
  rw [breaksWith?, hlookup]
  simp only [hfetched]
  exact ⟨_, rfl⟩

/-- Such a request is answered, but it is not counted, and its response is not marked. -/
theorem requests_run_broken :
    ∃ response, ((toggles "" .silent).run (.fresh togglesName) [brokenExchange]).1 = [response] ∧
      response.reply.status = 500 ∧ ¬ IsMarked brokenExchange response ∧
      ((toggles "" .silent).run (.fresh togglesName) [brokenExchange]).2.requests.count
        ((toggles "" .silent).seriesOf brokenExchange response) = 0 := by
  obtain ⟨fault, hbreaks⟩ := breaksWith?_brokenExchange
  obtain ⟨hresponse, hrequests⟩ := handle_of_breaksWith hbreaks (.fresh togglesName)
  refine ⟨⟨fallback fault, none, none⟩, ?_, ?_, fun hmarked => ?_, ?_⟩
  · simp only [run, hresponse]
  · -- whatever is sent for a request that breaks, it has this status
    dsimp only [fallback]
    cases fault.text <;> rfl
  · have hidentifier := hmarked "abc" rfl (by decide)
    cases hidentifier
  · simp only [run, hrequests]
    rfl

end Service

end FeatureToggles
