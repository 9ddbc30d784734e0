import FeatureToggles.Proofs.Service.Labels
import FeatureToggles.Proofs.Service.Requests

/-!
# The tally of evaluations

What is counted of evaluations is what clients were told, as far as they were told anything.  A request that
leads to the evaluation of a feature, with a body that gives a context, is counted once: under the truth value
that its response tells, or under the reason for which there is none.  No other request is counted, and no
other response tells a truth value or a reason of a feature.

A request is counted before its reply is written.  So one that breaks then is counted under an outcome of which
its response tells nothing.  And an evaluation is not counted at all if it was left with another error than the
failure of a feature, since the error of the fetch has not all texts.

Main statements: `tally_handle_of_countedAs` and `hasOutcome_handle` say how one request is counted and what its response
tells, and `tally_run` what all requests come to; `tally_run_half` is about a request that breaks.
-/

namespace FeatureToggles

/-! ## Series -/

namespace Metrics

/-- Counting once adds one to the sum of those series among which it is counted. -/
lemma Family.total_filter_increment (p : Labels → Bool) (labels : Labels) (family : Family Nat) :
    total ((increment labels family).filter fun series => p series.1) =
      total (family.filter fun series => p series.1) + if p labels then 1 else 0 := by
  unfold increment
  induction family with
  | nil => cases hp : p labels <;> simp [update, total, hp]
  | cons series rest ih =>
      by_cases h : series.1 = labels
      · subst h
        cases hp : p series.1 <;> simp [update, total, hp]
        omega
      · simp only [total] at ih ⊢
        cases hp : p series.1 <;> simp [update, h, hp, ih]
        omega

/-- The sum of the series of evaluations with an outcome. -/
def evaluationsWith (m : Metrics) (outcome : String) : Nat :=
  Family.total (m.evaluations.filter fun series => series.1.lookup "outcome" == some outcome)

lemma evaluationsWith_recordEvaluation (m : Metrics) (feature outcome outcome' : String)
    (duration : Binary64) :
    (m.recordEvaluation feature outcome duration).evaluationsWith outcome' =
      m.evaluationsWith outcome' + if outcome = outcome' then 1 else 0 := by
  have hlookup : ([("feature", feature), ("outcome", outcome)] : Labels).lookup "outcome" =
      some outcome := rfl
  have htotal := Family.total_filter_increment (fun labels => labels.lookup "outcome" == some outcome')
    [("feature", feature), ("outcome", outcome)] m.evaluations
  simpa [hlookup, evaluationsWith, recordEvaluation] using htotal

lemma evaluationsWith_congr {m m' : Metrics} (h : m.tally = m'.tally) (outcome : String) :
    m.evaluationsWith outcome = m'.evaluationsWith outcome := by
  rw [evaluationsWith, (Prod.mk.inj h).1, evaluationsWith]

lemma length_hit (x : Binary64) (bounds : List Binary64) (hits : List Nat) :
    (hit x bounds hits).length = hits.length := by
  fun_induction hit x bounds hits <;> simp_all

end Metrics

/-! ## What a response tells -/

namespace Response

/-- The truth value that a response tells. -/
def enabled? (response : Response) : Option Bool :=
  match response.reply.body with
  | .json j =>
    match j.field? "enabled" with
    | some (.bool b) => if response.reply.status = 200 then some b else none
    | _ => none
  | _ => none

/-- The reason that the details in a response name. -/
def reason? (response : Response) : Option String :=
  match response.reply.body with
  | .json j =>
    match (j.field? "details").bind (·.field? "reason") with
    | some (.str word) => some word
    | _ => none
  | _ => none

/-- Whether a response tells an outcome: a truth value, or the reason for which there is none. -/
inductive HasOutcome (response : Response) : String → Prop where
  | active {b : Bool} : response.enabled? = some b → response.reason? = none →
      HasOutcome response (Service.outcomeWord b)
  | failed {reason : Reason} : response.enabled? = none → response.reason? = some reason.word →
      HasOutcome response reason.word

/-- Whether a response tells neither a truth value nor a reason. -/
structure HasNone (response : Response) : Prop where
  enabled : response.enabled? = none
  reason : response.reason? = none

lemma outcomeWord_ne_word (b : Bool) (reason : Reason) : Service.outcomeWord b ≠ reason.word := by
  cases b <;> cases reason <;> decide

lemma outcomeWord_injective : Function.Injective Service.outcomeWord := by
  intro b b'
  cases b <;> cases b' <;> decide

variable {response : Response} {outcome : String}

/-- The outcome is a truth value exactly if this is told. -/
lemma HasOutcome.eq_outcomeWord_iff (h : response.HasOutcome outcome) (b : Bool) :
    outcome = Service.outcomeWord b ↔ response.enabled? = some b := by
  cases h with
  | active henabled => rw [henabled, outcomeWord_injective.eq_iff, Option.some.injEq]
  | failed henabled => simp [henabled, (outcomeWord_ne_word b _).symm]

/-- The outcome is a reason exactly if this is told. -/
lemma HasOutcome.eq_word_iff (h : response.HasOutcome outcome) (reason : Reason) :
    outcome = reason.word ↔ response.reason? = some reason.word := by
  cases h with
  | active _ hreason => simp [hreason, outcomeWord_ne_word]
  | failed _ hreason => rw [hreason, Option.some.injEq]

lemma hasOutcome_of_active {name : String} {b : Bool}
    (h : response.reply = Service.activeReply name b) :
    response.HasOutcome (Service.outcomeWord b) := by
  refine .active ?_ ?_
  · rw [enabled?, h]
    rfl
  · rw [reason?, h]
    rfl

/-- The report on the failure of a feature tells its reason. -/
lemma hasOutcome_of_feature {f : FeatureFailure} {report : Failure.Report}
    (hreport : (Failure.feature f).report? = some report)
    (h : response.reply = Reply.ofReport none report) : response.HasOutcome f.reason.word := by
  obtain rfl := Option.some.inj hreport
  refine .failed ?_ ?_
  · rw [enabled?, h]
    rfl
  · rw [reason?, h]
    rfl

lemma hasNone_of_fallback {fault : Fault} (h : response.reply = Service.fallback fault) :
    response.HasNone := by
  unfold Service.fallback at h
  split at h
  · exact ⟨by rw [enabled?, h]; rfl, by rw [reason?, h]; rfl⟩
  · exact ⟨by rw [enabled?, h]; rfl, by rw [reason?, h]; rfl⟩

lemma hasNone_of_detail {status : Nat} {j : Json}
    (h : response.reply = Service.sent (.ok (Reply.json status (.obj [("detail", j)])))) :
    response.HasNone := by
  rw [Service.sent_ok] at h
  split_ifs at h
  · exact ⟨by rw [enabled?, h]; rfl, by rw [reason?, h]; rfl⟩
  · exact ⟨by rw [enabled?, h]; rfl, by rw [reason?, h]; rfl⟩

/-- A refusal tells what is wrong with the body, and nothing else. -/
lemma hasNone_of_refused {refused : BodyError} (h : response.reply = Service.sent refused.reply) :
    response.HasNone := by
  cases refused with
  | issue found input => exact hasNone_of_detail h
  | foreign bs =>
      rw [BodyError.reply] at h
      split at h
      · exact hasNone_of_detail h
      · rename_i e _
        have hreport : (Fault.ofDecodeError e).failure.report? = none := by cases e <;> rfl
        exact hasNone_of_fallback (h.trans (Service.sent_error_of_report_none hreport))
  | unreadable => exact hasNone_of_detail h

end Response

/-! ## One request -/

namespace Service

/-- Whether a request leads to the evaluation of a feature, whatever its body. -/
def isEvaluation (service : Service) (r : Request) : Bool :=
  match Route.lookup service.routes r.method r.path with
  | .found .evaluate _ => true
  | _ => false

/-- The outcome under which a request is counted, if it is: that of the evaluation to which it leads. -/
def countedAs? (service : Service) (e : Exchange) : Option String :=
  match Route.lookup service.routes e.request.method e.request.path,
    Body.contextOf e.request.mediaType e.request.body with
  | .found .evaluate name, .ok c => outcomeOf? (Engine.evaluateOn e.fetched name c).1
  | _, _ => none

variable {service : Service} {e : Exchange} {outcome : String}

lemma isEvaluation_iff {r : Request} : service.isEvaluation r = true ↔
    ∃ name, Route.lookup service.routes r.method r.path = .found .evaluate name := by
  unfold isEvaluation
  split <;> simp_all

lemma countedAs?_of_leads {name : String} {c : Value} (h : service.Leads e.request name c) :
    service.countedAs? e = outcomeOf? (Engine.evaluateOn e.fetched name c).1 := by
  rw [countedAs?, h.lookup, h.context]

lemma countedAs?_of_not_evaluated (h : service.evaluated? e.request = none) :
    service.countedAs? e = none := by
  unfold countedAs?
  split
  · rename_i name c hlookup hcontext
    have hname := evaluated?_eq_some_iff.mpr ⟨c, hlookup, hcontext⟩
    simp [h] at hname
  · rfl

/-- A request that is counted leads to an evaluation with this outcome. -/
lemma exists_leads_of_countedAs (h : service.countedAs? e = some outcome) :
    ∃ name c, service.Leads e.request name c ∧
      outcomeOf? (Engine.evaluateOn e.fetched name c).1 = some outcome := by
  unfold countedAs? at h
  split at h
  · rename_i name c hlookup hcontext
    exact ⟨name, c, ⟨hlookup, hcontext⟩, h⟩
  · cases h

/-- If the errors of fetches can be told, an evaluation has an outcome. -/
lemma isSome_countedAs? (htexts : ∀ cause, e.fetched.outcome = .error cause → cause.HasTexts) :
    (service.countedAs? e).isSome = (service.evaluated? e.request).isSome := by
  cases hname : service.evaluated? e.request with
  | none => rw [countedAs?_of_not_evaluated hname]
  | some name =>
      obtain ⟨c, hleads⟩ := evaluated?_eq_some_iff.mp hname
      rw [countedAs?_of_leads hleads]
      cases hresult : (Engine.evaluateOn e.fetched name c).1 with
      | ok b => rfl
      | error fault =>
          have hgives := Body.contextOf_eq_ok_iff.mp hleads.context
          obtain ⟨f, _, hdescribes⟩ :=
            Engine.isCoherent_of_told htexts hgives.isTellable_of_raises hresult
          simp only [outcomeOf?, hdescribes.failure, Option.isSome_some]

/-- A request is counted once, under its outcome. -/
theorem tally_handle_of_countedAs (h : service.countedAs? e = some outcome) (m : Metrics) :
    ∃ label, (service.handle e m).2.tally =
      (m.recordEvaluation label outcome e.evaluationTime).tally := by
  obtain ⟨name, c, hleads, houtcome⟩ := exists_leads_of_countedAs h
  obtain ⟨label, -, htally⟩ := hleads.tally_handle_of_outcome houtcome m
  exact ⟨label, htally⟩

/-- A request without an outcome is not counted. -/
theorem tally_handle_of_not_counted (h : service.countedAs? e = none) (m : Metrics) :
    (service.handle e m).2.tally = m.tally := by
  cases hname : service.evaluated? e.request with
  | none => exact tally_handle_of_not_evaluated hname m
  | some name =>
      obtain ⟨c, hleads⟩ := evaluated?_eq_some_iff.mp hname
      rw [countedAs?_of_leads hleads] at h
      exact (hleads.tally_handle_of_outcome_none h m).2

/-- The response to a request that is counted tells the outcome, unless the request breaks; then it tells
nothing. -/
theorem hasOutcome_handle (h : service.countedAs? e = some outcome) (m : Metrics) :
    if (service.breaksWith? e).isNone then (service.handle e m).1.HasOutcome outcome
    else (service.handle e m).1.HasNone := by
  obtain ⟨name, c, hleads, houtcome⟩ := exists_leads_of_countedAs h
  cases hbreaks : service.breaksWith? e with
  | some fault =>
      have hresponse := (handle_of_breaksWith hbreaks m).1
      exact Response.hasNone_of_fallback (congrArg Response.reply hresponse)
  | none =>
      have hreply := hleads.reply_eq m
      rw [breaksWith?_of_found hleads.lookup m] at hbreaks
      simp only [answer, hleads.context] at hbreaks
      cases hresult : (Engine.evaluateOn e.fetched name c).1 with
      | ok b =>
          rw [hresult] at hbreaks hreply houtcome
          obtain rfl : outcomeWord b = outcome := Option.some.inj houtcome
          exact Response.hasOutcome_of_active (hreply.trans (sent_ok_of_lossOf?_none hbreaks))
      | error fault =>
          rw [hresult] at hbreaks hreply houtcome
          obtain ⟨report, hreport, hsent⟩ := exists_report_of_lossOf?_none hbreaks
          cases hfailure : fault.failure <;> simp only [outcomeOf?, hfailure] at houtcome
          case feature f =>
            obtain rfl := Option.some.inj houtcome
            exact Response.hasOutcome_of_feature (hfailure ▸ hreport) (hreply.trans hsent)
          all_goals cases houtcome

/-- The response to an evaluation of which the body is refused tells no outcome. -/
lemma hasNone_handle (h : service.evaluated? e.request = none)
    (hevaluation : service.isEvaluation e.request = true) (m : Metrics) :
    (service.handle e m).1.HasNone := by
  obtain ⟨name, hlookup⟩ := isEvaluation_iff.mp hevaluation
  have hreply := reply_handle_of_found hlookup m
  cases hbody : Body.contextOf e.request.mediaType e.request.body with
  | ok c =>
      have hname := evaluated?_eq_some_iff.mpr ⟨c, hlookup, hbody⟩
      simp [h] at hname
  | error refused =>
      simp only [answer, hbody] at hreply
      exact Response.hasNone_of_refused hreply

/-! ## What is asked of responses -/

/-- Whether a condition on responses holds of just those that tell an outcome, where the others tell
none. -/
structure Reports (P : Response → Bool) (outcome : String) : Prop where
  tells : ∀ response outcome', response.HasOutcome outcome' → (outcome' = outcome ↔ P response = true)
  nothing : ∀ response : Response, response.HasNone → P response = false

lemma reports_active (b : Bool) :
    Reports (fun response => response.enabled? == some b) (outcomeWord b) where
  tells response outcome h := by rw [h.eq_outcomeWord_iff, beq_iff_eq]
  nothing response h := by simp [h.enabled]

lemma reports_reason (reason : Reason) :
    Reports (fun response => response.reason? == some reason.word) reason.word where
  tells response outcome h := by rw [h.eq_word_iff, beq_iff_eq]
  nothing response h := by simp [h.reason]

/-- Whether a request leads to an evaluation, and its response is as it is asked for. -/
def isAnswered (service : Service) (P : Response → Bool) (p : Exchange × Response) : Bool :=
  service.isEvaluation p.1.request && P p.2

/-- Whether a request is counted under an outcome, but breaks. -/
def isLost (service : Service) (outcome : String) (e : Exchange) : Bool :=
  service.countedAs? e == some outcome && (service.breaksWith? e).isSome

/-- A request that is counted under an outcome is answered with it, or is lost. -/
lemma countedAs_handle {P : Response → Bool} (hP : Reports P outcome)
    (htexts : ∀ cause, e.fetched.outcome = .error cause → cause.HasTexts) (m : Metrics) :
    (service.countedAs? e == some outcome).toNat =
      (service.isAnswered P (e, (service.handle e m).1)).toNat +
        (service.isLost outcome e).toNat := by
  cases hcounted : service.countedAs? e with
  | none =>
      have hname : service.evaluated? e.request = none := by
        have hsome : (service.countedAs? e).isSome = _ := isSome_countedAs? htexts
        rw [hcounted] at hsome
        simpa using hsome.symm
      cases hevaluation : service.isEvaluation e.request with
      | false => simp [isAnswered, isLost, hevaluation, hcounted]
      | true =>
          have hnone := hP.nothing _ (hasNone_handle hname hevaluation m)
          simp [isAnswered, isLost, hnone, hcounted]
  | some outcome' =>
      obtain ⟨name, c, hleads, -⟩ := exists_leads_of_countedAs hcounted
      have hevaluation := isEvaluation_iff.mpr ⟨name, hleads.lookup⟩
      have hresponse := hasOutcome_handle hcounted m
      cases hbreaks : service.breaksWith? e with
      | some fault =>
          rw [hbreaks] at hresponse
          have hnone := hP.nothing _ hresponse
          simp [isAnswered, isLost, hnone, hcounted, hbreaks]
      | none =>
          rw [hbreaks] at hresponse
          have htells := hP.tells _ _ hresponse
          by_cases houtcome : outcome' = outcome
          · simp [isAnswered, isLost, hcounted, hbreaks, hevaluation, htells.mp houtcome, houtcome]
          · have hnot : P (service.handle e m).1 = false := by
              simpa using mt htells.mpr houtcome
            simp [isAnswered, isLost, hcounted, hbreaks, hnot, houtcome]

/-! ## Counting -/

lemma evaluationsWith_handle (service : Service) (outcome : String) (e : Exchange) (m : Metrics) :
    (service.handle e m).2.evaluationsWith outcome = m.evaluationsWith outcome +
      if service.countedAs? e == some outcome then 1 else 0 := by
  cases hcounted : service.countedAs? e with
  | none =>
      rw [Metrics.evaluationsWith_congr (tally_handle_of_not_counted hcounted m)]
      rfl
  | some outcome' =>
      obtain ⟨label, htally⟩ := tally_handle_of_countedAs hcounted m
      rw [Metrics.evaluationsWith_congr htally, Metrics.evaluationsWith_recordEvaluation]
      simp

/-- A request adds one to the sum of the series if it has an outcome. -/
lemma total_evaluations_handle (service : Service) (e : Exchange) (m : Metrics) :
    (service.handle e m).2.evaluations.total = m.evaluations.total +
      if (service.countedAs? e).isSome then 1 else 0 := by
  cases hcounted : service.countedAs? e with
  | none => simp [(Prod.mk.inj (tally_handle_of_not_counted hcounted m)).1]
  | some outcome =>
      obtain ⟨label, htally⟩ := tally_handle_of_countedAs hcounted m
      rw [(Prod.mk.inj htally).1]
      simp [Metrics.recordEvaluation, Metrics.Family.total_increment]

/-- A request adds its duration to the durations if it has an outcome. -/
lemma evaluationDurations_handle (service : Service) (e : Exchange) (m : Metrics) :
    (service.handle e m).2.evaluationDurations =
      if (service.countedAs? e).isSome then m.evaluationDurations.observe e.evaluationTime
      else m.evaluationDurations := by
  cases hcounted : service.countedAs? e with
  | none => simp [(Prod.mk.inj (tally_handle_of_not_counted hcounted m)).2]
  | some outcome =>
      obtain ⟨label, htally⟩ := tally_handle_of_countedAs hcounted m
      rw [(Prod.mk.inj htally).2]
      rfl

/-! ## All requests -/

/-- A property of requests alone is counted along with the responses. -/
lemma countP_zip_run (service : Service) (m : Metrics) (es : List Exchange) (q : Exchange → Bool) :
    (es.zip (service.run m es).1).countP (q ·.1) = es.countP q := by
  have hrequests := List.map_fst_zip (Nat.le_of_eq (length_run service m es).symm)
  conv_rhs => rw [← hrequests, List.countP_map]
  rfl

lemma evaluationsWith_run (service : Service) (outcome : String) (m : Metrics) (es : List Exchange) :
    (service.run m es).2.evaluationsWith outcome = m.evaluationsWith outcome +
      es.countP fun e => service.countedAs? e == some outcome := by
  rw [← countP_zip_run service m es]
  exact @run_of_handle service (·.evaluationsWith outcome) _ (evaluationsWith_handle service outcome)
    m es

lemma total_evaluations_run (service : Service) (m : Metrics) (es : List Exchange) :
    (service.run m es).2.evaluations.total = m.evaluations.total +
      es.countP fun e => (service.countedAs? e).isSome := by
  rw [← countP_zip_run service m es]
  exact @run_of_handle service (·.evaluations.total) _ (total_evaluations_handle service) m es

/-- The durations are counted as the evaluations are, since each of them is a number. -/
lemma count_evaluationDurations_run {service : Service} {m : Metrics} {es : List Exchange}
    (hlength : Metrics.bounds.length = m.evaluationDurations.hits.length)
    (htime : ∀ e ∈ es, e.evaluationTime.isNaN = false) :
    (service.run m es).2.evaluationDurations.count = m.evaluationDurations.count +
      es.countP fun e => (service.countedAs? e).isSome := by
  induction es generalizing m with
  | nil => rfl
  | cons e es ih =>
      obtain ⟨he, htime⟩ := List.forall_mem_cons.mp htime
      -- a bucket is hit only as long as there are as many of them as bounds, so this is kept along
      have hdurations := evaluationDurations_handle service e m
      have hlength' : Metrics.bounds.length =
          (service.handle e m).2.evaluationDurations.hits.length := by
        rw [hdurations]
        split_ifs
        · rw [Metrics.Histogram.observe, Metrics.length_hit, hlength]
        · exact hlength
      rw [run, ih hlength' htime, hdurations, List.countP_cons]
      split_ifs
      · rw [Metrics.count_observe he hlength]
        omega
      · rfl

/-- What holds of each member together with one of two things is counted with both of these. -/
lemma countP_eq_add {α : Type} {p q r : α → Bool} {xs : List α}
    (h : ∀ x ∈ xs, (p x).toNat = (q x).toNat + (r x).toNat) :
    xs.countP p = xs.countP q + xs.countP r := by
  induction xs with
  | nil => rfl
  | cons x xs ih =>
      obtain ⟨hx, hxs⟩ := List.forall_mem_cons.mp h
      simp only [List.countP_cons, ih hxs]
      cases hp : p x <;> cases hq : q x <;> cases hr : r x <;> simp_all <;> omega

/-- Responses tell an outcome as often as it is counted, but for the requests that are lost. -/
lemma countedAs_run {P : Response → Bool} {outcome : String} (hP : Reports P outcome)
    {service : Service} {m : Metrics} {es : List Exchange}
    (htexts : ∀ e ∈ es, ∀ cause, e.fetched.outcome = .error cause → cause.HasTexts) :
    (service.run m es).2.evaluationsWith outcome = m.evaluationsWith outcome +
      ((es.zip (service.run m es).1).countP (service.isAnswered P) +
        es.countP (service.isLost outcome)) := by
  rw [evaluationsWith_run, ← countP_zip_run service m es (service.isLost outcome),
    ← countP_zip_run service m es, countP_eq_add]
  intro p hp
  obtain ⟨m', hresponse⟩ := response_run hp
  have hcounted : (service.countedAs? p.1 == some outcome).toNat = _ :=
    countedAs_handle hP (htexts p.1 (List.of_mem_zip hp).1) m'
  rwa [← hresponse] at hcounted

/-- From its start on, whatever its source of catalogs gives, a service counts as evaluations just those
requests that have an outcome: in all its series together, in the durations, which are numbers, and in the series
with this outcome.  No other request changes what is counted.  If the errors of all fetches can be told, then
these are the requests for an evaluation of which the body gives a context.  And then the series with a truth
value as outcome have as many evaluations as clients were told this value, and those with a reason as many as
clients were told this reason, but for the requests of that outcome that break. -/
theorem tally_run (service : Service) (es : List Exchange) :
    (service.run (.fresh service.name) es).2.evaluations.total =
        (es.countP fun e => (service.countedAs? e).isSome) ∧
      ((∀ e ∈ es, e.evaluationTime.isNaN = false) →
        (service.run (.fresh service.name) es).2.evaluationDurations.count =
          es.countP fun e => (service.countedAs? e).isSome) ∧
      (∀ outcome, (service.run (.fresh service.name) es).2.evaluationsWith outcome =
        es.countP fun e => service.countedAs? e == some outcome) ∧
      (∀ e m, service.countedAs? e = none → (service.handle e m).2.tally = m.tally) ∧
      ((∀ e ∈ es, ∀ cause, e.fetched.outcome = .error cause → cause.HasTexts) →
        (∀ e ∈ es, (service.countedAs? e).isSome = (service.evaluated? e.request).isSome) ∧
        (∀ b, (service.run (.fresh service.name) es).2.evaluationsWith (outcomeWord b) =
          (es.zip (service.run (.fresh service.name) es).1).countP
              (service.isAnswered fun response => response.enabled? == some b) +
            es.countP (service.isLost (outcomeWord b))) ∧
        ∀ reason : Reason, (service.run (.fresh service.name) es).2.evaluationsWith reason.word =
          (es.zip (service.run (.fresh service.name) es).1).countP
              (service.isAnswered fun response => response.reason? == some reason.word) +
            es.countP (service.isLost reason.word)) := by
  have hfresh : ∀ outcome, (Metrics.fresh service.name).evaluationsWith outcome = 0 := fun _ => rfl
  refine ⟨?_, fun htime => ?_, fun outcome => ?_, fun e m => (tally_handle_of_not_counted · m),
    fun htexts => ⟨fun e he => isSome_countedAs? (htexts e he), fun b => ?_, fun reason => ?_⟩⟩
  · rw [total_evaluations_run]
    exact Nat.zero_add _
  · rw [count_evaluationDurations_run rfl htime]
    exact Nat.zero_add _
  · rw [evaluationsWith_run, hfresh, Nat.zero_add]
  · rw [countedAs_run (reports_active b) htexts, hfresh, Nat.zero_add]
  · rw [countedAs_run (reports_reason reason) htexts, hfresh, Nat.zero_add]

/-- An evaluation of a feature that is off for adults. -/
def gamesEvaluation : Exchange := gamesExchange "POST" (evaluatePath "games") ageBody

/-- It is counted as one that is false, and its response tells this. -/
theorem tally_run_games :
    (∀ e ∈ [gamesEvaluation], e.evaluationTime.isNaN = false) ∧
      (∀ e ∈ [gamesEvaluation], ∀ cause, e.fetched.outcome = .error cause → cause.HasTexts) ∧
      ((toggles "" .silent).run (.fresh togglesName) [gamesEvaluation]).2.evaluations.total = 1 ∧
      ((toggles "" .silent).run (.fresh togglesName) [gamesEvaluation]).2.evaluationDurations.count =
        1 ∧
      (([gamesEvaluation].zip ((toggles "" .silent).run (.fresh togglesName) [gamesEvaluation]).1).countP
        ((toggles "" .silent).isAnswered fun response => response.enabled? == some false)) +
          [gamesEvaluation].countP ((toggles "" .silent).isLost (outcomeWord false)) = 1 := by
  have hevaluates : Evaluates gamesEvaluation "games" (.map [(.text "age", .number (.int 18))]) :=
    ⟨⟨by decide, by decide, by decide⟩, rfl, rfl, gives_ageBody⟩
  have hoff : (Engine.evaluateOn ⟨.ok gamesCatalog, []⟩ "games"
      (.map [(.text "age", .number (.int 18))])).1 = .ok false := by cbv
  have hcounted : (toggles "" .silent).countedAs? gamesEvaluation = some (outcomeWord false) := by
    rw [countedAs?_of_leads hevaluates.leads]
    exact congrArg outcomeOf? hoff
  have htime : ∀ e ∈ [gamesEvaluation], e.evaluationTime.isNaN = false := by
    simp [gamesEvaluation, gamesExchange, Binary64.zero, Binary64.isNaN]
  have htexts : ∀ e ∈ [gamesEvaluation], ∀ cause, e.fetched.outcome = .error cause → cause.HasTexts := by
    simp [gamesEvaluation, gamesExchange]
  obtain ⟨htotal, hcount, houtcome, -, htold⟩ := tally_run (toggles "" .silent) [gamesEvaluation]
  refine ⟨htime, htexts, htotal.trans ?_, (hcount htime).trans ?_,
    ((htold htexts).2.1 false).symm.trans ((houtcome _).trans ?_)⟩
  all_goals rw [List.countP_singleton, hcounted]; rfl

/-- A request may be counted under a reason that its response does not tell. -/
theorem tally_run_half :
    ((toggles "" .silent).run (.fresh togglesName) [halfExchange]).2.evaluationsWith
        Reason.dependenciesUnsatisfied.word = 1 ∧
      ([halfExchange].zip ((toggles "" .silent).run (.fresh togglesName) [halfExchange]).1).countP
        ((toggles "" .silent).isAnswered fun response =>
          response.reason? == some Reason.dependenciesUnsatisfied.word) = 0 := by
  obtain ⟨fault, f, report, hresult, hdescribes, hreason, -⟩ := evaluateOn_halfExchange
  have hcounted : (toggles "" .silent).countedAs? halfExchange =
      some Reason.dependenciesUnsatisfied.word := by
    rw [countedAs?_of_leads evaluates_halfExchange.leads, hresult]
    simp only [outcomeOf?, hdescribes.failure, hreason]
  constructor
  · rw [evaluationsWith_run, List.countP_singleton, hcounted]
    rfl
  · have hreason : ∀ m, ((toggles "" .silent).handle halfExchange m).1.reason? = none := by
      intro m
      rw [Response.reason?, reply_halfExchange]
      rfl
    simp only [run, List.zip_cons_cons, List.zip_nil_right, List.countP_singleton, isAnswered,
      hreason]
    simp

end Service

end FeatureToggles
