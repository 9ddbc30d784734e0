import FeatureToggles.Proofs.Engine.Fetching
import FeatureToggles.Proofs.Service.Answers
import FeatureToggles.Proofs.Service.Writing
import FeatureToggles.Proofs.Value.Data

/-!
# Evaluations that clients ask for

A client that asks for the evaluation of a feature is told what the engine says on the same catalog and
on the context that the body gives: the truth value, or the report on the very failure that the engine
gives.  To be shown a feature is another question, which is answered without the engine; where there is
a catalog, the two answers agree on which features there are.

The client is not told of a failure whose report cannot be written.  Names of prerequisites stand in such a
report, and a catalog may have names there that hold halves of pairs; then the client receives an internal
error.  So it does for a feature that is to be shown.

Main statements: `evaluation_agrees`, and `evaluation_agrees_half`, where a report is not written.
-/

namespace FeatureToggles

/-! ## The context of a body -/

namespace Body

/-- Whether a body is said to be JSON, and stands for a value. -/
def IsJson (mediaType : String) (bs : List UInt8) (j : Json) : Prop :=
  isJsonType mediaType = true ∧ Json.ofBytes bs = .ok j

/-- The context that a body gives.  There is none without a body, with null in its place, and in an
object whose context is absent or null. -/
inductive Gives (mediaType : String) : List UInt8 → Value → Prop where
  | absent : Gives mediaType [] .null
  | null {bs : List UInt8} : IsJson mediaType bs .null → Gives mediaType bs .null
  | lacking {bs : List UInt8} {fields : Json.Fields} :
      IsJson mediaType bs (.obj fields) → fields.get? contextKey = none → Gives mediaType bs .null
  | nullContext {bs : List UInt8} {fields : Json.Fields} :
      IsJson mediaType bs (.obj fields) → fields.get? contextKey = some .null →
      Gives mediaType bs .null
  | context {bs : List UInt8} {fields entries : Json.Fields} :
      IsJson mediaType bs (.obj fields) → fields.get? contextKey = some (.obj entries) →
      Gives mediaType bs (Json.obj entries).toValue

/-- Without bytes there is no value. -/
lemma ne_nil_of_ofBytes {bs : List UInt8} {j : Json} (h : Json.ofBytes bs = .ok j) : bs ≠ [] := by
  rintro rfl
  have hdecode : Text.decode (Json.encodingOf []) .keep [] = .ok [] := Text.decodePieces_nil _ 0
  have hread : Json.readValue [] = .error (.flaw .expectingValue 0) := by rw [Json.readValue]
  simp [Json.ofBytes, hdecode, Json.readDocument, Json.skipSpace, hread, Except.mapError] at h

variable {mediaType : String} {bs : List UInt8} {c : Value}

lemma contextOf_of_isJson {j : Json} (h : IsJson mediaType bs j) :
    contextOf mediaType bs = match j with
      | .null => .ok .null
      | j => contextOfJson j := by
  have hne : bs.isEmpty = false := by simpa using ne_nil_of_ofBytes h.2
  simp only [contextOf, read, hne, h.1, h.2, Bool.false_eq_true, Bool.not_true, ↓reduceIte]
  cases j <;> rfl

/-- A body is accepted exactly if it gives a context, and it is this one that is taken. -/
lemma contextOf_eq_ok_iff : contextOf mediaType bs = .ok c ↔ Gives mediaType bs c := by
  constructor
  · intro h
    by_cases hempty : bs = []
    · subst hempty
      obtain rfl := Except.ok.inj h
      exact .absent
    · have hne : bs.isEmpty = false := by simpa using hempty
      by_cases htype : isJsonType mediaType = true
      · cases hj : Json.ofBytes bs with
        | error e =>
            simp only [contextOf, read, hne, htype, hj] at h
            cases e with
            | undecodable e => simp at h
            | notJson e => cases e <;> simp at h
        | ok j =>
            have hjson : IsJson mediaType bs j := ⟨htype, hj⟩
            rw [contextOf_of_isJson hjson] at h
            cases j with
            | null =>
                obtain rfl := Except.ok.inj h
                exact .null hjson
            | obj fields =>
                unfold contextOfJson at h
                simp only at h
                split at h
                · rename_i hfield
                  obtain rfl := Except.ok.inj h
                  exact .lacking hjson hfield
                · rename_i hfield
                  obtain rfl := Except.ok.inj h
                  exact .nullContext hjson hfield
                · rename_i entries hfield
                  obtain rfl := Except.ok.inj h
                  exact .context hjson hfield
                · simp at h
            | bool | int | float | str | arr => simp [contextOfJson] at h
      · simp [contextOf, read, hne, htype] at h
  · intro h
    cases h with
    | absent => rfl
    | null hjson => rw [contextOf_of_isJson hjson]
    | lacking hjson hfield | nullContext hjson hfield | context hjson hfield =>
        rw [contextOf_of_isJson hjson]
        simp only [contextOfJson, hfield]

/-- What a body gives is data, which asks nobody for anything. -/
lemma Gives.isTellable_of_raises (h : Gives mediaType bs c) (fault : Fault) (hraises : c.Raises fault) :
    fault.IsTellable := by
  have hdata : c.IsData := by
    cases h with
    | absent | null | lacking | nullContext => exact .null
    | context => exact Value.isData_toValue _
  exact absurd hraises hdata.not_raises

end Body

/-! ## Paths of features -/

/-- Whether a name can stand as one segment of a path. -/
structure IsSegment (name : String) : Prop where
  ne_nil : name.toList ≠ []
  noSlash : '/' ∉ name.toList
  whole : Text.IsWhole name

namespace Service

/-- The path at which a feature is shown. -/
def featurePath (name : String) : List Char := '/' :: ("features".toList ++ '/' :: name.toList)

/-- The path at which a feature is evaluated. -/
def evaluatePath (name : String) : List Char :=
  '/' :: ("features".toList ++ '/' :: (name.toList ++ '/' :: "evaluate".toList))

variable {source name : String} {framework : Framework}

lemma split_features (cs : List Char) :
    Text.split '/' ('/' :: ("features".toList ++ '/' :: cs)) =
      [] :: "features".toList :: Text.split '/' cs := by
  have hfeatures : '/' ∉ "features".toList := by decide
  rw [← List.nil_append ('/' :: _), Text.split_append List.not_mem_nil,
    Text.split_append hfeatures]

lemma lookup_feature (h : IsSegment name) :
    Route.lookup (toggles source framework).routes "GET" (featurePath name) = .found .feature name := by
  have hsplit : Text.split '/' (featurePath name) = [[], "features".toList, name.toList] := by
    rw [featurePath, split_features, Text.split_of_not_mem h.noSlash]
  simp [Route.lookup, routes, toggles, Route.all, Route.method, Route.match?, hsplit, Route.segments,
    Route.matchSegments, h.ne_nil, Route.parameterOf]

lemma lookup_evaluate (h : IsSegment name) :
    Route.lookup (toggles source framework).routes "POST" (evaluatePath name) = .found .evaluate name := by
  have hevaluate : '/' ∉ "evaluate".toList := by decide
  have hsplit : Text.split '/' (evaluatePath name) =
      [[], "features".toList, name.toList, "evaluate".toList] := by
    rw [evaluatePath, split_features, Text.split_append h.noSlash, Text.split_of_not_mem hevaluate]
  simp [Route.lookup, routes, toggles, Route.all, Route.method, Route.match?, hsplit, Route.segments,
    Route.matchSegments, h.ne_nil, Route.parameterOf]

/-! ## Requests for an evaluation -/

/-- Whether a request leads to the evaluation of a feature, with a body that gives a context. -/
structure Leads (service : Service) (r : Request) (name : String) (c : Value) : Prop where
  lookup : Route.lookup service.routes r.method r.path = .found .evaluate name
  context : Body.contextOf r.mediaType r.body = .ok c

variable {service : Service} {e : Exchange} {c : Value} {fault : Fault} {f : FeatureFailure}
  {report : Failure.Report}

/-- The reply to such a request is that to the evaluation. -/
lemma Leads.reply_eq (h : service.Leads e.request name c) (m : Metrics) :
    (service.handle e m).1.reply =
      sent ((Engine.evaluateOn e.fetched name c).1.map (activeReply name)) := by
  rw [reply_handle_of_found h.lookup]
  simp only [answer, h.context]

lemma isWritable_activeReply (h : Text.IsWhole name) (b : Bool) :
    (activeReply name b).isWritable = true := by
  have hkeys : ∀ key ∈ ["feature", "enabled"], Text.IsWhole key := by decide
  simp only [List.forall_mem_cons, List.not_mem_nil, false_imp_iff, implies_true, and_true] at hkeys
  rw [activeReply, Reply.isWritable_json_iff]
  simp [hkeys, h]

/-- No error is answered as a truth value is. -/
lemma sent_error_ne_activeReply (fault : Fault) (name : String) (b : Bool) :
    sent (.error fault) ≠ activeReply name b := by
  -- the fields of these replies have other names
  have hinternal : Reply.internalError ≠ activeReply name b := by
    simp [Reply.internalError, activeReply, Reply.json]
  cases hreport : fault.failure.report? with
  | some report =>
      rw [sent_error_of_report hreport, sent_ok]
      split_ifs
      · simp [Reply.ofReport, Reply.reportBody, activeReply, Reply.json]
      · exact hinternal
  | none =>
      rw [sent_error_of_report_none hreport, fallback]
      split
      · exact hinternal
      · simp [Reply.serverError, activeReply, Reply.json]

/-- The failure of a feature is answered by its report, if it can be written. -/
lemma sent_of_describes (h : fault.Describes f report) : sent (.error fault) =
    if (Reply.ofReport none report).isWritable then Reply.ofReport none report
    else Reply.internalError := by
  rw [sent_error_of_report h.reported, sent_ok]

/-- That a name is not found can be told, whatever else the details are. -/
lemma sent_of_notFound {details : Json.Fields} (hname : Text.IsWhole name)
    (h : fault.failure.report? = some ⟨Reason.notFound.code, "Feature '" ++ name ++ "' not found",
      Reason.notFound.status, details⟩) (hdetails : (Json.obj details).IsSendable) :
    (sent (.error fault)).status = 404 := by
  have hcode : Text.IsWhole Reason.notFound.code := by decide
  have hbefore : Text.IsWhole "Feature '" := by decide
  have hafter : Text.IsWhole "' not found" := by decide
  rw [sent_error_of_report h, sent_ok_of_isWritable]
  · rfl
  · exact Reply.isWritable_ofReport_iff.mpr ⟨hcode, (hbefore.append hname).append hafter, hdetails⟩

/-- Whether a request is one for the evaluation of a feature on a context. -/
structure Evaluates (e : Exchange) (name : String) (c : Value) : Prop where
  segment : IsSegment name
  method : e.request.method = "POST"
  path : e.request.path = evaluatePath name
  body : Body.Gives e.request.mediaType e.request.body c

namespace Evaluates

lemma leads (h : Evaluates e name c) : (toggles source framework).Leads e.request name c where
  lookup := by rw [h.method, h.path, lookup_evaluate h.segment]
  context := Body.contextOf_eq_ok_iff.mpr h.body

lemma reply_eq (h : Evaluates e name c) (m : Metrics) :
    ((toggles source framework).handle e m).1.reply =
      sent ((Engine.evaluateOn e.fetched name c).1.map (activeReply name)) :=
  h.leads.reply_eq m

lemma reply_of_ok (h : Evaluates e name c) {b : Bool}
    (hresult : (Engine.evaluateOn e.fetched name c).1 = .ok b) (m : Metrics) :
    ((toggles source framework).handle e m).1.reply = activeReply name b := by
  rw [h.reply_eq, hresult]
  exact sent_ok_of_isWritable (isWritable_activeReply h.segment.whole b)

lemma reply_of_error (h : Evaluates e name c)
    (hresult : (Engine.evaluateOn e.fetched name c).1 = .error fault) (m : Metrics) :
    ((toggles source framework).handle e m).1.reply = sent (.error fault) := by
  rw [h.reply_eq, hresult]
  rfl

/-- The answer is that nothing is found exactly if the catalog does not have the name. -/
lemma status_eq_iff (h : Evaluates e name c) {catalog : Catalog}
    (hcatalog : e.fetched.outcome = .ok catalog) (m : Metrics) :
    ((toggles source framework).handle e m).1.reply.status = 404 ↔ catalog.find? name = none := by
  constructor
  · intro hstatus
    cases hresult : (Engine.evaluateOn e.fetched name c).1 with
    | ok b => 
        rw [h.reply_of_ok hresult] at hstatus
        cases hstatus
    | error fault =>
        obtain ⟨f, report, hdescribes⟩ :=
          Engine.isCoherent_of_told (by simp [hcatalog]) h.body.isTellable_of_raises hresult
        rw [h.reply_of_error hresult, sent_of_describes hdescribes] at hstatus
        refine (Engine.reason_eq_notFound_iff hcatalog h.body.isTellable_of_raises hresult
          hdescribes.failure).mp ?_
        by_contra hreason
        have hreport := hdescribes.status
        rw [if_neg hreason] at hreport
        split_ifs at hstatus
        · rw [Reply.ofReport, hreport] at hstatus
          cases hstatus
        · cases hstatus
  · intro habsent
    have hresult := Engine.evaluateOn_of_absent hcatalog habsent c
    have hwhole : ∀ text ∈ ["feature", "reason", Reason.notFound.word], Text.IsWhole text := by decide
    have hdetails : (Json.obj [("feature", .str name),
        ("reason", .str Reason.notFound.word)]).IsSendable := by
      simpa [h.segment.whole] using hwhole
    rw [h.reply_of_error hresult]
    exact sent_of_notFound h.segment.whole rfl hdetails

end Evaluates

/-! ## Requests for a feature -/

/-- Whether a request is one to be shown a feature. -/
structure Shows (e : Exchange) (name : String) : Prop where
  segment : IsSegment name
  method : e.request.method = "GET"
  path : e.request.path = featurePath name

namespace Shows

lemma reply_eq (h : Shows e name) {catalog : Catalog} (hcatalog : e.fetched.outcome = .ok catalog)
    (m : Metrics) : ((toggles source framework).handle e m).1.reply =
      sent (showFeature catalog name) := by
  have hlookup : Route.lookup (toggles source framework).routes e.request.method e.request.path =
      .found .feature name := by rw [h.method, h.path, lookup_feature h.segment]
  rw [reply_handle_of_found hlookup]
  simp only [answer, hcatalog]
  rfl

lemma reply_of_first (h : Shows e name) {catalog : Catalog} {f : Feature}
    (hcatalog : e.fetched.outcome = .ok catalog) (hf : catalog.First name f) (m : Metrics) :
    ((toggles source framework).handle e m).1.reply =
      if ∀ s ∈ f.texts, Text.IsWhole s then Reply.json 200 f.toJson else Reply.internalError := by
  rw [h.reply_eq hcatalog, showFeature, Catalog.find?_eq_some_iff.mpr hf]
  simp only [sent_ok, Reply.isWritable_json_iff, Feature.isSendable_toJson_iff]

lemma status_of_absent (h : Shows e name) {catalog : Catalog}
    (hcatalog : e.fetched.outcome = .ok catalog) (habsent : catalog.find? name = none)
    (m : Metrics) : ((toggles source framework).handle e m).1.reply.status = 404 := by
  have hkey : Text.IsWhole "feature" := by decide
  rw [h.reply_eq hcatalog, showFeature, habsent]
  exact sent_of_notFound h.segment.whole rfl (by simp [hkey, h.segment.whole])

end Shows

/-- The service answers as the engine does on what was fetched and on the context of the body: with the
truth value of the feature, or with the report on the failure, if this can be written, and with an internal
error otherwise.  If there is no such failure, since the error of the fetch has not all texts, then what is
left over of that error is answered.  Where there is a catalog, a feature that can be evaluated or fails to be
is the one that is shown, as far as it can be written, and one that is not found is not found to be shown. -/
theorem evaluation_agrees (source : String) (framework : Framework) (name : String) (c : Value)
    (e g : Exchange) (m m' : Metrics) (he : Evaluates e name c) (hg : Shows g name)
    (hfetched : g.fetched.outcome = e.fetched.outcome) :
    (∀ b, ((toggles source framework).handle e m).1.reply = activeReply name b ↔
      (Engine.evaluateOn e.fetched name c).1 = .ok b) ∧
    (∀ fault, (Engine.evaluateOn e.fetched name c).1 = .error fault →
      (∃ f report, fault.Describes f report ∧ ((toggles source framework).handle e m).1.reply =
        if (Reply.ofReport none report).isWritable then Reply.ofReport none report
        else Reply.internalError) ∨
      ∃ cause, e.fetched.outcome = .error cause ∧ ¬ cause.HasTexts ∧ cause.Asked fault.failure ∧
        ((toggles source framework).handle e m).1.reply = sent (.error fault)) ∧
    ∀ catalog, e.fetched.outcome = .ok catalog →
      (((toggles source framework).handle g m').1.reply.status = 404 ↔
        ((toggles source framework).handle e m).1.reply.status = 404) ∧
      (((toggles source framework).handle g m').1.reply.status ≠ 404 →
        ∃ f, catalog.First name f ∧ ((toggles source framework).handle g m').1.reply =
          if ∀ s ∈ f.texts, Text.IsWhole s then Reply.json 200 f.toJson else Reply.internalError) := by
  refine ⟨fun b => ⟨fun hreply => ?_, fun hresult => he.reply_of_ok hresult m⟩,
    fun fault hresult => ?_, fun catalog hcatalog => ?_⟩
  · cases hresult : (Engine.evaluateOn e.fetched name c).1 with
    | ok b' =>
        rw [he.reply_of_ok hresult] at hreply
        simp only [activeReply, Reply.json, Reply.mk.injEq, Body.json.injEq, Json.obj.injEq,
          List.cons.injEq, Prod.mk.injEq, Json.bool.injEq, true_and, and_true] at hreply
        rw [hreply]
    | error fault =>
        rw [he.reply_of_error hresult] at hreply
        exact absurd hreply (sent_error_ne_activeReply fault name b)
  · by_cases htexts : ∀ cause, e.fetched.outcome = .error cause → cause.HasTexts
    · obtain ⟨f, report, hdescribes⟩ := Engine.isCoherent_of_told htexts he.body.isTellable_of_raises hresult
      refine .inl ⟨f, report, hdescribes, ?_⟩
      rw [he.reply_of_error hresult, sent_of_describes hdescribes]
    · simp only [not_forall] at htexts
      obtain ⟨cause, hcause, hmute⟩ := htexts
      obtain ⟨fault', hresult', -, hasked⟩ := Engine.exists_error_of_fetch_error hcause name c
      obtain rfl : fault = fault' := by simpa [hresult] using hresult'
      exact .inr ⟨cause, hcause, hmute, hasked hmute, he.reply_of_error hresult m⟩
  · have hcatalog' := hfetched.trans hcatalog
    rw [he.status_eq_iff hcatalog]
    cases hfind : catalog.find? name with
    | none => simp [hg.status_of_absent hcatalog' hfind]
    | some f =>
        have hf := Catalog.find?_eq_some_iff.mp hfind
        have hreply : ((toggles source framework).handle g m').1.reply = _ :=
          hg.reply_of_first hcatalog' hf m'
        refine ⟨?_, fun _ => ⟨f, hf, hreply⟩⟩
        rw [hreply]
        split_ifs <;> simp [Reply.json, Reply.internalError]

/-- A body with an age as context. -/
def ageBody : List UInt8 :=
  Text.Encoding.utf8.encode "\x7b\"context\":\x7b\"age\":18\x7d\x7d".toList

lemma gives_ageBody :
    Body.Gives Request.usualMediaType ageBody (.map [(.text "age", .number (.int 18))]) := by
  have hdecode : Text.decode .utf8 .keep ageBody =
      .ok "\x7b\"context\":\x7b\"age\":18\x7d\x7d".toList := by cbv
  have hencoding : Json.encodingOf ageBody = .utf8 := by decide
  have hread : Json.readDocument "\x7b\"context\":\x7b\"age\":18\x7d\x7d".toList =
      .ok (.obj [("context", .obj [("age", .int 18)])]) := by cbv
  have hjson : Json.ofBytes ageBody = .ok (.obj [("context", .obj [("age", .int 18)])]) := by
    rw [Json.ofBytes, hencoding, hdecode]
    simp only [hread]
    rfl
  have hcontext : Json.Fields.get? [("context", .obj [("age", .int 18)])] Body.contextKey =
      some (.obj [("age", .int 18)]) := rfl
  exact .context ⟨by decide, hjson⟩ hcontext

/-- A catalog with a feature that is off for adults. -/
def gamesCatalog : Catalog := [⟨"games", true, true, [], [⟨"age > 17", false, false⟩]⟩]

/-- A request on that catalog. -/
def gamesExchange (method : String) (path : List Char) (body : List UInt8) : Exchange where
  request := ⟨method, path, [], body⟩
  fetched := ⟨.ok gamesCatalog, []⟩
  evaluationTime := .zero false
  requestTime := .zero false
  freshIdentifier := "1"

theorem evaluation_agrees_games :
    ((toggles "" .silent).handle (gamesExchange "POST" (evaluatePath "games") ageBody)
        (.fresh togglesName)).1.reply = activeReply "games" false ∧
      ∃ f, gamesCatalog.First "games" f ∧
        ((toggles "" .silent).handle (gamesExchange "GET" (featurePath "games") [])
          (.fresh togglesName)).1.reply = Reply.json 200 f.toJson := by
  have hsegment : IsSegment "games" := ⟨by decide, by decide, by decide⟩
  have hoff : (Engine.evaluateOn ⟨.ok gamesCatalog, []⟩ "games"
      (.map [(.text "age", .number (.int 18))])).1 = .ok false := by cbv
  have hevaluates : Evaluates (gamesExchange "POST" (evaluatePath "games") ageBody) "games"
      (.map [(.text "age", .number (.int 18))]) := ⟨hsegment, rfl, rfl, gives_ageBody⟩
  have hshows : Shows (gamesExchange "GET" (featurePath "games") []) "games" :=
    ⟨hsegment, rfl, rfl⟩
  have hagrees := evaluation_agrees "" .silent "games" _ _ _ (.fresh togglesName) (.fresh togglesName)
    hevaluates hshows rfl
  have hreply := (hagrees.1 false).mpr hoff
  obtain ⟨hstatus, hshown⟩ := hagrees.2.2 gamesCatalog rfl
  have hwhole : ∀ f ∈ gamesCatalog, ∀ s ∈ f.texts, Text.IsWhole s := by decide
  have hfound : ((toggles "" .silent).handle (gamesExchange "GET" (featurePath "games") [])
      (.fresh togglesName)).1.reply.status ≠ 404 := by
    rw [Ne, hstatus, hreply]
    decide
  obtain ⟨f, hf, hshown⟩ := hshown hfound
  rw [if_pos (hwhole f (List.mem_of_find?_eq_some (Catalog.find?_eq_some_iff.mpr hf)))] at hshown
  exact ⟨hreply, f, hf, hshown⟩

/-- A feature with a prerequisite whose name is half of a pair. -/
def halfCatalog : Catalog := [⟨"f", true, false, [String.singleton (Text.ofHalf 0xD800)], []⟩]

/-- A request to evaluate it. -/
def halfExchange : Exchange where
  request := ⟨"POST", evaluatePath "f", [], []⟩
  fetched := ⟨.ok halfCatalog, []⟩
  evaluationTime := .zero false
  requestTime := .zero false
  freshIdentifier := "1"

lemma evaluates_halfExchange : Evaluates halfExchange "f" .null :=
  ⟨⟨by decide, by decide, by decide⟩, rfl, rfl, .absent⟩

/-- The report on the missing prerequisite cannot be written. -/
lemma evaluateOn_halfExchange :
    ∃ fault f report, (Engine.evaluateOn halfExchange.fetched "f" .null).1 = .error fault ∧
      fault.Describes f report ∧ f.reason = .dependenciesUnsatisfied ∧
      (Reply.ofReport none report).isWritable = false := by
  have hresult : (Engine.evaluateOn halfExchange.fetched "f" .null).1 =
      .error (Engine.refusal "f" _ .dependenciesUnsatisfied _) := rfl
  obtain ⟨f, report, hdescribes⟩ := Engine.isCoherent_of_told (by simp [halfExchange])
    evaluates_halfExchange.body.isTellable_of_raises hresult
  refine ⟨_, f, report, hresult, hdescribes, ?_, ?_⟩
  · rw [← Failure.feature.inj hdescribes.failure]
  · rw [← Option.some.inj hdescribes.reported]
    decide +kernel

lemma reply_halfExchange (m : Metrics) :
    ((toggles "" .silent).handle halfExchange m).1.reply = Reply.internalError := by
  obtain ⟨fault, f, report, hresult, hdescribes, -, hunwritten⟩ := evaluateOn_halfExchange
  rw [evaluates_halfExchange.reply_of_error hresult, sent_of_describes hdescribes, hunwritten]
  rfl

/-- The failure of such a feature, whose status is 422, reaches the client as an internal error. -/
theorem evaluation_agrees_half :
    Evaluates halfExchange "f" .null ∧
      ∃ fault f report, (Engine.evaluateOn halfExchange.fetched "f" .null).1 = .error fault ∧
        fault.Describes f report ∧ report.status = 422 ∧
        ((toggles "" .silent).handle halfExchange (.fresh togglesName)).1.reply =
          Reply.internalError := by
  obtain ⟨fault, f, report, hresult, hdescribes, hreason, -⟩ := evaluateOn_halfExchange
  refine ⟨evaluates_halfExchange, fault, f, report, hresult, hdescribes, ?_, reply_halfExchange _⟩
  rw [hdescribes.status, hreason]
  rfl

end Service

end FeatureToggles
