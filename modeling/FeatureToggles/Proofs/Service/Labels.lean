import FeatureToggles.Proofs.Catalog.Refusal
import FeatureToggles.Proofs.Service.Evaluation

/-!
# Under which names evaluations are counted

Every evaluation is counted in a series with the name of the feature as a label, and clients may ask for
any name.  A name that the catalog does not have is counted under a label that all of these share, so
that the series are no more than the features allow.  This works where there is a catalog: a name that
is evaluated while none can be fetched is counted as it is, whether or not it is that of a feature.

Main statements: `mem_featureLabels_handle` says what one request adds to the labels, and
`mem_featureLabels_run` what all requests add; `featureLabels_run` says when they stay with the names of
features.
-/

namespace FeatureToggles

namespace Metrics

/-! ## Labels -/

/-- The names under which evaluations are counted. -/
def featureLabels (m : Metrics) : List String :=
  m.evaluations.filterMap fun series => series.1.lookup "feature"

/-- After an update there is the series that was updated, and there are those from before. -/
lemma Family.mem_labels_update {α : Type} (fresh : α) (f : α → α) {labels labels' : Labels}
    {family : Family α} :
    labels' ∈ (family.update fresh f labels).map (·.1) ↔
      labels' = labels ∨ labels' ∈ family.map (·.1) := by
  induction family with
  | nil => simp [update]
  | cons series rest ih =>
      by_cases h : series.1 = labels
      · simp [update, h]
      · rw [update, if_neg h, List.map_cons, List.mem_cons, ih, List.map_cons, List.mem_cons]
        tauto

lemma mem_featureLabels_iff {m : Metrics} {label : String} :
    label ∈ m.featureLabels ↔
      ∃ labels ∈ m.evaluations.map (·.1), labels.lookup "feature" = some label := by
  simp [featureLabels]

lemma mem_featureLabels_recordEvaluation {m : Metrics} {feature outcome label : String}
    {duration : Binary64} :
    label ∈ (m.recordEvaluation feature outcome duration).featureLabels ↔
      label = feature ∨ label ∈ m.featureLabels := by
  simp only [mem_featureLabels_iff, recordEvaluation, Family.increment, Family.mem_labels_update]
  constructor
  · rintro ⟨labels, rfl | hlabels, hlookup⟩
    · exact .inl (Option.some.inj hlookup).symm
    · exact .inr ⟨labels, hlabels, hlookup⟩
  · rintro (rfl | ⟨labels, hlabels, hlookup⟩)
    · exact ⟨_, .inl rfl, rfl⟩
    · exact ⟨labels, .inr hlabels, hlookup⟩

/-- What is counted of evaluations. -/
def tally (m : Metrics) : Family Nat × Histogram := (m.evaluations, m.evaluationDurations)

lemma featureLabels_congr {m m' : Metrics} (h : m.tally = m'.tally) :
    m.featureLabels = m'.featureLabels := by
  simp only [featureLabels, (Prod.mk.inj h).1]

end Metrics

/-! ## The label of an evaluation -/

/-- Whether the evaluation of a name is counted under a label, given what the source of catalogs gave.  The
label is the name, unless there is a catalog and it does not have the name.  Where the error of a fetch has not
all texts, an evaluation need not be counted: what is left over has to be the failure of a feature. -/
inductive Fetched.IsCountedAs (fetched : Fetched) (name : String) : String → Prop where
  | known {catalog : Catalog} : fetched.outcome = .ok catalog → (catalog.find? name).isSome →
      IsCountedAs fetched name name
  | unknown {catalog : Catalog} : fetched.outcome = .ok catalog → catalog.find? name = none →
      IsCountedAs fetched name Service.unknownLabel
  | unfetched {cause : Fault} : fetched.outcome = .error cause → cause.HasTexts →
      IsCountedAs fetched name name
  | leftOver {cause fault : Fault} {f : FeatureFailure} {value : Value} :
      fetched.outcome = .error cause → ¬ cause.HasTexts →
      (Engine.evaluateOn fetched name value).1 = .error fault → fault.failure = .feature f →
      IsCountedAs fetched name (Service.failureLabel name f.reason)

/-- The outcome under which an evaluation is counted, if it is: a truth value, or the reason for which the
feature failed. -/
def Service.outcomeOf? : Except Fault Bool → Option String
  | .ok b => some (outcomeWord b)
  | .error fault =>
    match fault.failure with
    | .feature f => some f.reason.word
    | _ => none

namespace Fetched

open Engine (evaluateOn)

variable {fetched : Fetched} {name label : String} {value : Value}

lemma isCountedAs_of_catalog {catalog : Catalog} (h : fetched.outcome = .ok catalog) :
    fetched.IsCountedAs name label ↔
      label = if (catalog.find? name).isSome then name else Service.unknownLabel := by
  constructor
  · rintro (⟨h', hfound⟩ | ⟨h', habsent⟩ | h' | h')
    · obtain rfl := Except.ok.inj (h.symm.trans h')
      rw [if_pos hfound]
    · obtain rfl := Except.ok.inj (h.symm.trans h')
      rw [habsent]
      rfl
    · simp [h] at h'
    · simp [h] at h'
  · rintro rfl
    split_ifs with hfound
    · exact .known h hfound
    · exact .unknown h (Option.not_isSome_iff_eq_none.mp hfound)

lemma isCountedAs_of_hasTexts {cause : Fault} (h : fetched.outcome = .error cause)
    (htexts : cause.HasTexts) : fetched.IsCountedAs name label ↔ label = name := by
  constructor
  · rintro (h' | h' | - | ⟨h', hmute⟩)
    · simp [h] at h'
    · simp [h] at h'
    · rfl
    · obtain rfl := Except.error.inj (h.symm.trans h')
      exact absurd htexts hmute
  · rintro rfl
    exact .unfetched h htexts

/-- Without a catalog the context of an evaluation does not matter. -/
lemma isCountedAs_of_not_hasTexts {cause : Fault} (h : fetched.outcome = .error cause)
    (hmute : ¬ cause.HasTexts) (value : Value) : fetched.IsCountedAs name label ↔
      ∃ fault f, (evaluateOn fetched name value).1 = .error fault ∧ fault.failure = .feature f ∧
        label = Service.failureLabel name f.reason := by
  constructor
  · rintro (h' | h' | ⟨h', htexts⟩ | ⟨-, -, hresult, hf⟩)
    · simp [h] at h'
    · simp [h] at h'
    · obtain rfl := Except.error.inj (h.symm.trans h')
      exact absurd htexts hmute
    · rw [Engine.evaluateOn_fst_of_error h] at hresult ⊢
      exact ⟨_, _, hresult, hf, rfl⟩
  · rintro ⟨fault, f, hresult, hf, rfl⟩
    exact .leftOver h hmute hresult hf

variable (htold : ∀ fault, value.Raises fault → fault.IsTellable)

lemma isCountedAs_of_ok {b : Bool} (h : (evaluateOn fetched name value).1 = .ok b) :
    fetched.IsCountedAs name label ↔ label = name := by
  cases hfetched : fetched.outcome with
  | error cause =>
      obtain ⟨fault, hfault, -⟩ := Engine.exists_error_of_fetch_error hfetched name value
      simp [h] at hfault
  | ok catalog =>
      rw [isCountedAs_of_catalog hfetched,
        if_pos (Engine.isSome_find?_of_evaluateOn_ok hfetched h)]

include htold in
/-- The failure of a feature is counted under the label for its reason, since a name is said not to be found
exactly if there is a catalog and it does not have the name. -/
lemma isCountedAs_of_feature {fault : Fault} {f : FeatureFailure}
    (h : (evaluateOn fetched name value).1 = .error fault) (hf : fault.failure = .feature f) :
    fetched.IsCountedAs name label ↔ label = Service.failureLabel name f.reason := by
  cases hfetched : fetched.outcome with
  | error cause =>
      by_cases htexts : cause.HasTexts
      · obtain ⟨message, causes, -, hresult⟩ :=
          Engine.evaluateOn_of_fetch_error hfetched htexts name value
        obtain rfl := Except.error.inj (h.symm.trans hresult)
        obtain rfl := Failure.feature.inj hf
        exact isCountedAs_of_hasTexts hfetched htexts
      · rw [isCountedAs_of_not_hasTexts hfetched htexts value]
        constructor
        · rintro ⟨fault', f', hresult, hf', rfl⟩
          obtain rfl := Except.error.inj (h.symm.trans hresult)
          obtain rfl := Failure.feature.inj (hf.symm.trans hf')
          rfl
        · exact fun hlabel => ⟨fault, f, h, hf, hlabel⟩
  | ok catalog =>
      have hreason := Engine.reason_eq_notFound_iff hfetched htold h hf
      rw [isCountedAs_of_catalog hfetched, Service.failureLabel]
      cases hfind : catalog.find? name <;> simp [hreason, hfind]

include htold in
/-- What is left over is not counted unless it is the failure of a feature. -/
lemma not_isCountedAs {fault : Fault} (h : (evaluateOn fetched name value).1 = .error fault)
    (hfeature : ∀ f, fault.failure ≠ .feature f) : ¬ fetched.IsCountedAs name label := by
  have hmute : ∃ cause, fetched.outcome = .error cause ∧ ¬ cause.HasTexts := by
    by_contra htexts
    push Not at htexts
    obtain ⟨f, _, hdescribes⟩ := Engine.isCoherent_of_told htexts htold h
    exact hfeature f hdescribes.failure
  obtain ⟨cause, hfetched, hmute⟩ := hmute
  rw [isCountedAs_of_not_hasTexts hfetched hmute value]
  rintro ⟨fault', f, hresult, hf, -⟩
  obtain rfl := Except.error.inj (h.symm.trans hresult)
  exact hfeature f hf

end Fetched

namespace Service

/-! ## One request -/

/-- The name that a request evaluates, if it evaluates one: it has to lead to this resource, with a body
that gives a context. -/
def evaluated? (service : Service) (r : Request) : Option String :=
  match Route.lookup service.routes r.method r.path, Body.contextOf r.mediaType r.body with
  | .found .evaluate name, .ok _ => some name
  | _, _ => none

/-- Whether a request has the source of catalogs asked. -/
def asks (service : Service) (r : Request) : Bool :=
  match Route.lookup service.routes r.method r.path with
  | .found .health _ =>
    match service.kind with
    | .bare _ => false
    | .toggles _ => true
  | .found .features _ | .found .feature _ => true
  | .found .evaluate _ => (Body.contextOf r.mediaType r.body).toOption.isSome
  | _ => false

lemma tally_serve {service : Service} {route : Route} {name : String} {e : Exchange}
    {m : Metrics} (h : route ≠ .evaluate) :
    (service.serve route name e m).2.tally = m.tally := by
  cases route with
  | health =>
      simp only [serve, serveHealth]
      split <;> rfl
  | metrics | index | features | feature => rfl
  | evaluate => exact absurd rfl h

lemma tally_complete (route : Route) (served : Served) :
    (complete route served).2.tally = served.2.tally := by
  unfold complete
  repeat' split
  all_goals rfl

lemma tally_handle (service : Service) (e : Exchange) (m : Metrics) :
    (service.handle e m).2.tally = (service.dispatch e m).2.tally := by
  unfold handle
  split
  · simp_all [Metrics.recordRequest, Metrics.tally]
  · unfold lose
    split <;> simp_all [Metrics.recordError, Metrics.tally]

lemma evaluated?_eq_some_iff {service : Service} {r : Request} {name : String} :
    service.evaluated? r = some name ↔ ∃ c, service.Leads r name c := by
  unfold evaluated?
  constructor
  · intro h
    split at h
    · rename_i name' c hlookup hcontext
      obtain rfl := Option.some.inj h
      exact ⟨c, hlookup, hcontext⟩
    · simp at h
  · rintro ⟨c, hlookup, hcontext⟩
    rw [hlookup, hcontext]

/-- A request that evaluates no name counts nothing of evaluations. -/
lemma tally_handle_of_not_evaluated {service : Service} {e : Exchange}
    (h : service.evaluated? e.request = none) (m : Metrics) :
    (service.handle e m).2.tally = m.tally := by
  rw [tally_handle]
  unfold dispatch
  split
  · rfl
  · cases hlookup : Route.lookup service.routes e.request.method e.request.path with
    | found route name =>
        simp only [tally_complete]
        by_cases hroute : route = .evaluate
        · subst hroute
          cases hbody : Body.contextOf e.request.mediaType e.request.body with
          | error refused => simp only [serve, hbody]
          | ok c =>
              have hname := evaluated?_eq_some_iff.mpr ⟨c, hlookup, hbody⟩
              simp [h] at hname
        · exact tally_serve hroute
    | wrongMethod | elsewhere | nowhere => rfl

namespace Leads

variable {service : Service} {e : Exchange} {name : String} {c : Value}

/-- A request counts the evaluation to which it leads. -/
lemma tally_handle (h : service.Leads e.request name c) (m : Metrics) :
    (service.handle e m).2.tally = (evaluate e.fetched name c e.evaluationTime m).2.tally := by
  rw [Service.tally_handle, dispatch, answer?_eq_none_of_found h.lookup, h.lookup]
  simp only [tally_complete, serve, h.context]

/-- An evaluation with an outcome is counted once, under the one label of its name. -/
lemma tally_handle_of_outcome (h : service.Leads e.request name c) {outcome : String}
    (houtcome : outcomeOf? (Engine.evaluateOn e.fetched name c).1 = some outcome) (m : Metrics) :
    ∃ label, (∀ label', e.fetched.IsCountedAs name label' ↔ label' = label) ∧
      (service.handle e m).2.tally =
        (m.recordEvaluation label outcome e.evaluationTime).tally := by
  have hgives := Body.contextOf_eq_ok_iff.mp h.context
  rw [h.tally_handle, evaluate]
  cases hresult : (Engine.evaluateOn e.fetched name c).1 with
  | ok b =>
      rw [hresult] at houtcome
      obtain rfl : outcomeWord b = outcome := Option.some.inj houtcome
      exact ⟨name, fun _ => Fetched.isCountedAs_of_ok hresult, rfl⟩
  | error fault =>
      rw [hresult, outcomeOf?] at houtcome
      split at houtcome
      · rename_i f hf
        obtain rfl := Option.some.inj houtcome
        refine ⟨failureLabel name f.reason,
          fun _ => Fetched.isCountedAs_of_feature hgives.isTellable_of_raises hresult hf, ?_⟩
        simp only [hf]
      · cases houtcome

/-- An evaluation without an outcome is not counted, and has no label. -/
lemma tally_handle_of_outcome_none (h : service.Leads e.request name c)
    (houtcome : outcomeOf? (Engine.evaluateOn e.fetched name c).1 = none) (m : Metrics) :
    (∀ label, ¬ e.fetched.IsCountedAs name label) ∧ (service.handle e m).2.tally = m.tally := by
  have hgives := Body.contextOf_eq_ok_iff.mp h.context
  rw [h.tally_handle, evaluate]
  cases hresult : (Engine.evaluateOn e.fetched name c).1 with
  | ok b => simp [hresult, outcomeOf?] at houtcome
  | error fault =>
      rw [hresult, outcomeOf?] at houtcome
      have hfeature : ∀ f, fault.failure ≠ .feature f := by
        intro f hf
        simp [hf] at houtcome
      refine ⟨fun _ => Fetched.not_isCountedAs hgives.isTellable_of_raises hresult hfeature, ?_⟩
      dsimp only
      split
      · exact absurd ‹_› (hfeature _)
      · rfl

end Leads

/-- A request adds the label of the name that it evaluates, and no other. -/
theorem mem_featureLabels_handle {service : Service} {e : Exchange} {m : Metrics} {label : String} :
    label ∈ (service.handle e m).2.featureLabels ↔
      label ∈ m.featureLabels ∨
        ∃ name, service.evaluated? e.request = some name ∧ e.fetched.IsCountedAs name label := by
  cases hname : service.evaluated? e.request with
  | none => simp [Metrics.featureLabels_congr (tally_handle_of_not_evaluated hname m)]
  | some name =>
      obtain ⟨c, hleads⟩ := evaluated?_eq_some_iff.mp hname
      cases houtcome : outcomeOf? (Engine.evaluateOn e.fetched name c).1 with
      | some outcome =>
          obtain ⟨label', hlabel, htally⟩ := hleads.tally_handle_of_outcome houtcome m
          rw [Metrics.featureLabels_congr htally, Metrics.mem_featureLabels_recordEvaluation]
          simp [hlabel, or_comm]
      | none =>
          obtain ⟨hlabel, htally⟩ := hleads.tally_handle_of_outcome_none houtcome m
          simp [Metrics.featureLabels_congr htally, hlabel]

/-! ## All requests -/

/-- Requests add the labels of the names that they evaluate, and no others. -/
theorem mem_featureLabels_run {service : Service} {m : Metrics} {es : List Exchange}
    {label : String} :
    label ∈ (service.run m es).2.featureLabels ↔
      label ∈ m.featureLabels ∨ ∃ e ∈ es, ∃ name,
        service.evaluated? e.request = some name ∧ e.fetched.IsCountedAs name label := by
  induction es generalizing m with
  | nil => simp [run]
  | cons e es ih =>
      rw [run, ih, mem_featureLabels_handle]
      simp [or_assoc]

/-! ## The features that were there -/

/-- What the source gives does not matter to a request that does not have it asked. -/
lemma handle_of_not_asks {service : Service} {e : Exchange} {m : Metrics}
    (h : service.asks e.request = false) (fetched : Fetched) :
    service.handle { e with fetched } m = service.handle e m := by
  have hdispatch : service.dispatch { e with fetched } m = service.dispatch e m := by
    unfold asks at h
    unfold dispatch
    cases hlookup : Route.lookup service.routes e.request.method e.request.path with
    | found route name =>
        simp only [hlookup] at h
        have hserve : service.serve route name { e with fetched } m = service.serve route name e m := by
          cases route with
          | health =>
              cases hkind : service.kind with
              | bare failure =>
                  cases failure <;> simp [serve, serveHealth, health, dependencies, hkind]
              | toggles source => simp [hkind] at h
          | metrics | index => rfl
          | features | feature => simp at h
          | evaluate =>
              cases hbody : Body.contextOf e.request.mediaType e.request.body with
              | error refused => simp only [serve, hbody]
              | ok context => simp [hbody, Except.toOption] at h
        simp only [hserve]
    | wrongMethod | elsewhere | nowhere => rfl
  unfold handle
  rw [hdispatch]

lemma asks_of_evaluated? {service : Service} {r : Request} {name : String}
    (h : service.evaluated? r = some name) : service.asks r = true := by
  unfold evaluated? at h
  unfold asks
  split at h
  · rename_i hlookup hbody
    simp [hlookup, hbody, Except.toOption]
  · simp at h

/-- Whether requests had the source give a catalog. -/
def Fetches (service : Service) (es : List Exchange) (catalog : Catalog) : Prop :=
  ∃ e ∈ es, service.asks e.request = true ∧ e.fetched.outcome = .ok catalog

/-- Whether a name is that of a feature of a catalog that was given. -/
def IsKnown (service : Service) (es : List Exchange) (name : String) : Prop :=
  ∃ catalog, service.Fetches es catalog ∧ ∃ f ∈ catalog, f.name = name

/-- With a catalog the label of a name is that of unknown names, or the name is that of a feature. -/
lemma eq_or_isKnown_of_isCountedAs {service : Service} {es : List Exchange} {e : Exchange}
    {name label : String} {catalog : Catalog} (he : e ∈ es)
    (hname : service.evaluated? e.request = some name) (hcatalog : e.fetched.outcome = .ok catalog)
    (h : e.fetched.IsCountedAs name label) : label = unknownLabel ∨ service.IsKnown es label := by
  rw [Fetched.isCountedAs_of_catalog hcatalog] at h
  subst h
  split_ifs with hfound
  · exact .inr ⟨catalog, ⟨e, he, asks_of_evaluated? hname, hcatalog⟩,
      (catalog.find?_isSome_iff name).mp hfound⟩
  · exact .inl rfl

/-- Without a catalog the label of a name is that of unknown names, or the name itself. -/
lemma eq_or_eq_of_isCountedAs {fetched : Fetched} {name label : String}
    (h : fetched.IsCountedAs name label) : label = unknownLabel ∨ label = name := by
  rcases h with - | - | - | -
  · exact .inr rfl
  · exact .inl rfl
  · exact .inr rfl
  · unfold failureLabel
    split_ifs
    · exact .inl rfl
    · exact .inr rfl

/-- Evaluations are counted under the names that requests evaluate, but for those that the catalog does
not have.  The labels stay with that of unknown names and the names of features that were there exactly
if the names do that are counted where no catalog can be fetched, as they are if the errors of the fetches have
all texts. -/
theorem featureLabels_run (service : Service) (es : List Exchange) :
    (∀ label, label ∈ (service.run (.fresh service.name) es).2.featureLabels ↔
      ∃ e ∈ es, ∃ name,
        service.evaluated? e.request = some name ∧ e.fetched.IsCountedAs name label) ∧
    ((∀ label ∈ (service.run (.fresh service.name) es).2.featureLabels,
        label = unknownLabel ∨ service.IsKnown es label) ↔
      ∀ e ∈ es, ∀ name cause,
        service.evaluated? e.request = some name → e.fetched.outcome = .error cause →
          e.fetched.IsCountedAs name name → name = unknownLabel ∨ service.IsKnown es name) := by
  have hlabels : ∀ label, label ∈ (service.run (.fresh service.name) es).2.featureLabels ↔
      ∃ e ∈ es, ∃ name,
        service.evaluated? e.request = some name ∧ e.fetched.IsCountedAs name label := by
    intro label
    rw [mem_featureLabels_run]
    simp [Metrics.fresh, Metrics.featureLabels]
  refine ⟨hlabels, fun h e he name _ hname _ hcounted => ?_, fun h label hlabel => ?_⟩
  · exact h name ((hlabels name).mpr ⟨e, he, name, hname, hcounted⟩)
  · obtain ⟨e, he, name, hname, hcounted⟩ := (hlabels label).mp hlabel
    cases hfetched : e.fetched.outcome with
    | ok catalog => exact eq_or_isKnown_of_isCountedAs he hname hfetched hcounted
    | error cause =>
        rcases eq_or_eq_of_isCountedAs hcounted with rfl | rfl
        · exact .inl rfl
        · exact h e he label cause hname hfetched hcounted

/-- A request that evaluates a name while the file of the catalog is not there. -/
def strayExchange : Exchange where
  request := ⟨"POST", "/features/ghost/evaluate".toList, [], []⟩
  fetched := (CatalogFile.ofPath "features.json" "utf-8").fetch .absent
  evaluationTime := .zero false
  requestTime := .zero false
  freshIdentifier := "1"

/-- A name that no catalog has becomes a label. -/
theorem featureLabels_run_stray :
    "ghost" ∈ ((toggles "" .silent).run (.fresh togglesName) [strayExchange]).2.featureLabels ∧
      "ghost" ≠ unknownLabel ∧ ¬ (toggles "" .silent).IsKnown [strayExchange] "ghost" := by
  have hroute : Route.lookup (toggles "" .silent).routes strayExchange.request.method
      strayExchange.request.path = .found .evaluate "ghost" := by decide
  have hname : (toggles "" .silent).evaluated? strayExchange.request = some "ghost" := by
    rw [evaluated?, hroute]
    rfl
  obtain ⟨cause, hcause⟩ : ∃ cause, strayExchange.fetched.outcome = .error cause := ⟨_, rfl⟩
  have hcounted : strayExchange.fetched.IsCountedAs "ghost" "ghost" :=
    .unfetched hcause (CatalogFile.hasTexts_of_fetch hcause)
  refine ⟨?_, by decide, ?_⟩
  · exact mem_featureLabels_run.mpr (.inr ⟨strayExchange, by simp, "ghost", hname, hcounted⟩)
  · rintro ⟨catalog, ⟨e, he, -, hcatalog⟩, -⟩
    obtain rfl := List.mem_singleton.mp he
    cases hcatalog

end Service

end FeatureToggles
