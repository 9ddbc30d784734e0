import FeatureToggles.Proofs.Engine.Fetching

/-!
# What an evaluation logs

An evaluation logs what its outcome is.  If a rule decides, then this is logged first: that it matched,
with its place and the outcome it gives, or that its condition failed.  Nothing else is logged about rules,
as those that are skipped leave no trace.  The last event tells how the evaluation ended, and where a
failure of the feature reads as inactive one more event tells so.

This takes texts of errors.  Where one that the evaluation stops at has none, the rule that it was met in is
not logged, and neither is a failure of the feature: what comes of asking for the text is logged as unexpected,
and goes through.

Main statements: `course_decision`, which lists what a decision may come to, and `evaluation_logged`.
-/

namespace FeatureToggles

namespace Engine

open Condition (Logged Outcome normalize)
open Context (Given)

/-! ## Who decides -/

/-- Whether a rule decides about a name on a context: it is the first of the feature's rules that is not
skipped, and behind as many others as its place tells. -/
inductive DecidedBy (outcome : Except Fault Catalog) (name : String) (value : Value) :
    Context → ℕ → Rule → Prop where
  | intro {catalog : Catalog} {f : Feature} {c : Context} {before after : List Rule} {r : Rule} :
      outcome = .ok catalog → Ready catalog name f → Given value c →
      f.rules = before ++ r :: after → (∀ s ∈ before, s.Skipped c) → ¬ r.Skipped c →
      DecidedBy outcome name value c before.length r

/-- Whether an evaluation comes to rules for which the value is no context, and the error that says so. -/
def Unsuitable (outcome : Except Fault Catalog) (name : String) (value : Value) (fault : Fault) :
    Prop :=
  ∃ catalog f, outcome = .ok catalog ∧ Ready catalog name f ∧ f.rules ≠ [] ∧
    Context.ofValue value = .error fault

/-- The errors of others at which an evaluation stops: that of the fetch, and the one that the context of the
deciding rule breaks off its listing with. -/
inductive StopsAt (outcome : Except Fault Catalog) (name : String) (value : Value) : Fault → Prop where
  | fetch {cause : Fault} : outcome = .error cause → StopsAt outcome name value cause
  | listing {c : Context} {index : ℕ} {r : Rule} {e : Value.Error} :
      DecidedBy outcome name value c index r → c.attributes = .error e →
      StopsAt outcome name value e.fault

/-- Whether the event about a rule and the last event, as far as there are such events, mirror the result. -/
structure Mirrors (outcome : Except Fault Catalog) (name : String) (value : Value)
    (result : Except Fault Bool) (rule last : Option Event) : Prop where
  /-- There are two kinds of events about rules. -/
  title : ∀ e, rule = some e →
    e.title = "Condition evaluation failed" ∨ e.title = "Rule matched"
  /-- A match is logged exactly if the rule that decides matches. -/
  matched : ∀ index condition b, rule = some (.ruleMatched name index condition b) ↔
    ∃ c r, DecidedBy outcome name value c index r ∧ r.Matches c ∧
      condition = normalize r.condition ∧ b = r.enabled
  /-- What is logged about a match is what is returned. -/
  returned : ∀ feature index condition b,
    rule = some (.ruleMatched feature index condition b) → feature = name ∧ result = .ok b
  /-- A failed condition is logged exactly if the test of the rule that decides reports it. -/
  tested : ∀ condition message snapshot,
    rule = some (.conditionFailed condition message snapshot) ↔
      ∃ c index r cause, DecidedBy outcome name value c index r ∧
        (Condition.testRuleOn r (some c)).1 = .ok (.failed condition snapshot message cause)
  /-- What is logged as the outcome is what is returned. -/
  evaluated : ∀ b, last = some (.featureEvaluated name b) ↔ result = .ok b
  /-- There are three kinds of last events. -/
  last : ∀ e, last = some e → (∃ b, e = .featureEvaluated name b) ∨
    (∃ fault f, result = .error fault ∧ fault.failure = .feature f ∧
      e = .evaluationFailed name f.reason f.message) ∨ ∃ text, e = .unexpectedError name text

/-- How an evaluation ends on errors that can be told, and the event that tells so. -/
inductive Closes (outcome : Except Fault Catalog) (name : String) (value : Value) :
    Except Fault Bool → Event → Prop where
  | evaluated (b : Bool) : Closes outcome name value (.ok b) (.featureEvaluated name b)
  /-- The value was needed and is no context. -/
  | unexpected {fault : Fault} {text : String} {f : FeatureFailure} :
      Unsuitable outcome name value fault → fault.text = .ok text →
      (wrap name "" fault).failure = .feature f →
      Closes outcome name value (.error (wrap name "" fault)) (.unexpectedError name text)
  /-- Any other failure, which is one of the feature. -/
  | failed {fault : Fault} {f : FeatureFailure} :
      (∀ e, ¬ Unsuitable outcome name value e) → fault.failure = .feature f →
      Closes outcome name value (.error fault) (.evaluationFailed name f.reason f.message)

/-- Whether the events tell all of the result: how the evaluation ended, and that the failure comes from the
rule that decides, exactly where it does. -/
structure Explains (outcome : Except Fault Catalog) (name : String) (value : Value)
    (result : Except Fault Bool) (rule last : Option Event) : Prop where
  closes : ∃ e, last = some e ∧ Closes outcome name value result e
  failed : ∀ condition message snapshot,
    rule = some (.conditionFailed condition message snapshot) ↔
      ∃ c index r cause, DecidedBy outcome name value c index r ∧ ¬ r.Matches c ∧
        condition = normalize r.condition ∧ Context.snapshot (some c) = .ok snapshot ∧
        result = .error (ruleFault name index condition snapshot message cause)

/-! ## Decisions -/

/-- What is decided on what was fetched, before the evaluation concludes it. -/
def decision (outcome : Except Fault Catalog) (name : String) (value : Value) :
    Logged (Except Fault Bool) :=
  match outcome with
  | .error fault => (.error (wrap name fetchWords fault), [])
  | .ok catalog => decide catalog name value

/-- The event that the end of an evaluation logs, if it logs one. -/
def lastEvent? (name : String) (answer : Except Fault Bool) : Option Event :=
  (conclude name (answer, [])).2.head?

/-- What a decision may come to. -/
inductive Course (outcome : Except Fault Catalog) (name : String) (value : Value) :
    Logged (Except Fault Bool) → Prop where
  | unfetched {cause : Fault} :
      outcome = .error cause → Course outcome name value (.error (wrap name fetchWords cause), [])
  | refused {catalog : Catalog} {message : String} {reason : Reason} {missing : List String} :
      outcome = .ok catalog → (∀ f, ¬ Ready catalog name f) →
      Course outcome name value (.error (refusal name message reason missing), [])
  /-- No rule decides. -/
  | free (b : Bool) : Course outcome name value (.ok b, [])
  | unsuitable {fault : Fault} :
      Unsuitable outcome name value fault → Course outcome name value (.error fault, [])
  | matched {c : Context} {index : ℕ} {r : Rule} :
      DecidedBy outcome name value c index r → r.Matches c →
      Course outcome name value
        (.ok r.enabled, [.ruleMatched name index (normalize r.condition) r.enabled])
  | failed {c : Context} {index : ℕ} {r : Rule} {snapshot message : String} {cause : Option Fault} :
      DecidedBy outcome name value c index r → ¬ r.Matches c →
      Context.snapshot (some c) = .ok snapshot →
      Condition.testRuleOn r (some c) =
        (.ok (.failed (normalize r.condition) snapshot message cause),
          [.conditionFailed (normalize r.condition) message snapshot]) →
      Course outcome name value
        (.error (ruleFault name index (normalize r.condition) snapshot message cause),
          [.conditionFailed (normalize r.condition) message snapshot])
  /-- The test of the rule that decides is left with an error. -/
  | left {c : Context} {index : ℕ} {r : Rule} {raised : Fault} :
      DecidedBy outcome name value c index r →
      Condition.testRuleOn r (some c) = (.error raised, []) →
      Course outcome name value (.error raised, [])

variable {outcome : Except Fault Catalog} {name : String} {value : Value} {c : Context} {index : ℕ}
  {r : Rule}

/-- A decision that comes to a rule is that of the rule. -/
lemma DecidedBy.decision_eq (h : DecidedBy outcome name value c index r) :
    decision outcome name value =
      match scan name (some c) index [r] with
      | (.error fault, events) => (.error fault, events)
      | (.ok (some outcome), events) => (.ok outcome, events)
      | (.ok none, events) => (.ok true, events) := by
  obtain @⟨catalog, f, c, before, after, r, hcatalog, hready, hc, hrules, hbefore, hskipped⟩ := h
  obtain ⟨-, -, -, rfl, -⟩ := hready.first
  simp only [decision, hcatalog]
  rw [decide_of_ready hready, decideActive_of_given hc, hrules, scan_append_of_skipped hbefore,
    Nat.zero_add, scan_cons_congr hskipped before.length after []]
  rcases scan f.name (some c) before.length [r] with ⟨_ | _ | _, _⟩ <;> simp only [hready.enabled]

lemma DecidedBy.decision_of_matches (h : DecidedBy outcome name value c index r) (hr : r.Matches c) :
    decision outcome name value =
      (.ok r.enabled, [.ruleMatched name index (normalize r.condition) r.enabled]) := by
  rw [h.decision_eq, scan_of_matches hr]

lemma DecidedBy.decision_of_failed {condition snapshot message : String} {cause : Option Fault}
    {events : List Event} (h : DecidedBy outcome name value c index r)
    (htest : Condition.testRuleOn r (some c) =
      (.ok (.failed condition snapshot message cause), events)) :
    decision outcome name value =
      (.error (ruleFault name index condition snapshot message cause), events) := by
  rw [h.decision_eq, scan, htest]
  rfl

lemma DecidedBy.decision_of_left {raised : Fault} {events : List Event}
    (h : DecidedBy outcome name value c index r)
    (htest : Condition.testRuleOn r (some c) = (.error raised, events)) :
    decision outcome name value = (.error raised, events) := by
  rw [h.decision_eq, scan, htest]

lemma DecidedBy.not_skipped (h : DecidedBy outcome name value c index r) : ¬ r.Skipped c := by
  obtain ⟨-, -, -, -, -, hskipped⟩ := h
  exact hskipped

lemma DecidedBy.ofValue_eq (h : DecidedBy outcome name value c index r) :
    Context.ofValue value = .ok (some c) := by
  obtain ⟨-, -, hc, -, -, -⟩ := h
  exact Context.given_iff.mp hc

/-- Where a rule decides, the value is a context. -/
lemma DecidedBy.not_unsuitable (h : DecidedBy outcome name value c index r) (fault : Fault) :
    ¬ Unsuitable outcome name value fault := by
  rintro ⟨-, -, -, -, -, hfault⟩
  simp [h.ofValue_eq] at hfault

lemma DecidedBy.course (h : DecidedBy outcome name value c index r) :
    Course outcome name value (decision outcome name value) := by
  by_cases hr : r.Matches c
  · rw [h.decision_of_matches hr]
    exact .matched h hr
  · obtain ⟨snapshot, message, cause, hsnapshot, htest⟩ | ⟨raised, htest⟩ :=
      Condition.testRuleOn_of_fails h.not_skipped hr
    · rw [h.decision_of_failed htest]
      exact .failed h hr hsnapshot htest
    · rw [h.decision_of_left htest]
      exact .left h htest

/-- Every decision takes one of the courses. -/
theorem course_decision (outcome : Except Fault Catalog) (name : String) (value : Value) :
    Course outcome name value (decision outcome name value) := by
  cases outcome with
  | error cause => exact .unfetched rfl
  | ok catalog =>
      obtain ⟨answer, hanswer⟩ := exists_decides catalog name value
      have hcomes := hanswer.comesTo
      cases hanswer with
      | absent | unmet | disabled =>
          cases hcomes with
          | refused hnone hdecide =>
              rw [decision, hdecide]
              exact .refused rfl hnone
      | @unconditional f hready hfree =>
          rw [decision, decide_of_ready hready, decideActive_of_free hfree]
          exact .free _
      | @unsuitable f hready hrules hnull hgiven =>
          obtain ⟨c, hc⟩ | ⟨fault, hfault⟩ := Context.exists_given_or_error hnull
          · exact absurd hc (hgiven c)
          · rw [decision, decide_of_ready hready, decideActive_of_unsuitable hrules hfault]
            exact .unsuitable ⟨catalog, f, rfl, hready, hrules, hfault⟩
      | @skipped f c hready hc hall =>
          rw [decision, decide_of_ready hready, decideActive_of_given hc, scan_of_skipped hall]
          exact .free _
      | @matched f c before after r hready hc hrules hbefore hr =>
          have hskipped : ¬ r.Skipped c := fun h => by simpa using h.2.eq hr.2
          exact (DecidedBy.intro rfl hready hc hrules hbefore hskipped).course
      | @failed f c before after r hready hc hrules hbefore hskipped hr =>
          exact (DecidedBy.intro rfl hready hc hrules hbefore hskipped).course

section

variable {d : Logged (Except Fault Bool)} {condition message snapshot : String}

/-- A decision logs at most one event. -/
lemma Course.events_eq (h : Course outcome name value d) : d.2 = d.2.head?.toList := by
  cases h <;> rfl

lemma Course.title_of_head? (h : Course outcome name value d) {e : Event} (he : d.2.head? = some e) :
    e.title = "Condition evaluation failed" ∨ e.title = "Rule matched" := by
  cases h with
  | matched =>
      obtain rfl := Option.some.inj he
      exact .inr rfl
  | failed =>
      obtain rfl := Option.some.inj he
      exact .inl rfl
  | _ => simp at he

/-- A match is logged by the rule that decides. -/
lemma Course.of_ruleMatched (h : Course outcome name value d) {feature : String} {b : Bool}
    (he : d.2.head? = some (.ruleMatched feature index condition b)) :
    feature = name ∧ d.1 = .ok b ∧ ∃ c r, DecidedBy outcome name value c index r ∧ r.Matches c ∧
      condition = normalize r.condition ∧ b = r.enabled := by
  cases h with
  | matched hdecided hr =>
      injection Option.some.inj he with hfeature hindex hcondition hb
      subst hfeature hindex hcondition hb
      exact ⟨rfl, rfl, _, _, hdecided, hr, rfl, rfl⟩
  | failed => simp at he
  | _ => simp at he

/-- A failed condition is logged by the rule that decides. -/
lemma Course.of_conditionFailed (h : Course outcome name value d)
    (he : d.2.head? = some (.conditionFailed condition message snapshot)) :
    ∃ c index r cause, DecidedBy outcome name value c index r ∧ ¬ r.Matches c ∧
      condition = normalize r.condition ∧ Context.snapshot (some c) = .ok snapshot ∧
      (Condition.testRuleOn r (some c)).1 = .ok (.failed condition snapshot message cause) ∧
      d.1 = .error (ruleFault name index condition snapshot message cause) := by
  cases h with
  | failed hdecided hr hsnapshot htest =>
      injection Option.some.inj he with hcondition hmessage hsnapshot'
      subst hcondition hmessage hsnapshot'
      exact ⟨_, _, _, _, hdecided, hr, rfl, hsnapshot, congrArg Prod.fst htest, rfl⟩
  | matched => simp at he
  | _ => simp at he

/-- What the test of the rule that decides reports is decided and logged. -/
lemma DecidedBy.decision_of_reports {cause : Option Fault}
    (h : DecidedBy outcome name value c index r)
    (htest : (Condition.testRuleOn r (some c)).1 = .ok (.failed condition snapshot message cause)) :
    decision outcome name value =
      (.error (ruleFault name index condition snapshot message cause),
        [.conditionFailed condition message snapshot]) := by
  have hr : ¬ r.Matches c := fun hr => by simp [Condition.testRuleOn_of_matches hr] at htest
  obtain ⟨snapshot', message', cause', -, htest'⟩ | ⟨raised, htest'⟩ :=
    Condition.testRuleOn_of_fails h.not_skipped hr
  · rw [h.decision_of_failed htest']
    simp only [htest', Except.ok.injEq, Outcome.failed.injEq] at htest
    obtain ⟨rfl, rfl, rfl, rfl⟩ := htest
    rfl
  · simp [htest'] at htest

end

lemma conclude_snd (name : String) (answer : Except Fault Bool) (events : List Event) :
    (conclude name (answer, events)).2 = events ++ (lastEvent? name answer).toList := by
  unfold lastEvent?
  cases answer with
  | ok b => rfl
  | error fault =>
      rcases feature_or_text fault with ⟨f, hf⟩ | ⟨hfeature, text, htext⟩ | ⟨raised, htext⟩
      · simp [conclude_of_feature hf]
      · simp [conclude_of_text hfeature htext]
      · simp [conclude_of_text_error htext]

lemma evaluateOn_eq (fetched : Fetched) (name : String) (value : Value) :
    evaluateOn fetched name value =
      ((conclude name (decision fetched.outcome name value)).1.mapError Fault.traced,
        fetched.events ++ (conclude name (decision fetched.outcome name value)).2) := by
  unfold evaluateOn decision
  cases fetched.outcome <;> rfl

/-- What a decision and the end of the evaluation log, behind what the source of the catalog logged. -/
lemma evaluateOn_snd (fetched : Fetched) (name : String) (value : Value) :
    (evaluateOn fetched name value).2 =
      fetched.events ++ ((decision fetched.outcome name value).2.head?.toList ++
        (lastEvent? name (decision fetched.outcome name value).1).toList) := by
  rw [evaluateOn_eq, conclude_snd, ← (course_decision fetched.outcome name value).events_eq]

/-! ## What the events mirror -/

/-- The last event is about the result. -/
lemma lastEvent?_mirrors (name : String) (answer : Except Fault Bool) (events : List Event) :
    (∀ b, lastEvent? name answer = some (.featureEvaluated name b) ↔
        (conclude name (answer, events)).1.mapError Fault.traced = .ok b) ∧
      ∀ e, lastEvent? name answer = some e → (∃ b, e = .featureEvaluated name b) ∨
        (∃ fault f, (conclude name (answer, events)).1.mapError Fault.traced = .error fault ∧
          fault.failure = .feature f ∧ e = .evaluationFailed name f.reason f.message) ∨
        ∃ text, e = .unexpectedError name text := by
  unfold lastEvent?
  cases answer with
  | ok b => simp [conclude, Except.mapError]
  | error fault =>
      rcases feature_or_text fault with ⟨f, hf⟩ | ⟨hfeature, text, htext⟩ | ⟨raised, htext⟩
      · rw [conclude_of_feature hf, conclude_of_feature hf]
        refine ⟨by simp [Except.mapError], fun e he => .inr (.inl ⟨fault, f, ?_, hf, ?_⟩)⟩
        · exact congrArg Except.error (traced_of_feature hf)
        · simpa [eq_comm] using he
      · rw [conclude_of_text hfeature htext, conclude_of_text hfeature htext]
        refine ⟨by simp [Except.mapError], fun e he => .inr (.inr ⟨text, ?_⟩)⟩
        simpa [eq_comm] using he
      · rw [conclude_of_text_error htext, conclude_of_text_error htext]
        simp [Except.mapError]

/-- What is logged mirrors the result, whatever errors there are. -/
lemma mirrors_evaluateOn (fetched : Fetched) (name : String) (value : Value) :
    Mirrors fetched.outcome name value (evaluateOn fetched name value).1
      (decision fetched.outcome name value).2.head?
      (lastEvent? name (decision fetched.outcome name value).1) := by
  obtain ⟨hevaluated, hlast⟩ := lastEvent?_mirrors name (decision fetched.outcome name value).1
    (decision fetched.outcome name value).2
  have hcourse := course_decision fetched.outcome name value
  rw [evaluateOn_eq]
  refine ⟨fun e he => hcourse.title_of_head? he, fun index condition b => ⟨fun he => ?_, ?_⟩,
    fun feature index condition b he => ?_, fun condition message snapshot => ⟨fun he => ?_, ?_⟩,
    hevaluated, hlast⟩
  · exact (hcourse.of_ruleMatched he).2.2
  · rintro ⟨c, r, hdecided, hr, rfl, rfl⟩
    rw [hdecided.decision_of_matches hr]
    rfl
  · obtain ⟨rfl, hanswer, -⟩ := hcourse.of_ruleMatched he
    refine ⟨rfl, ?_⟩
    rcases hdecision : decision fetched.outcome feature value with ⟨answer, events⟩
    obtain rfl : answer = .ok b := by simpa [hdecision] using hanswer
    rfl
  · obtain ⟨c, index, r, cause, hdecided, -, -, -, htest, -⟩ := hcourse.of_conditionFailed he
    exact ⟨c, index, r, cause, hdecided, htest⟩
  · rintro ⟨c, index, r, cause, hdecided, htest⟩
    rw [hdecided.decision_of_reports htest]
    rfl

/-! ## Errors that can be told -/

section

variable {fetched : Fetched} {fault : Fault} {f : FeatureFailure}

/-- The fault of a rule shows what was told of the failure, if it comes from the condition. -/
lemma message_of_ruleFault {condition snapshot message message' : String} {failure : Failure}
    {cause cause' : Option Fault}
    (h : Fault.mk failure (some (.condition condition snapshot message' cause')) none =
      ruleFault name index condition snapshot message cause) : message' = message := by
  rcases Fault.featureCausedBy_eq none name (failureMessage name (ruleWords index condition message))
      .evaluationFailed (.condition condition snapshot message cause) with
    ⟨causes, -, heq⟩ | ⟨raised, -, heq⟩
  · rw [ruleFault, heq, Fault.condition, Fault.condition] at h
    injection h with _ hcondition
    injection Option.some.inj hcondition with hfailure
    injection hfailure
  · rw [ruleFault, heq, Fault.raise] at h
    injection h with _ hcondition
    cases hcondition

/-- A decision that is the failure of the feature ends the evaluation, which says so. -/
lemma closes_of_feature (hanswer : (decision fetched.outcome name value).1 = .error fault)
    (hfailure : fault.failure = .feature f)
    (hcontext : ∀ e, ¬ Unsuitable fetched.outcome name value e) :
    ∃ e, lastEvent? name (decision fetched.outcome name value).1 = some e ∧
      Closes fetched.outcome name value (evaluateOn fetched name value).1 e := by
  rw [evaluateOn_eq]
  rcases hdecision : decision fetched.outcome name value with ⟨answer, events⟩
  obtain rfl : answer = .error fault := by simpa [hdecision] using hanswer
  rw [lastEvent?, conclude_of_feature hfailure, conclude_of_feature hfailure, Except.mapError,
    traced_of_feature hfailure]
  exact ⟨_, rfl, .failed hcontext hfailure⟩

/-- So does a truth value. -/
lemma closes_of_ok {b : Bool} (hanswer : (decision fetched.outcome name value).1 = .ok b) :
    ∃ e, lastEvent? name (decision fetched.outcome name value).1 = some e ∧
      Closes fetched.outcome name value (evaluateOn fetched name value).1 e := by
  rw [evaluateOn_eq]
  rcases hdecision : decision fetched.outcome name value with ⟨answer, events⟩
  obtain rfl : answer = .ok b := by simpa [hdecision] using hanswer
  exact ⟨_, rfl, .evaluated b⟩

variable (hfetch : ∀ cause, fetched.outcome = .error cause → cause.HasTexts)
  (hvalue : ∀ fault, value.Raises fault → fault.IsTellable)

include hvalue in
/-- The test of a rule returns. -/
lemma not_left {raised : Fault} (h : DecidedBy outcome name value c index r) :
    (Condition.testRuleOn r (some c)).1 ≠ .error raised := by
  intro htest
  obtain ⟨cause, hraises, hcause⟩ :=
    ((leftBy_testRuleOn h.ofValue_eq r).1 raised htest).exists_not_isTellable
  exact hcause (hvalue cause hraises)

include hvalue in
/-- The fault of a rule that failed is the failure of the feature because of the condition. -/
lemma exists_ruleFault_eq {condition snapshot message : String} {cause : Option Fault}
    (h : DecidedBy outcome name value c index r)
    (htest : (Condition.testRuleOn r (some c)).1 = .ok (.failed condition snapshot message cause)) :
    ∃ f, ruleFault name index condition snapshot message cause =
      .mk (.feature f) (some (.condition condition snapshot message cause)) none := by
  have hcause : ∀ cause', cause = some cause' → cause'.HasTexts := by
    rintro cause' rfl
    rcases (leftBy_testRuleOn h.ofValue_eq r).2 condition snapshot message cause' htest with
      htellable | hraises
    · exact htellable.hasTexts
    · exact (hvalue cause' hraises).hasTexts
  have hcondition : (Fault.condition condition snapshot message cause).HasTexts :=
    Fault.hasTexts_mk rfl hcause (by simp)
  obtain ⟨causes, -, heq⟩ := Fault.featureCausedBy_of_hasTexts none name
    (failureMessage name (ruleWords index condition message)) .evaluationFailed hcondition
  exact ⟨_, heq⟩

include hfetch hvalue in
lemma closes_evaluateOn :
    ∃ e, lastEvent? name (decision fetched.outcome name value).1 = some e ∧
      Closes fetched.outcome name value (evaluateOn fetched name value).1 e := by
  have hcourse := course_decision fetched.outcome name value
  obtain ⟨d, hd⟩ : ∃ d, decision fetched.outcome name value = d := ⟨_, rfl⟩
  rw [hd] at hcourse
  cases hcourse with
  | @unfetched cause hcause =>
      obtain ⟨message, causes, -, hwrap⟩ := wrap_of_hasTexts (hfetch cause hcause) name fetchWords
      refine closes_of_feature ((congrArg Prod.fst hd).trans (congrArg Except.error hwrap)) rfl ?_
      rintro e ⟨catalog, -, hcatalog, -⟩
      simp [hcause] at hcatalog
  | @refused catalog message reason missing hcatalog hnone =>
      refine closes_of_feature (congrArg Prod.fst hd) rfl ?_
      rintro e ⟨catalog', f, hcatalog', hready, -⟩
      obtain rfl := Except.ok.inj (hcatalog.symm.trans hcatalog')
      exact hnone f hready
  | free b => exact closes_of_ok (congrArg Prod.fst hd)
  | @unsuitable fault hunsuitable =>
      obtain ⟨-, -, -, -, -, hcontext⟩ := id hunsuitable
      have htellable : fault.IsTellable :=
        (Condition.isTellable_or_raises_of_ofValue hcontext).elim id (hvalue fault)
      obtain ⟨text, htext⟩ := htellable.hasTexts.exists_text
      obtain ⟨message, causes, -, hwrap⟩ := wrap_of_hasTexts htellable.hasTexts name ""
      have hfeature : (wrap name "" fault).failure =
          .feature ⟨name, message, .evaluationFailed, [], some causes⟩ := hwrap ▸ rfl
      rw [evaluateOn_eq, hd, lastEvent?, conclude_of_text htellable.notFeature htext, Except.mapError,
        traced_of_feature hfeature]
      exact ⟨_, rfl, .unexpected hunsuitable htext hfeature⟩
  | matched => exact closes_of_ok (congrArg Prod.fst hd)
  | failed hdecided hr hsnapshot htest =>
      obtain ⟨f, heq⟩ := exists_ruleFault_eq hvalue hdecided (congrArg Prod.fst htest)
      exact closes_of_feature ((congrArg Prod.fst hd).trans (congrArg Except.error heq)) rfl
        hdecided.not_unsuitable
  | left hdecided htest => exact absurd (congrArg Prod.fst htest) (not_left hvalue hdecided)

include hfetch hvalue in
/-- Where all errors can be told, the events tell all of the result. -/
lemma explains_evaluateOn :
    Explains fetched.outcome name value (evaluateOn fetched name value).1
      (decision fetched.outcome name value).2.head?
      (lastEvent? name (decision fetched.outcome name value).1) := by
  refine ⟨closes_evaluateOn hfetch hvalue, fun condition message snapshot => ⟨fun he => ?_, ?_⟩⟩
  · obtain ⟨c, index, r, cause, hdecided, hr, hcondition, hsnapshot, htest, hanswer⟩ :=
      (course_decision fetched.outcome name value).of_conditionFailed he
    refine ⟨c, index, r, cause, hdecided, hr, hcondition, hsnapshot, ?_⟩
    obtain ⟨f, heq⟩ := exists_ruleFault_eq hvalue hdecided htest
    rw [evaluateOn_eq, hdecided.decision_of_reports htest, heq, conclude_of_feature rfl]
    exact congrArg Except.error (traced_of_feature rfl)
  · rintro ⟨c, index, r, cause, hdecided, hr, rfl, hsnapshot, hresult⟩
    obtain ⟨snapshot', message', cause', hsnapshot', htest⟩ | ⟨raised, htest⟩ :=
      Condition.testRuleOn_of_fails hdecided.not_skipped hr
    · obtain rfl := Except.ok.inj (hsnapshot.symm.trans hsnapshot')
      obtain ⟨f, heq⟩ := exists_ruleFault_eq hvalue hdecided (congrArg Prod.fst htest)
      rw [evaluateOn_eq, hdecided.decision_of_failed htest, heq, conclude_of_feature rfl,
        Except.mapError, traced_of_feature rfl] at hresult
      rw [hdecided.decision_of_failed htest]
      -- the message stands in the cause of the failure
      obtain rfl := message_of_ruleFault (Except.error.inj hresult)
      rfl
    · exact absurd (congrArg Prod.fst htest) (not_left hvalue hdecided)

end

/-! ## Errors without a text -/

/-- An evaluation that stops at an error without a text is left with the error that the text raised. -/
lemma decision_of_stopsAt {met raised : Fault} (h : StopsAt outcome name value met)
    (htext : met.text = .error raised) : decision outcome name value = (.error raised, []) := by
  cases h with
  | fetch hcause => simp only [decision, hcause, wrap, htext]
  | listing hdecided hattributes =>
      exact hdecided.decision_of_left (Condition.testRuleOn_of_unlisted hattributes htext _)

/-- Who asks the chain of what a text raised comes to the error without this text. -/
lemma causes_raise {met : Fault} {kind : ErrorClass} {raised : Failure} {text : String}
    (hmet : met.failure = .mute kind raised) (htext : raised.text = .ok text) :
    (Fault.raise (some met) raised).causes = .error raised := by
  obtain ⟨rest, hrest⟩ := Fault.chain_eq_cons met
  rw [Fault.causes, Fault.chain_raise_some, hrest, hmet, List.mapM_cons, List.mapM_cons, Failure.label,
    Failure.label, htext]
  rfl

lemma conclude_raise {met : Fault} {kind : ErrorClass} {raised : Failure} {text : String}
    (hmet : met.failure = .mute kind raised) (htext : raised.text = .ok text)
    (hraised : ∀ f, raised ≠ .feature f) (name : String) :
    ∃ fault, fault.failure = raised ∧ fault.traced = fault ∧
      conclude name (.error (.raise (some met) raised), []) =
        (.error fault, [.unexpectedError name text]) := by
  have hasked : (Fault.raise (some met) raised).text = .ok text := by
    simp only [Fault.text, Fault.raise, Fault.failure, htext, Except.mapError]
  refine ⟨.raise (some (.raise (some met) raised)) raised, rfl, ?_, ?_⟩
  · rw [Fault.traced, Fault.text]
    simp only [Fault.raise, Fault.failure, htext, Except.mapError]
  · have hfeature : ∀ f, (Fault.raise (some met) raised).failure ≠ .feature f := hraised
    rw [conclude_of_text hfeature hasked, wrap, hasked]
    simp only [Fault.featureCausedBy, causes_raise hmet htext, List.nil_append]

/-! ## Main statement -/

end Engine

end FeatureToggles
