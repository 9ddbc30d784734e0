import FeatureToggles.Engine
import FeatureToggles.Proofs.Condition.Raising
import Mathlib.Tactic.Common

/-!
# How evaluations fail

An evaluation fails as a feature, with a fault that is coherent: status, code and details follow from the
reason, and the details list the causes that the caller finds along the chain of the fault.  So a feature that
cannot be evaluated reads as inactive.

That is so as long as the errors which the evaluation meets can be told.  The fetch may fail with any error,
and so may whatever the value of the context asks the caller for.  If such an error has no text, then the
handlers that ask for it are left with another error, which is no failure of the feature.

Main statements: `evaluateOn_fails_coherently`, and `evaluateOn_mute_fetch`, where an error is left over.
-/

namespace FeatureToggles

/-- Whether a fault is the failure of a feature, and the parts of its report belong together. -/
structure Fault.Describes (fault : Fault) (f : FeatureFailure) (report : Failure.Report) :
    Prop where
  failure : fault.failure = .feature f
  reported : fault.failure.report? = some report
  status : report.status = if f.reason = .notFound then 404 else 422
  code : report.code = "FEATURE_" ++ f.reason.name
  /-- Prerequisites are missing for this reason only. -/
  missing : f.missing ≠ [] ↔ f.reason = .dependenciesUnsatisfied
  missingDetail : report.details.get? "missing_dependencies" =
    if f.reason = .dependenciesUnsatisfied then some (Failure.texts f.missing) else none
  /-- Causes are told for this reason only. -/
  causesDetail : report.details.get? "causes" ≠ none ↔ f.reason = .evaluationFailed
  /-- The causes are those that stand behind the fault in its chain. -/
  causes : f.reason = .evaluationFailed → ∃ causes, fault.causes.map List.tail = .ok causes ∧
    causes ≠ [] ∧ report.details.get? "causes" = some (Failure.texts causes)

/-- Whether a fault is the failure of a feature with a report that belongs to it. -/
def Fault.IsCoherent (fault : Fault) : Prop := ∃ f report, fault.Describes f report

/-- Whether a fault is the coherent failure of a feature whose evaluation broke down. -/
def Fault.IsBreakdown (fault : Fault) : Prop :=
  fault.IsCoherent ∧
    ∃ f, fault.failure = .feature f ∧ f.reason = .evaluationFailed ∧ f.missing = []

/-- Whether a fault is what an error that was met is left over as: it comes of asking this error for texts,
or it is this error, and that is the failure of a feature already. -/
def Fault.LeavesOver (met fault : Fault) : Prop :=
  met.Asked fault.failure ∨ (fault = met ∧ ∃ f, met.failure = .feature f)

namespace Engine

open Condition (Logged Outcome)
open Fault (Asked Within raise)

/-- The errors that an evaluation meets and does not make: the one which the fetch failed with, and those
which are raised inside the value of the context. -/
inductive Meets (fetched : Fetched) (value : Value) : Fault → Prop where
  | fetch {cause : Fault} : fetched.outcome = .error cause → Meets fetched value cause
  | value {fault : Fault} : value.Raises fault → Meets fetched value fault

/-! ## The failures that are made -/

lemma status_eq (reason : Reason) : reason.status = if reason = .notFound then 404 else 422 := by
  cases reason <;> rfl

/-- Refusals are coherent if they name the missing prerequisites just where some are missing. -/
lemma isCoherent_refusal {feature message : String} {reason : Reason} {missing : List String}
    (hreason : reason ≠ .evaluationFailed)
    (hmissing : missing ≠ [] ↔ reason = .dependenciesUnsatisfied) :
    (refusal feature message reason missing).IsCoherent := by
  refine ⟨_, _, rfl, rfl, status_eq reason, rfl, hmissing, ?_, ?_, fun h => absurd h hreason⟩
  · by_cases h : missing = []
    · have hnot := mt hmissing.mpr (not_not.mpr h)
      simp [h, hnot, Json.Fields.get?]
    · simp [h, hmissing.mp h, Json.Fields.get?]
  · by_cases h : missing = [] <;> simp [h, hreason, Json.Fields.get?]

/-- Failures with a cause are coherent: they list the chain of the cause. -/
lemma isCoherent_of_causes {feature message : String} {cause : Fault} {causes : List String}
    (h : cause.causes = .ok causes) :
    (Fault.mk (.feature ⟨feature, message, .evaluationFailed, [], some causes⟩) (some cause)
      none).IsCoherent := by
  refine ⟨_, _, rfl, rfl, rfl, rfl, by simp, by simp [Json.Fields.get?], by simp [Json.Fields.get?],
    fun _ => ⟨causes, ?_, ?_, by simp [Json.Fields.get?]⟩⟩
  · rw [Fault.causes_mk rfl h]
    rfl
  · -- the chain of a fault is never empty, so there is at least the cause itself
    rintro rfl
    obtain ⟨rest, hrest⟩ := Fault.chain_eq_cons cause
    rw [Fault.causes, hrest, List.mapM_cons] at h
    cases hlabel : cause.failure.label with
    | error raised => simp [hlabel, bind, Except.bind] at h
    | ok label =>
        cases hlabels : rest.mapM Failure.label <;>
          simp [hlabel, hlabels, bind, Except.bind, pure, Except.pure] at h

lemma isBreakdown_of_causes {feature message : String} {cause : Fault} {causes : List String}
    (h : cause.causes = .ok causes) :
    (Fault.mk (.feature ⟨feature, message, .evaluationFailed, [], some causes⟩) (some cause)
      none).IsBreakdown :=
  ⟨isCoherent_of_causes h, _, rfl, rfl, rfl⟩

/-! ## What handlers make of an error

The cases of a handler are those of its questions: each of them is answered, and then there is a coherent
failure, or it raises another error. -/

/-- A fault that lies within an error which was met, and which came of asking it, or is it. -/
structure Stems (met fault : Fault) : Prop where
  within : Within met fault
  asked : met.Asked fault.failure ∨ fault = met

variable {met fault fault' : Fault} {raised : Failure} {feature words message : String}

lemma Stems.refl (met : Fault) : Stems met met := ⟨.refl met, .inr rfl⟩

/-- What comes of asking a fault is left over of what the fault stems from. -/
lemma Stems.raise (h : Stems met fault) (hraised : fault.Asked raised) :
    Stems met (.raise (some fault) raised) ∧ met.LeavesOver (.raise (some fault) raised) := by
  have hasked := hraised.of_within h.within
  exact ⟨⟨h.within.raise hasked, .inl hasked⟩, .inl hasked⟩

lemma Stems.text (h : Stems met fault) {e : Fault} (he : fault.text = .error e) :
    Stems met e ∧ met.LeavesOver e := by
  obtain ⟨raised, rfl, hraised⟩ := Fault.asked_of_text he
  exact h.raise hraised

/-- A failure of the feature that is made of a fault is coherent, or else something is left over. -/
lemma Stems.featureCausedBy (h : Stems met fault) :
    (Fault.featureCausedBy (some fault) feature message .evaluationFailed fault).IsBreakdown ∨
      (Stems met (Fault.featureCausedBy (some fault) feature message .evaluationFailed fault) ∧
        met.LeavesOver
          (Fault.featureCausedBy (some fault) feature message .evaluationFailed fault)) := by
  rcases Fault.featureCausedBy_eq (some fault) feature message .evaluationFailed fault with
    ⟨causes, hcauses, heq⟩ | ⟨raised, hraised, heq⟩
  · exact .inl (heq ▸ isBreakdown_of_causes hcauses)
  · exact .inr (heq ▸ h.raise hraised)

lemma Stems.wrap (h : Stems met fault) :
    (wrap feature words fault).IsBreakdown ∨
      (Stems met (wrap feature words fault) ∧ met.LeavesOver (wrap feature words fault)) := by
  unfold Engine.wrap
  split
  · exact .inr (h.text ‹_›)
  · exact h.featureCausedBy

/-- With all texts there is a failure of the feature to be made. -/
lemma wrap_of_hasTexts (h : fault.HasTexts) (feature words : String) :
    ∃ message causes, fault.causes = .ok causes ∧ wrap feature words fault =
      .mk (.feature ⟨feature, message, .evaluationFailed, [], some causes⟩) (some fault) none := by
  obtain ⟨text, htext⟩ := h.exists_text
  rw [wrap, htext]
  exact ⟨_, Fault.featureCausedBy_of_hasTexts (some fault) feature
    (failureMessage feature (words ++ text)) .evaluationFailed h⟩

lemma isBreakdown_wrap (h : fault.HasTexts) : (wrap feature words fault).IsBreakdown := by
  obtain ⟨message, causes, hcauses, heq⟩ := wrap_of_hasTexts h feature words
  exact heq ▸ isBreakdown_of_causes hcauses

/-- Without all texts there is none. -/
lemma wrap_of_not_hasTexts (h : ¬ fault.HasTexts) (feature words : String) :
    ∃ raised, fault.Asked raised ∧ wrap feature words fault = raise (some fault) raised := by
  unfold wrap
  split
  · rename_i e he
    obtain ⟨raised, rfl, hraised⟩ := Fault.asked_of_text he
    exact ⟨raised, hraised, rfl⟩
  · rename_i text htext
    rcases Fault.featureCausedBy_eq (some fault) feature (failureMessage feature (words ++ text))
      .evaluationFailed fault with ⟨causes, hcauses, -⟩ | ⟨raised, hraised, heq⟩
    · exact absurd ((Fault.hasTexts_iff fault).mpr ⟨causes, hcauses⟩) h
    · exact ⟨raised, hraised, heq⟩

/-- Nothing is left over of an error that can be told. -/
lemma not_leavesOver_of_isTellable (h : met.IsTellable) : ¬ met.LeavesOver fault := by
  rintro (hasked | ⟨-, f, hf⟩)
  · exact h.hasTexts.not_asked hasked
  · exact h.notFeature f hf

/-! ## The rules -/

/-- Whether a result fails by a breakdown, by an error that can be told, or by one that stems from an error
which was met. -/
def Ends {α : Type} (met : Fault → Prop) (r : Except Fault α) : Prop :=
  ∀ fault, r = .error fault →
    fault.IsBreakdown ∨ fault.IsTellable ∨ ∃ cause, met cause ∧ Stems cause fault

lemma ends_ok {α : Type} {met : Fault → Prop} (a : α) : Ends met (.ok a) := by
  simp [Ends]

lemma ends_error {α : Type} {met : Fault → Prop}
    (h : fault.IsBreakdown ∨ fault.IsTellable ∨ ∃ cause, met cause ∧ Stems cause fault) :
    Ends met (.error fault : Except Fault α) := by
  rintro fault' heq
  obtain rfl := Except.error.inj heq
  exact h

variable {value : Value} {context : Option Context}

/-- Whether an error is left over of one that was raised inside a value. -/
def LeftBy (value : Value) (fault : Fault) : Prop :=
  ∃ cause, value.Raises cause ∧ Stems cause fault ∧ cause.LeavesOver fault

lemma LeftBy.ends (h : LeftBy value fault) {α : Type} :
    Ends value.Raises (.error fault : Except Fault α) := by
  obtain ⟨cause, hraises, hstems, -⟩ := h
  exact ends_error (.inr (.inr ⟨cause, hraises, hstems⟩))

/-- Nothing is left over where all errors that are raised inside the value can be told. -/
lemma LeftBy.exists_not_isTellable (h : LeftBy value fault) :
    ∃ cause, value.Raises cause ∧ ¬ cause.IsTellable := by
  obtain ⟨cause, hraises, -, hleft⟩ := h
  exact ⟨cause, hraises, fun htellable => not_leavesOver_of_isTellable htellable hleft⟩

/-- Who asks an error of a condition for its text is left with something only if the error was raised inside
the value. -/
lemma leftBy_of_text (h : fault.IsTellable ∨ value.Raises fault) {e : Fault}
    (he : fault.text = .error e) : LeftBy value e := by
  rcases h with htellable | hraises
  · obtain ⟨text, htext⟩ := htellable.hasTexts.exists_text
    simp [htext] at he
  · exact ⟨fault, hraises, (Stems.refl fault).text he⟩

lemma leftBy_of_snapshot (hcontext : Context.ofValue value = .ok context) {e : Fault}
    (h : Context.snapshot context = .error e) : LeftBy value e := by
  obtain ⟨c, e', rfl, hattributes, htext⟩ := Context.snapshot_eq_error_iff.mp h
  exact leftBy_of_text (Condition.isTellable_or_raises_of_attributes hcontext hattributes) htext

/-- A failure is reported with the error that it was told, unless the context is not shown. -/
lemma leftBy_failure (hcontext : Context.ofValue value = .ok context) (condition message : String)
    (cause : Option Fault) :
    (∀ e, (Condition.failure condition context message cause).1 = .error e → LeftBy value e) ∧
      ∀ condition' snapshot message' cause', (Condition.failure condition context message cause).1 =
        .ok (.failed condition' snapshot message' cause') → cause' = cause := by
  cases hsnapshot : Context.snapshot context with
  | ok snapshot =>
      rw [Condition.failure_of_snapshot hsnapshot]
      refine ⟨by simp, fun condition' snapshot' message' cause' h => ?_⟩
      injection h with h
      injection h with _ _ _ hcause
      exact hcause.symm
  | error e =>
      rw [Condition.failure_of_snapshot_error hsnapshot]
      refine ⟨fun e' he => ?_, by simp⟩
      obtain rfl := Except.error.inj he
      exact leftBy_of_snapshot hcontext hsnapshot

/-- What a test of a rule is left with was raised inside the value, or asked for there; and the errors which it
reports were raised inside the value or can be told. -/
lemma leftBy_testRuleOn (hcontext : Context.ofValue value = .ok context) (rule : Rule) :
    (∀ e, (Condition.testRuleOn rule context).1 = .error e → LeftBy value e) ∧
      ∀ condition snapshot message cause,
        (Condition.testRuleOn rule context).1 = .ok (.failed condition snapshot message (some cause)) →
          cause.IsTellable ∨ value.Raises cause := by
  unfold Condition.testRuleOn
  split
  · obtain ⟨hleft, hcause⟩ := leftBy_failure hcontext (Condition.normalize rule.condition)
      (Condition.disabledMessage (Condition.normalize rule.condition)) none
    exact ⟨hleft, fun _ _ _ cause h => absurd (hcause _ _ _ _ h) (by simp)⟩
  · cases hholds : Condition.holds (Condition.normalize rule.condition) context with
    | ok b =>
        simp only [Condition.testOn, hholds]
        cases b <;> simp
    | error fault =>
        have hfault := Condition.isTellable_or_raises_of_holds hcontext hholds
        cases htext : fault.text with
        | error e =>
            rw [Condition.testOn_of_explain_error hholds (Condition.explain_of_text_error htext)]
            refine ⟨fun e' he => ?_, by simp⟩
            obtain rfl := Except.error.inj he
            exact leftBy_of_text hfault htext
        | ok text =>
            obtain ⟨message, hexplain⟩ := Condition.exists_explain_of_text htext
            rw [Condition.testOn_of_explain hholds hexplain]
            obtain ⟨hleft, hcause⟩ := leftBy_failure hcontext (Condition.normalize rule.condition)
              message (some fault)
            refine ⟨hleft, fun _ _ _ cause h => ?_⟩
            obtain rfl := Option.some.inj (hcause _ _ _ _ h)
            exact hfault

/-- What comes of asking the fault of a condition comes of asking the error behind it. -/
lemma exists_asked_of_condition {condition snapshot message : String} {cause : Option Fault}
    (h : (Fault.condition condition snapshot message cause).Asked raised) :
    ∃ cause', cause = some cause' ∧ cause'.Asked raised := by
  induction h with
  | @link g raised hg htext =>
      cases cause with
      | none =>
          obtain rfl : g = .condition condition snapshot message := by
            simpa [Fault.condition, Fault.chain] using hg
          cases htext
      | some cause =>
          rw [Fault.condition, Fault.chain] at hg
          rcases List.mem_cons.mp hg with rfl | hg
          · cases htext
          · exact ⟨cause, rfl, .link hg htext⟩
  | again _ htext ih =>
      obtain ⟨cause', rfl, hasked⟩ := ih
      exact ⟨cause', rfl, .again hasked htext⟩

lemma ends_scan (hcontext : Context.ofValue value = .ok context) (index : Nat) (rules : List Rule) :
    Ends value.Raises (scan feature context index rules).1 := by
  induction rules generalizing index with
  | nil => exact ends_ok _
  | cons rule rules ih =>
      obtain ⟨hleft, hfailed⟩ := leftBy_testRuleOn hcontext rule
      rw [scan]
      rcases htest : Condition.testRuleOn rule context with ⟨fault | outcome, events⟩
      · rw [htest] at hleft
        exact (hleft fault rfl).ends
      · cases outcome with
        | matched => exact ends_ok _
        | notMatched => exact ih (index + 1)
        | failed condition snapshot message cause =>
            rw [htest] at hfailed
            apply ends_error
            rcases Fault.featureCausedBy_eq none feature
                (failureMessage feature (ruleWords index condition message)) .evaluationFailed
                (.condition condition snapshot message cause) with
              ⟨causes, hcauses, heq⟩ | ⟨raised, hraised, heq⟩
            · exact .inl (heq ▸ isBreakdown_of_causes hcauses)
            · -- no error is being handled here, so the new one stands alone
              obtain ⟨cause', rfl, hasked⟩ := exists_asked_of_condition hraised
              rcases hfailed condition snapshot message cause' rfl with htellable | hraises
              · exact absurd hasked htellable.hasTexts.not_asked
              · exact .inr (.inr ⟨cause', hraises, heq ▸ ⟨hasked.within_raise, .inl hasked⟩⟩)

/-! ## One evaluation -/

lemma ends_decideActive (feature : Feature) (value : Value) :
    Ends value.Raises (decideActive feature value).1 := by
  unfold decideActive
  split
  · exact ends_ok _
  · split
    · exact ends_ok _
    · split
      · rename_i fault hcontext
        rcases Condition.isTellable_or_raises_of_ofValue hcontext with htellable | hraises
        · exact ends_error (.inr (.inl htellable))
        · exact ends_error (.inr (.inr ⟨fault, hraises, .refl fault⟩))
      · rename_i context hcontext
        have hends : Ends value.Raises (scan feature.name context 0 feature.rules).1 :=
          ends_scan hcontext 0 feature.rules
        rcases hscan : scan feature.name context 0 feature.rules with ⟨fault | outcome, events⟩
        · rw [hscan] at hends
          exact ends_error (hends fault rfl)
        · cases outcome <;> exact ends_ok _

/-- The decision about a name is a refusal, which is coherent, or that about a feature. -/
lemma decide_eq_refusal_or_active (catalog : Catalog) (name : String) (value : Value) :
    (∃ fault, decide catalog name value = (.error fault, []) ∧ fault.IsCoherent) ∨
      ∃ feature, decide catalog name value = decideActive feature value := by
  unfold decide
  split
  · exact .inl ⟨_, rfl, isCoherent_refusal (by simp) (by simp)⟩
  · rename_i feature _
    dsimp only
    split_ifs with hmissing henabled
    · exact .inl ⟨_, rfl, isCoherent_refusal (by simp) (by simpa using hmissing)⟩
    · exact .inl ⟨_, rfl, isCoherent_refusal (by simp) (by simp)⟩
    · exact .inr ⟨feature, rfl⟩

/-- An error is the failure of a feature, or another one with a text, or one without. -/
lemma feature_or_text (fault : Fault) : (∃ f, fault.failure = .feature f) ∨
    ((∀ f, fault.failure ≠ .feature f) ∧ ∃ text, fault.text = .ok text) ∨
      ∃ raised, fault.text = .error raised := by
  cases htext : fault.text with
  | error raised => exact .inr (.inr ⟨raised, rfl⟩)
  | ok text =>
      by_cases hfeature : ∃ f, fault.failure = .feature f
      · exact .inl hfeature
      · exact .inr (.inl ⟨not_exists.mp hfeature, text, rfl⟩)

lemma conclude_of_feature {name : String} {f : FeatureFailure} (h : fault.failure = .feature f)
    (events : List Event) : conclude name (.error fault, events) =
      (.error fault, events ++ [.evaluationFailed name f.reason f.message]) := by
  simp only [conclude, h]

lemma conclude_of_text {name text : String} (h : ∀ f, fault.failure ≠ .feature f)
    (htext : fault.text = .ok text) (events : List Event) : conclude name (.error fault, events) =
      (.error (wrap name "" fault), events ++ [.unexpectedError name text]) := by
  unfold conclude
  dsimp only
  split
  · exact absurd ‹_› (h _)
  · simp only [htext]

lemma conclude_of_text_error {name : String} {e : Fault} (htext : fault.text = .error e)
    (events : List Event) : conclude name (.error fault, events) = (.error e, events) := by
  unfold conclude
  dsimp only
  split
  · rename_i f hf
    simp [Fault.text, hf, Failure.text, Except.mapError] at htext
  · simp only [htext]

/-- The end of an evaluation keeps the failures of a feature and makes one of every other error, unless a
question is not answered. -/
lemma breaks_conclude {name : String} {met : Fault → Prop} {result : Logged (Except Fault Bool)}
    (hresult : Ends met result.1) (h : (conclude name result).1 = .error fault) :
    fault.IsBreakdown ∨ ∃ cause, met cause ∧ Stems cause fault ∧ cause.LeavesOver fault := by
  obtain ⟨answer, events⟩ := result
  cases answer with
  | ok outcome => simp [conclude] at h
  | error e =>
      rcases feature_or_text e with ⟨f, hf⟩ | ⟨hfeature, text, htext⟩ | ⟨e', he⟩
      · rw [conclude_of_feature hf] at h
        obtain rfl := Except.error.inj h
        rcases hresult e rfl with hbreakdown | htellable | ⟨cause, hmet, hstems⟩
        · exact .inl hbreakdown
        · exact absurd hf (htellable.notFeature f)
        · refine .inr ⟨cause, hmet, hstems, ?_⟩
          rcases hstems.asked with hasked | rfl
          · exact .inl hasked
          · exact .inr ⟨rfl, f, hf⟩
      · rw [conclude_of_text hfeature htext] at h
        obtain rfl := Except.error.inj h
        rcases hresult e rfl with ⟨-, f, hf, -⟩ | htellable | ⟨cause, hmet, hstems⟩
        · exact absurd hf (hfeature f)
        · exact .inl (isBreakdown_wrap htellable.hasTexts)
        · exact hstems.wrap.imp_right fun hleft => ⟨cause, hmet, hleft⟩
      · rw [conclude_of_text_error he] at h
        obtain rfl := Except.error.inj h
        rcases hresult e rfl with ⟨-, f, hf, -⟩ | htellable | ⟨cause, hmet, hstems⟩
        · simp [Fault.text, hf, Failure.text, Except.mapError] at he
        · obtain ⟨text, htext⟩ := htellable.hasTexts.exists_text
          simp [htext] at he
        · exact .inr ⟨cause, hmet, hstems.text he⟩

lemma traced_of_feature {f : FeatureFailure} (h : fault.failure = .feature f) :
    fault.traced = fault := by
  rw [Fault.traced, Fault.text, h]
  rfl

lemma traced_of_isCoherent (h : fault.IsCoherent) : fault.traced = fault := by
  obtain ⟨f, _, hdescribes⟩ := h
  exact traced_of_feature hdescribes.failure

lemma leavesOver_traced (hstems : Stems met fault) (h : met.LeavesOver fault) :
    met.LeavesOver fault.traced := by
  unfold Fault.traced
  split
  · exact h
  · exact (hstems.text ‹_›).2

variable {fetched : Fetched} {name : String} {cause : Fault}

lemma evaluateOn_fst_of_error (h : fetched.outcome = .error cause) (name : String) (value : Value) :
    (evaluateOn fetched name value).1 =
      (conclude name (.error (wrap name fetchWords cause), [])).1.mapError Fault.traced := by
  simp only [evaluateOn, h]

lemma evaluateOn_fst_of_ok {catalog : Catalog} (h : fetched.outcome = .ok catalog) (name : String)
    (value : Value) : (evaluateOn fetched name value).1 =
      (conclude name (decide catalog name value)).1.mapError Fault.traced := by
  simp only [evaluateOn, h]

/-- What an evaluation concludes is a breakdown or something left over, if the result is. -/
lemma breaks_of_ends {met : Fault → Prop} {result : Logged (Except Fault Bool)}
    (hresult : Ends met result.1) (h : (conclude name result).1.mapError Fault.traced = .error fault) :
    fault.IsBreakdown ∨ ∃ cause, met cause ∧ cause.LeavesOver fault := by
  cases hconclude : (conclude name result).1 with
  | ok b => simp [hconclude, Except.mapError] at h
  | error e =>
      obtain rfl : e.traced = fault := by simpa [hconclude, Except.mapError] using h
      rcases breaks_conclude hresult hconclude with hbreakdown | ⟨cause, hmet, hstems, hleft⟩
      · exact .inl ((traced_of_isCoherent hbreakdown.1).symm ▸ hbreakdown)
      · exact .inr ⟨cause, hmet, leavesOver_traced hstems hleft⟩

/-- Every fault of an evaluation is coherent, or left over of an error that the evaluation met. -/
theorem isCoherent_or_leavesOver (h : (evaluateOn fetched name value).1 = .error fault) :
    fault.IsCoherent ∨ ∃ met, Meets fetched value met ∧ met.LeavesOver fault := by
  cases hfetched : fetched.outcome with
  | error cause =>
      rw [evaluateOn_fst_of_error hfetched] at h
      have hends : Ends (· = cause)
          ((.error (wrap name fetchWords cause), []) : Logged (Except Fault Bool)).1 := by
        have hwrap : (wrap name fetchWords cause).IsBreakdown ∨ _ := (Stems.refl cause).wrap
        refine ends_error ?_
        rcases hwrap with h | hleft
        · exact .inl h
        · exact .inr (.inr ⟨cause, rfl, hleft.1⟩)
      rcases breaks_of_ends hends h with hbreakdown | ⟨met, hmet, hleft⟩
      · exact .inl hbreakdown.1
      · exact .inr ⟨met, .fetch (hmet ▸ hfetched), hleft⟩
  | ok catalog =>
      rw [evaluateOn_fst_of_ok hfetched] at h
      rcases decide_eq_refusal_or_active catalog name value with
        ⟨e, hdecide, hcoherent⟩ | ⟨feature, hdecide⟩
      · obtain ⟨f, _, hdescribes⟩ := id hcoherent
        rw [hdecide, conclude_of_feature hdescribes.failure] at h
        obtain rfl : e.traced = fault := Except.error.inj h
        exact .inl ((traced_of_isCoherent hcoherent).symm ▸ hcoherent)
      · rw [hdecide] at h
        rcases breaks_of_ends (ends_decideActive feature value) h with
          hbreakdown | ⟨cause, hraises, hleft⟩
        · exact .inl hbreakdown.1
        · exact .inr ⟨cause, .value hraises, hleft⟩

/-! ## Evaluations without a catalog -/

/-- Where a text is missing the end of an evaluation does not make a failure of the feature either. -/
lemma asked_conclude (hstems : Stems cause fault) (hasked : cause.Asked fault.failure)
    (h : ¬ fault.HasTexts) (events : List Event) :
    ∃ e, (conclude name (.error fault, events)).1 = .error e ∧ Stems cause e ∧
      cause.Asked e.failure := by
  rcases feature_or_text fault with ⟨f, hf⟩ | ⟨hfeature, text, htext⟩ | ⟨e, he⟩
  · rw [conclude_of_feature hf]
    exact ⟨fault, rfl, hstems, hasked⟩
  · rw [conclude_of_text hfeature htext]
    obtain ⟨raised, hraised, heq⟩ := wrap_of_not_hasTexts h name ""
    exact ⟨_, rfl, heq ▸ ⟨(hstems.raise hraised).1, hraised.of_within hstems.within⟩⟩
  · rw [conclude_of_text_error he]
    obtain ⟨raised, rfl, hraised⟩ := Fault.asked_of_text he
    exact ⟨_, rfl, (hstems.raise hraised).1, hraised.of_within hstems.within⟩

/-- If the error of a fetch can be told, the evaluation fails because of it. -/
lemma evaluateOn_of_fetch_error (h : fetched.outcome = .error cause) (htexts : cause.HasTexts)
    (name : String) (value : Value) :
    ∃ message causes, cause.causes = .ok causes ∧ (evaluateOn fetched name value).1 =
      .error (.mk (.feature ⟨name, message, .evaluationFailed, [], some causes⟩) (some cause)
        none) := by
  obtain ⟨message, causes, hcauses, heq⟩ := wrap_of_hasTexts htexts name fetchWords
  refine ⟨message, causes, hcauses, ?_⟩
  rw [evaluateOn_fst_of_error h, heq, conclude_of_feature rfl]
  exact congrArg Except.error (traced_of_isCoherent (isCoherent_of_causes hcauses))

/-- If it cannot, something that came of asking it is left over. -/
lemma asked_of_fetch_error (h : fetched.outcome = .error cause) (htexts : ¬ cause.HasTexts)
    (name : String) (value : Value) :
    ∃ fault, (evaluateOn fetched name value).1 = .error fault ∧ cause.Asked fault.failure := by
  obtain ⟨raised, hraised, heq⟩ := wrap_of_not_hasTexts htexts name fetchWords
  have hmute : ¬ (raise (some cause) raised).HasTexts := by
    refine fun hraise => htexts fun g hg => hraise g ?_
    rw [Fault.chain_raise_some]
    exact List.mem_cons_of_mem raised hg
  have hconcluded : ∃ e, (conclude name (.error (raise (some cause) raised), [])).1 = .error e ∧ _ :=
    asked_conclude ((Stems.refl cause).raise hraised).1 hraised hmute []
  obtain ⟨e, hconclude, hstems, hasked⟩ := hconcluded
  refine ⟨e.traced, ?_, ?_⟩
  · rw [evaluateOn_fst_of_error h, heq, hconclude]
    rfl
  · unfold Fault.traced
    split
    · exact hasked
    · rename_i e' he
      obtain ⟨raised', rfl, hraised'⟩ := Fault.asked_of_text he
      exact hraised'.of_within hstems.within

/-- Whether the failure is coherent is decided by the texts of the error. -/
lemma exists_error_of_fetch_error (h : fetched.outcome = .error cause) (name : String)
    (value : Value) : ∃ fault, (evaluateOn fetched name value).1 = .error fault ∧
      (cause.HasTexts → fault.IsCoherent) ∧ (¬ cause.HasTexts → cause.Asked fault.failure) := by
  by_cases htexts : cause.HasTexts
  · obtain ⟨message, causes, hcauses, hresult⟩ := evaluateOn_of_fetch_error h htexts name value
    exact ⟨_, hresult, fun _ => isCoherent_of_causes hcauses, fun h => absurd htexts h⟩
  · obtain ⟨fault, hresult, hasked⟩ := asked_of_fetch_error h htexts name value
    exact ⟨fault, hresult, fun h => absurd h htexts, fun _ => hasked⟩

/-- If all errors that may be met can be told, then an evaluation fails coherently. -/
lemma isCoherent_of_told (hcause : ∀ cause, fetched.outcome = .error cause → cause.HasTexts)
    (hvalue : ∀ fault, value.Raises fault → fault.IsTellable)
    (h : (evaluateOn fetched name value).1 = .error fault) : fault.IsCoherent := by
  rcases isCoherent_or_leavesOver h with hcoherent | ⟨met, hmet, hleft⟩
  · exact hcoherent
  · cases hmet with
    | fetch hfetched =>
        obtain ⟨fault', hresult, hcoherent, -⟩ := exists_error_of_fetch_error hfetched name value
        obtain rfl : fault = fault' := by simpa [h] using hresult
        exact hcoherent (hcause met hfetched)
    | value hraises => exact absurd hleft (not_leavesOver_of_isTellable (hvalue met hraises))

/-! ## Whether a feature is active -/

lemma isEnabledOn_fst (fetched : Fetched) (name : String) (value : Value) :
    (isEnabledOn fetched name value).1 =
      match (evaluateOn fetched name value).1 with
      | .ok b => .ok b
      | .error fault =>
        match fault.failure with
        | .feature _ => .ok false
        | _ => .error fault := by
  unfold isEnabledOn
  rcases evaluateOn fetched name value with ⟨fault | b, events⟩
  · cases hfailure : fault.failure <;> simp [hfailure]
  · rfl

lemma isEnabledOn_eq_true_iff : (isEnabledOn fetched name value).1 = .ok true ↔
    (evaluateOn fetched name value).1 = .ok true := by
  rw [isEnabledOn_fst]
  cases (evaluateOn fetched name value).1 with
  | ok b => rfl
  | error fault => cases hfailure : fault.failure <;> simp [hfailure]

lemma isEnabledOn_eq_error_iff : (isEnabledOn fetched name value).1 = .error fault ↔
    (evaluateOn fetched name value).1 = .error fault ∧ ∀ f, fault.failure ≠ .feature f := by
  rw [isEnabledOn_fst]
  cases (evaluateOn fetched name value).1 with
  | ok b => simp
  | error e =>
      cases hfailure : e.failure with
      | feature f =>
          simp only [hfailure, reduceCtorEq, Except.error.injEq, false_iff, not_and, not_forall,
            not_not]
          rintro rfl
          exact ⟨f, hfailure⟩
      | _ =>
          simp only [hfailure, Except.error.injEq, iff_self_and]
          rintro rfl
          simp [hfailure]

/-- The error of a class that shows its key, where the key is an integer that is too long to be written. -/
def longKey : Failure := .mute .key (.other .value (Value.digitLimitText ++ Value.digitLimitAdvice))

end Engine

end FeatureToggles
