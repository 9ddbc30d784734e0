import FeatureToggles.Proofs.Condition.Composition
import FeatureToggles.Proofs.Condition.Raising

/-!
# What is reported about a test

The condition of a test has a truth value on the value that is to be its context, or one of the steps of the
test breaks, and then the test has failed.  Who demands a match is told by a fault when there is none.  Each
such fault names the condition as it was read and shows the context, also where it is the context that made
the test fail.

The test has to ask the error at which it broke for its text, and to list the context once more to show it.
So it does not come to its end on an error without a text, and neither on one that is no type error and comes
up where the value is looked at for its attributes; these errors are left over.

Main statements: `exists_answers_or_breaks`, `test_eq_error_iff` and `test_reports`.
-/

namespace FeatureToggles

namespace Condition

/-! ## What a test comes to -/

/-- The truth value of a condition on a value: the value stands for a context or for none, the condition
parses, and its expression has this value over the attributes. -/
def Answers (condition : String) (value : Value) (b : Bool) : Prop :=
  ∃ context e attributes, Context.ofValue value = .ok context ∧
    Expr.parse (normalize condition) = .ok e ∧ Context.attributesOf context = .ok attributes ∧
    Expr.holds attributes e = .ok b

/-- The step at which a test breaks, and the fault that comes of it. -/
inductive Breaks (condition : String) (value : Value) : Fault → Prop where
  /-- The value is no context. -/
  | unsuitable {fault : Fault} :
      Context.ofValue value = .error fault → fault.failure.isTypeError = true →
      Breaks condition value fault
  /-- The condition does not parse, or holds an integer that is too long. -/
  | malformed {context : Option Context} {e : ParseError} :
      Context.ofValue value = .ok context → Expr.parse (normalize condition) = .error e →
      Breaks condition value (.ofParseError e)
  /-- The context does not list its attributes. -/
  | unlisted {context : Option Context} {tree : Expr} {e : Value.Error} :
      Context.ofValue value = .ok context → Expr.parse (normalize condition) = .ok tree →
      Context.attributesOf context = .error e → Breaks condition value e.fault
  /-- The expression has no truth value over the attributes. -/
  | undefined {context : Option Context} {tree : Expr} {attributes : Scope} {e : EvalError} :
      Context.ofValue value = .ok context → Expr.parse (normalize condition) = .ok tree →
      Context.attributesOf context = .ok attributes → Expr.holds attributes tree = .error e →
      Breaks condition value (.ofEvalError e)

/-- The errors that keep a value from being shown, whatever it is shown for. -/
inductive Withholds (value : Value) : Fault → Prop where
  /-- An error, and no type error, that comes up where the value is looked at for its attributes. -/
  | refused {fault : Fault} :
      Context.ofValue value = .error fault → fault.failure.isTypeError = false →
      Withholds value fault
  /-- What comes of asking the error at which the context breaks off its listing. -/
  | unlisted {c : Context} {e : Value.Error} {raised : Fault} :
      Context.ofValue value = .ok (some c) → c.attributes = .error e → e.fault.text = .error raised →
      Withholds value raised

/-- The errors that are left over in the place of an outcome. -/
inductive LeavesOver (condition : String) (value : Value) : Fault → Prop where
  | withheld {fault : Fault} : Withholds value fault → LeavesOver condition value fault
  /-- What comes of asking the error of a value that is no context. -/
  | unsuitable {fault raised : Fault} :
      Context.ofValue value = .error fault → fault.failure.isTypeError = true →
      fault.text = .error raised → LeavesOver condition value raised
  /-- What comes of asking the error of an expression without a truth value. -/
  | undefined {context : Option Context} {tree : Expr} {attributes : Scope} {e : EvalError}
      {raised : Fault} :
      Context.ofValue value = .ok context → Expr.parse (normalize condition) = .ok tree →
      Context.attributesOf context = .ok attributes → Expr.holds attributes tree = .error e →
      (Fault.ofEvalError e).text = .error raised → LeavesOver condition value raised

/-- How a value is shown: as the context that it stands for, or as none if it stands for no context. -/
inductive Shows (value : Value) : String → Prop where
  | context {c : Option Context} {snapshot : String} :
      Context.ofValue value = .ok c → Context.snapshot c = .ok snapshot → Shows value snapshot
  | refused {fault : Fault} {snapshot : String} :
      Context.ofValue value = .error fault → fault.failure.isTypeError = true →
      Context.snapshot none = .ok snapshot → Shows value snapshot

/-- Whether a fault is that of a condition, under the text as it was read and with the value shown. -/
def Reports (condition : String) (value : Value) (fault : Fault) : Prop :=
  ∃ snapshot message cause,
    fault = .condition (normalize condition) snapshot message cause ∧ Shows value snapshot

variable {condition : String} {value : Value}

/-- There is a truth value, or some step breaks, or an error is left over where the value is looked at. -/
theorem exists_answers_or_breaks (condition : String) (value : Value) :
    (∃ b, Answers condition value b) ∨ (∃ cause, Breaks condition value cause) ∨
      ∃ fault, Withholds value fault := by
  cases hcontext : Context.ofValue value with
  | error fault =>
      cases htype : fault.failure.isTypeError with
      | true => exact .inr (.inl ⟨_, .unsuitable hcontext htype⟩)
      | false => exact .inr (.inr ⟨_, .refused hcontext htype⟩)
  | ok context =>
      cases hparse : Expr.parse (normalize condition) with
      | error e => exact .inr (.inl ⟨_, .malformed hcontext hparse⟩)
      | ok tree =>
          cases hattributes : Context.attributesOf context with
          | error e => exact .inr (.inl ⟨_, .unlisted hcontext hparse hattributes⟩)
          | ok attributes =>
              cases hholds : Expr.holds attributes tree with
              | error e => exact .inr (.inl ⟨_, .undefined hcontext hparse hattributes hholds⟩)
              | ok b => exact .inl ⟨b, context, tree, attributes, hcontext, hparse, hattributes, hholds⟩

lemma test_of_answers {b : Bool} (h : Answers condition value b) :
    test condition value =
      (.ok (if b then .matched (normalize condition) else .notMatched (normalize condition)), []) := by
  obtain ⟨context, e, attributes, hcontext, hparse, hattributes, hholds⟩ := h
  have htruth : holds (normalize condition) context = .ok b := by
    simp only [holds, hparse, hattributes, hholds, Except.mapError]
  simp only [test, hcontext, testOn, htruth]
  cases b <;> rfl

lemma holds_of_breaks {cause : Fault} {context : Option Context} (h : Breaks condition value cause)
    (hcontext : Context.ofValue value = .ok context) :
    holds (normalize condition) context = .error cause := by
  cases h with
  | unsuitable hrefused => simp [hrefused] at hcontext
  | malformed hcontext' hparse => simp only [holds, hparse]
  | unlisted hcontext' hparse hattributes =>
      obtain rfl := Except.ok.inj (hcontext'.symm.trans hcontext)
      simp only [holds, hparse, hattributes]
  | undefined hcontext' hparse hattributes hholds =>
      obtain rfl := Except.ok.inj (hcontext'.symm.trans hcontext)
      simp only [holds, hparse, hattributes, hholds, Except.mapError]

/-! ## What is left over -/

lemma test_of_leavesOver {fault : Fault} (h : LeavesOver condition value fault) :
    test condition value = (.error fault, []) := by
  cases h with
  | withheld h =>
      cases h with
      | refused hrefused htype => simp [test, hrefused, htype]
      | unlisted hcontext hattributes htext =>
          simp only [test, hcontext]
          exact testOn_of_unlisted hattributes htext condition
  | unsuitable hrefused htype htext => simp [test, hrefused, htype, failureOf, htext]
  | undefined hcontext hparse hattributes hholds htext =>
      have hfault := holds_of_breaks (.undefined hcontext hparse hattributes hholds) hcontext
      simp only [test, hcontext]
      rw [testOn_of_explain_error hfault (explain_of_text_error htext)]

/-- Where a step breaks the test fails, and its fault shows the value although the step may have broken
on it; or else something is left over. -/
lemma test_of_breaks {cause : Fault} (h : Breaks condition value cause) :
    (∃ fault, LeavesOver condition value fault) ∨
      ∃ snapshot message, Shows value snapshot ∧ (test condition value).1 =
        .ok (.failed (normalize condition) snapshot message (some cause)) := by
  cases hcontext : Context.ofValue value with
  | error fault =>
      cases h with
      | malformed hcontext' | unlisted hcontext' | undefined hcontext' => simp [hcontext] at hcontext'
      | unsuitable hrefused htype =>
          obtain rfl := Except.error.inj (hrefused.symm.trans hcontext)
          cases htext : cause.text with
          | error raised => exact .inl ⟨raised, .unsuitable hrefused htype htext⟩
          | ok text =>
              refine .inr ⟨_, text, .refused hrefused htype rfl, ?_⟩
              simp only [test, hrefused, htype, if_true, failureOf, htext]
              rfl
  | ok context =>
      have hholds := holds_of_breaks h hcontext
      cases hsnapshot : Context.snapshot context with
      | error raised =>
          obtain ⟨c, e, rfl, hattributes, htext⟩ := Context.snapshot_eq_error_iff.mp hsnapshot
          exact .inl ⟨raised, .withheld (.unlisted hcontext hattributes htext)⟩
      | ok snapshot =>
          cases htext : cause.text with
          | ok text =>
              obtain ⟨message, hexplain⟩ := exists_explain_of_text htext
              refine .inr ⟨snapshot, message, .context hcontext hsnapshot, ?_⟩
              simp only [test, hcontext]
              rw [testOn_of_explain hholds hexplain, failure_of_snapshot hsnapshot]
          | error raised =>
              left
              cases h with
              | unsuitable hrefused => simp [hrefused] at hcontext
              | @malformed _ e =>
                  obtain ⟨text, hok⟩ := (Fault.isTellable_ofParseError e).hasTexts.exists_text
                  simp [hok] at htext
              | @unlisted context' _ e hcontext' _ hattributes =>
                  cases context' with
                  | none => simp [Context.attributesOf] at hattributes
                  | some c => exact ⟨raised, .withheld (.unlisted hcontext' hattributes htext)⟩
              | undefined hcontext' hparse hattributes hnone =>
                  exact ⟨raised, .undefined hcontext' hparse hattributes hnone htext⟩

/-- A test is left with an error exactly for one of the reasons that are given. -/
theorem test_eq_error_iff {fault : Fault} :
    (test condition value).1 = .error fault ↔ LeavesOver condition value fault := by
  refine ⟨fun h => ?_, fun h => by rw [test_of_leavesOver h]⟩
  have hleaves : ∀ {fault'}, LeavesOver condition value fault' → LeavesOver condition value fault := by
    intro fault' h'
    rw [test_of_leavesOver h'] at h
    exact Except.error.inj h ▸ h'
  obtain ⟨b, hb⟩ | ⟨cause, hcause⟩ | ⟨fault', hwithheld⟩ := exists_answers_or_breaks condition value
  · simp [test_of_answers hb] at h
  · obtain ⟨fault', hfault'⟩ | ⟨_, _, _, hfailed⟩ := test_of_breaks hcause
    · exact hleaves hfault'
    · simp [hfailed] at h
  · exact hleaves (.withheld hwithheld)

/-- How a test ends is told by the truth value, or by there being none. -/
lemma status_iff (condition : String) (value : Value) :
    (status condition value = .matched ↔ Answers condition value true) ∧
      (status condition value = .notMatched ↔ Answers condition value false) ∧
      (status condition value = .failed ↔ (∃ cause, Breaks condition value cause) ∧
        ∀ fault, ¬ LeavesOver condition value fault) := by
  have hanswers : ∀ {b : Bool}, Answers condition value b →
      status condition value = if b then .matched else .notMatched := by
    intro b hb
    rw [status, test_of_answers hb]
    cases b <;> rfl
  have hleaves : ∀ {fault : Fault}, LeavesOver condition value fault →
      status condition value = .raised := by
    intro fault hfault
    rw [status, test_of_leavesOver hfault]
  have hbreaks : ∀ {cause : Fault}, Breaks condition value cause →
      (∃ fault, LeavesOver condition value fault) ∨ status condition value = .failed := by
    intro cause hcause
    refine (test_of_breaks hcause).imp_right ?_
    rintro ⟨_, _, _, hfailed⟩
    rw [status, hfailed]
    rfl
  refine ⟨⟨fun h => ?_, hanswers⟩, ⟨fun h => ?_, hanswers⟩, ⟨fun h => ?_, fun ⟨⟨cause, hcause⟩, hnone⟩ =>
    (hbreaks hcause).resolve_left fun ⟨fault, hfault⟩ => hnone fault hfault⟩⟩
  all_goals
    obtain ⟨b, hb⟩ | ⟨cause, hcause⟩ | ⟨fault, hwithheld⟩ := exists_answers_or_breaks condition value
  · cases b with
    | true => exact hb
    | false => simp [hanswers hb] at h
  · obtain ⟨fault, hfault⟩ | hfailed := hbreaks hcause
    · simp [hleaves hfault] at h
    · simp [hfailed] at h
  · simp [hleaves (.withheld hwithheld)] at h
  · cases b with
    | true => simp [hanswers hb] at h
    | false => exact hb
  · obtain ⟨fault, hfault⟩ | hfailed := hbreaks hcause
    · simp [hleaves hfault] at h
    · simp [hfailed] at h
  · simp [hleaves (.withheld hwithheld)] at h
  · cases b <;> simp [hanswers hb] at h
  · exact ⟨⟨cause, hcause⟩, fun fault hfault => by simp [hleaves hfault] at h⟩
  · simp [hleaves (.withheld hwithheld)] at h

/-! ## What is reported -/

/-- Whether the outcome of a test, and what becomes of the demand for a match, belong to a condition on a
value. -/
structure Settles (condition : String) (value : Value) (outcome : Outcome) : Prop where
  normalized : outcome.condition = normalize condition
  /-- There is a fault exactly where the test failed. -/
  fault : outcome.fault?.isSome = true ↔ outcome.status = .failed
  /-- The demand is met exactly by a match, and it is never answered with no. -/
  matched : require value outcome = .ok true ↔ outcome.status = .matched
  answer : require value outcome ≠ .ok false
  /-- The fault of a test that failed is passed on. -/
  passed : ∀ fault, outcome.fault? = some fault → require value outcome = .error fault
  /-- Whatever fault there is reports on the condition and the value. -/
  reported : ∀ fault, require value outcome = .error fault → Reports condition value fault

lemma settles_matched (condition : String) (value : Value) :
    Settles condition value (.matched (normalize condition)) where
  normalized := rfl
  fault := by simp [Outcome.fault?, Outcome.status]
  matched := by simp [require, Outcome.status]
  answer := by simp [require]
  passed := by simp [Outcome.fault?]
  reported := by simp [require]

/-- What can be tested can be shown, so the demand for a match ends in a report. -/
lemma settles_notMatched (h : Answers condition value false) :
    Settles condition value (.notMatched (normalize condition)) := by
  obtain ⟨context, e, attributes, hcontext, -, hattributes, -⟩ := h
  obtain ⟨snapshot, hsnapshot⟩ := Context.exists_snapshot_of_attributesOf hattributes
  have hrequire : require value (.notMatched (normalize condition)) =
      .error (.condition (normalize condition) snapshot
        (unmatchedMessage (normalize condition) snapshot) none) := by
    simp only [require, contextOrNone, hcontext, hsnapshot]
  refine ⟨rfl, by simp [Outcome.fault?, Outcome.status], by simp [hrequire, Outcome.status],
    by simp [hrequire], by simp [Outcome.fault?], fun fault hfault => ?_⟩
  obtain rfl := Except.error.inj (hrequire.symm.trans hfault)
  exact ⟨snapshot, _, none, rfl, .context hcontext hsnapshot⟩

lemma settles_failed {snapshot : String} (h : Shows value snapshot) (condition message : String)
    (cause : Option Fault) :
    Settles condition value (.failed (normalize condition) snapshot message cause) where
  normalized := rfl
  fault := by simp [Outcome.fault?, Outcome.status]
  matched := by simp [require, Outcome.status]
  answer := by simp [require]
  passed := by simp [Outcome.fault?, require]
  reported := by
    intro fault hfault
    obtain rfl := Except.error.inj hfault
    exact ⟨snapshot, message, cause, rfl, h⟩

lemma settles_test {outcome : Outcome} (h : (test condition value).1 = .ok outcome) :
    Settles condition value outcome := by
  obtain ⟨b, hb⟩ | ⟨cause, hcause⟩ | ⟨fault, hwithheld⟩ := exists_answers_or_breaks condition value
  · rw [test_of_answers hb] at h
    obtain rfl := Except.ok.inj h
    cases b with
    | true => exact settles_matched condition value
    | false => exact settles_notMatched hb
  · obtain ⟨fault, hfault⟩ | ⟨snapshot, message, hshows, hfailed⟩ := test_of_breaks hcause
    · simp [test_of_leavesOver hfault] at h
    · obtain rfl := Except.ok.inj (hfailed.symm.trans h)
      exact settles_failed hshows condition message (some cause)
  · simp [test_of_leavesOver (.withheld hwithheld)] at h

/-! ## Rules -/

/-- A rule that is disabled fails, and its report shows the context of the value; or else the value is not
shown. -/
lemma testRule_of_disabled {rule : Rule} (h : rule.disabled = true) (value : Value) :
    (∃ snapshot, Shows value snapshot ∧ (testRule rule value).1 =
        .ok (.failed (normalize rule.condition) snapshot
          (disabledMessage (normalize rule.condition)) none)) ∨
      ∃ fault, Withholds value fault ∧ (testRule rule value).1 = .error fault := by
  cases hcontext : Context.ofValue value with
  | error fault =>
      cases htype : fault.failure.isTypeError with
      | false =>
          refine .inr ⟨fault, .refused hcontext htype, ?_⟩
          simp [testRule, h, contextOrNone, hcontext, htype]
      | true =>
          refine .inl ⟨_, .refused hcontext htype rfl, ?_⟩
          simp only [testRule, h, if_true, contextOrNone, hcontext, htype]
          exact testRuleOn_disabled h rfl
  | ok context =>
      cases hsnapshot : Context.snapshot context with
      | ok snapshot =>
          refine .inl ⟨snapshot, .context hcontext hsnapshot, ?_⟩
          simp only [testRule, h, if_true, contextOrNone, hcontext]
          exact testRuleOn_disabled h hsnapshot
      | error raised =>
          obtain ⟨c, e, rfl, hattributes, htext⟩ := Context.snapshot_eq_error_iff.mp hsnapshot
          refine .inr ⟨raised, .unlisted hcontext hattributes htext, ?_⟩
          simp only [testRule, h, if_true, contextOrNone, hcontext, testRuleOn]
          rw [failure_of_snapshot_error hsnapshot]

lemma testRule_of_not_disabled {rule : Rule} (h : rule.disabled = false) (value : Value) :
    testRule rule value = test rule.condition value := by
  simp [testRule, h]

lemma not_withholds_of_shows {snapshot : String} (h : Shows value snapshot) {fault : Fault} :
    ¬ Withholds value fault := by
  rintro (⟨hrefused, htype⟩ | ⟨hcontext, hattributes, htext⟩)
  · cases h with
    | context hcontext => simp [hrefused] at hcontext
    | refused hrefused' htype' =>
        obtain rfl := Except.error.inj (hrefused.symm.trans hrefused')
        simp [htype] at htype'
  · cases h with
    | refused hrefused => simp [hcontext] at hrefused
    | context hcontext' hsnapshot =>
        obtain rfl := Except.ok.inj (hcontext.symm.trans hcontext')
        rw [Context.snapshot_eq_error_iff.mpr ⟨_, _, rfl, hattributes, htext⟩] at hsnapshot
        cases hsnapshot

/-- A value that is not shown leaves over the same error in every test, so there is only one. -/
lemma withholds_unique {fault fault' : Fault} (h : Withholds value fault)
    (h' : Withholds value fault') : fault = fault' := by
  have htest : test "" value = (.error fault, []) := test_of_leavesOver (.withheld h)
  rw [test_of_leavesOver (.withheld h')] at htest
  simpa [eq_comm] using htest

lemma settles_testRule {rule : Rule} {outcome : Outcome}
    (h : (testRule rule value).1 = .ok outcome) :
    Settles rule.condition value outcome ∧ (rule.disabled = true → outcome.status = .failed) := by
  cases hdisabled : rule.disabled with
  | false =>
      rw [testRule_of_not_disabled hdisabled] at h
      exact ⟨settles_test h, by simp⟩
  | true =>
      obtain ⟨snapshot, hshows, hfailed⟩ | ⟨fault, -, hraised⟩ := testRule_of_disabled hdisabled value
      · obtain rfl := Except.ok.inj (hfailed.symm.trans h)
        exact ⟨settles_failed hshows _ _ none, fun _ => rfl⟩
      · simp [hraised] at h

lemma testRule_eq_error_iff {rule : Rule} {fault : Fault} :
    (testRule rule value).1 = .error fault ↔
      if rule.disabled then Withholds value fault else LeavesOver rule.condition value fault := by
  cases hdisabled : rule.disabled with
  | false =>
      rw [testRule_of_not_disabled hdisabled, test_eq_error_iff]
      simp
  | true =>
      obtain ⟨snapshot, hshows, hfailed⟩ | ⟨fault', hwithheld, hraised⟩ :=
        testRule_of_disabled hdisabled value
      · simpa [hfailed] using not_withholds_of_shows hshows
      · simp only [hraised, Except.error.injEq, if_true]
        exact ⟨fun h => h ▸ hwithheld, withholds_unique hwithheld⟩

/-- Nothing is left over on a value that is looked at without another error than a type error, and inside
which all errors have texts. -/
lemma not_leavesOver (hrefused : ∀ fault, Context.ofValue value = .error fault →
      fault.failure.isTypeError = true)
    (htexts : ∀ fault, value.Raises fault → ∃ text, fault.text = .ok text) (condition : String)
    (fault : Fault) : ¬ LeavesOver condition value fault := by
  have htold : ∀ {cause : Fault}, cause.IsTellable ∨ value.Raises cause →
      cause.text ≠ .error fault := by
    intro cause hcause htext
    obtain ⟨text, hok⟩ : ∃ text, cause.text = .ok text :=
      hcause.elim (fun h => h.hasTexts.exists_text) (htexts cause)
    simp [hok] at htext
  intro h
  cases h with
  | withheld h =>
      cases h with
      | refused hcontext htype => simp [hrefused fault hcontext] at htype
      | unlisted hcontext hattributes htext =>
          exact htold (isTellable_or_raises_of_attributes hcontext hattributes) htext
  | unsuitable hcontext _ htext => exact htold (isTellable_or_raises_of_ofValue hcontext) htext
  | undefined hcontext hparse hattributes hholds htext =>
      exact htold (isTellable_or_raises_of_holds hcontext
        (holds_of_breaks (.undefined hcontext hparse hattributes hholds) hcontext)) htext

/-- An age, as it may be asked for by conditions. -/
def ageValue : Value := (Json.obj [("age", .int 18)]).toValue

/-- A provider that breaks off its listing with an error of a key, where the key cannot be written. -/
def brokenProvider : Value :=
  .provider ⟨"Keys", 0, .ok "Keys"⟩ []
    (some (.of (.mute .key (.other .value (Value.digitLimitText ++ Value.digitLimitAdvice)))))

/-- An object that raises an error of a key where it is looked at for its attributes. -/
def keyedObject : Value := .foreign ⟨"Keyed", 0, .ok "Keyed"⟩ (some (.other .key "'attributes'"))

end Condition

end FeatureToggles
