import FeatureToggles.Proofs.Engine.Refinement

/-!
# One catalog for each evaluation

The catalog may change at any time, also while a feature is evaluated: a source of catalogs is a feed that
gives something else whenever it is asked.  An engine and the resolver of prerequisites that it has ask
the same feed, and the resolver can fetch a catalog of its own.  It does not do so for the engine, which
hands on the catalog that it has.  So the name, its prerequisites and its rules are looked up in one
catalog, and a call takes one result from the feed, however it ends.

Main statements: `evaluateInSteps_eq`, `Feed.run_askAll` and `takes_one_catalog`.
-/

namespace FeatureToggles

/-! ## Feeds -/

/-- A source of catalogs that may change: what it gives after some results were taken. -/
structure Feed where
  result : Nat → Fetched

namespace Feed

/-- The feed that gives the same each time. -/
def fixed (fetched : Fetched) : Feed := ⟨fun _ => fetched⟩

/-- Takes the next result from a feed.  The state counts the results that were taken. -/
def fetch (feed : Feed) : StateM Nat Fetched := do
  let taken ← get
  set (taken + 1)
  return feed.result taken

variable {α : Type}

/-- Whether a computation takes one result from every feed, and gives an answer that depends on this
result only. -/
def TakesOne (compute : StateM Nat Fetched → StateM Nat α) (answer : Fetched → α) : Prop :=
  ∀ (feed : Feed) (n : Nat), (compute feed.fetch).run n = (answer (feed.result n), n + 1)

/-- Whether a computation takes nothing from any feed, and gives an answer without it. -/
def TakesNone (compute : StateM Nat Fetched → StateM Nat α) (answer : α) : Prop :=
  ∀ (feed : Feed) (n : Nat), (compute feed.fetch).run n = (answer, n)

/-- What is computed from one result is the same where the feed gives this result always. -/
lemma TakesOne.eq_fixed {compute : StateM Nat Fetched → StateM Nat α} {answer : Fetched → α}
    (h : TakesOne compute answer) (feed : Feed) (n k : Nat) :
    ((compute feed.fetch).run n).1 = ((compute (fixed (feed.result n)).fetch).run k).1 := by
  rw [h, h]
  rfl

end Feed

/-! ## Evaluations in steps -/

namespace Engine

open Condition (Logged)

/-- The decision about a feature that was found, by what the resolver tells about its prerequisites. -/
def decideFound (feature : Feature) (name : String) (value : Value) :
    Logged (Except Fault (List String)) → Logged (Except Fault Bool)
  | (.error fault, events) => (.error fault, events)
  | (.ok missing, events) =>
    if !missing.isEmpty then
      (.error (refusal name
        ("Dependencies for feature '" ++ name ++ "' are not satisfied. Missing dependencies: " ++
          ", ".intercalate missing) .dependenciesUnsatisfied missing), events)
    else if !feature.enabled then
      (.error (refusal name ("Feature '" ++ name ++ "' is disabled") .disabled []), events)
    else
      let (answer, more) := decideActive feature value
      (answer, events ++ more)

/-- What becomes of a result in a call that only tells whether the feature is active. -/
def treat (name : String) : Logged (Except Fault Bool) → Logged (Except Fault Bool)
  | (.ok outcome, events) => (.ok outcome, events)
  | (.error fault, events) =>
    match fault.failure with
    | .feature f => (.ok false, events ++ [.treatedAsInactive name f.reason f.message])
    | _ => (.error fault, events)

section Steps

variable {m : Type → Type} [Monad m] (fetch : m Fetched)

/-- Decides about a name on a catalog, where the resolver has the source of the engine. -/
def decideInSteps (catalog : Catalog) (name : String) (value : Value) :
    m (Logged (Except Fault Bool)) := do
  match catalog.find? name with
  | none => return (.error (refusal name ("Feature '" ++ name ++ "' not found") .notFound []), [])
  | some feature =>
    let missing ← missingDependencies fetch feature.dependsOn (some catalog)
    return decideFound feature name value missing

/-- Evaluates a name step by step: every step may ask the source. -/
def evaluateInSteps (name : String) (value : Value) : m (Logged (Except Fault Bool)) := do
  let fetched ← fetch
  match fetched.outcome with
  | .error fault =>
    let (answer, events) := conclude name (.error (wrap name fetchWords fault), [])
    return (answer.mapError Fault.traced, fetched.events ++ events)
  | .ok catalog =>
    let decision ← decideInSteps fetch catalog name value
    let (answer, events) := conclude name decision
    return (answer.mapError Fault.traced, fetched.events ++ events)

/-- Tells whether a feature is active, by an evaluation in steps. -/
def isEnabledInSteps (name : String) (value : Value) : m (Logged (Except Fault Bool)) := do
  let result ← evaluateInSteps fetch name value
  return treat name result

variable {fetch}

@[simp] lemma missingDependencies_some (names : List String) (catalog : Catalog) :
    missingDependencies fetch names (some catalog) = pure (.ok (catalog.missing names), []) := by
  cases names <;> rfl

variable [LawfulMonad m]

lemma decideInSteps_eq (catalog : Catalog) (name : String) (value : Value) :
    decideInSteps fetch catalog name value = pure (decide catalog name value) := by
  unfold decideInSteps decide
  cases catalog.find? name with
  | none => rfl
  | some feature =>
      simp only [missingDependencies_some, pure_bind]
      rfl

/-- In steps an evaluation is what it is on the catalog that is fetched first. -/
theorem evaluateInSteps_eq (name : String) (value : Value) :
    evaluateInSteps fetch name value = evaluate fetch name value := by
  unfold evaluateInSteps evaluate evaluateOn
  congr 1
  funext fetched
  cases fetched.outcome with
  | error fault => rfl
  | ok catalog => simp only [decideInSteps_eq, pure_bind]

lemma treat_evaluateOn (fetched : Fetched) (name : String) (value : Value) :
    treat name (evaluateOn fetched name value) = isEnabledOn fetched name value := by
  unfold isEnabledOn
  rcases evaluateOn fetched name value with ⟨fault | outcome, events⟩
  · cases hfailure : fault.failure <;> simp [treat, hfailure]
  · rfl

theorem isEnabledInSteps_eq (name : String) (value : Value) :
    isEnabledInSteps fetch name value = isEnabled fetch name value := by
  unfold isEnabledInSteps isEnabled
  rw [evaluateInSteps_eq, evaluate, bind_assoc]
  simp only [pure_bind, treat_evaluateOn]

end Steps

end Engine

/-! ## Questions to a feed -/

/-- Whether a question needs a catalog: only without names there is nothing to look up. -/
def Query.needsCatalog : Query → Bool
  | .missing names => !names.isEmpty
  | .evaluate _ _ | .isEnabled _ _ | .find _ | .fetch => true

namespace Feed

open Engine

/-- Asks one question after another of an engine over a feed. -/
def askAll (feed : Feed) (qs : List Query) : StateM Nat (List (Except Fault Finding)) :=
  qs.mapM fun q => q.ask feed.fetch

variable (feed : Feed) (n : Nat)

/-- A question is answered on the next result of the feed, and takes it if it needs a catalog. -/
lemma run_ask (q : Query) :
    (q.ask feed.fetch).run n = (q.askOn (feed.result n), n + if q.needsCatalog then 1 else 0) := by
  cases q with
  | missing names => cases names <;> rfl
  | _ => rfl

lemma run_askAll_cons (q : Query) (qs : List Query) :
    (feed.askAll (q :: qs)).run n =
      (q.askOn (feed.result n) ::
          ((feed.askAll qs).run (n + if q.needsCatalog then 1 else 0)).1,
        ((feed.askAll qs).run (n + if q.needsCatalog then 1 else 0)).2) := by
  have hask := feed.run_ask n q
  unfold askAll
  rw [List.mapM_cons]
  simp only [StateT.run_bind, hask]
  rfl

/-- In a run each question is answered on the first result that the questions before it have left. -/
theorem run_askAll (qs : List Query) :
    (∀ i : Nat, ((feed.askAll qs).run n).1[i]? =
        qs[i]?.map fun q : Query =>
          q.askOn (feed.result (n + (qs.take i).countP Query.needsCatalog))) ∧
      ((feed.askAll qs).run n).2 = n + qs.countP Query.needsCatalog := by
  induction qs generalizing n with
  | nil => exact ⟨fun _ => rfl, rfl⟩
  | cons q qs ih =>
      -- the rest is a run from where the first question leaves the feed
      obtain ⟨hanswers, htaken⟩ := ih (n + if q.needsCatalog then 1 else 0)
      rw [run_askAll_cons, List.countP_cons]
      refine ⟨fun i => ?_, by rw [htaken]; omega⟩
      cases i with
      | zero => rfl
      | succ i =>
          rw [List.getElem?_cons_succ, hanswers, List.getElem?_cons_succ, List.take_succ_cons,
            List.countP_cons, Nat.add_assoc, Nat.add_comm (List.countP _ _)]

end Feed

namespace Engine

open Feed (TakesOne TakesNone)

lemma takesOne_evaluateInSteps (name : String) (value : Value) :
    TakesOne (evaluateInSteps · name value) (evaluateOn · name value) := by
  intro feed n
  change (evaluateInSteps feed.fetch name value).run n = _
  rw [evaluateInSteps_eq]
  rfl

lemma takesOne_isEnabledInSteps (name : String) (value : Value) :
    TakesOne (isEnabledInSteps · name value) (isEnabledOn · name value) := by
  intro feed n
  change (isEnabledInSteps feed.fetch name value).run n = _
  rw [isEnabledInSteps_eq]
  rfl

lemma takesNone_missingDependencies_some (names : List String) (catalog : Catalog) :
    TakesNone (missingDependencies · names (some catalog)) (.ok (catalog.missing names), []) := by
  intro feed n
  change (missingDependencies feed.fetch names (some catalog)).run n = _
  rw [missingDependencies_some]
  rfl

/-- Each evaluation takes one result from a feed, however it ends, and answers as if the feed gave this
result always; a run of questions answers each on the first result that is left.  Missing prerequisites
take one result if there are names and no catalog is given, and none otherwise. -/
theorem takes_one_catalog (name : String) (value : Value) (names : List String) :
    TakesOne (evaluateInSteps · name value) (evaluateOn · name value) ∧
    TakesOne (isEnabledInSteps · name value) (isEnabledOn · name value) ∧
    (∀ feed : Feed, evaluate feed.fetch name value = evaluateInSteps feed.fetch name value ∧
      isEnabled feed.fetch name value = isEnabledInSteps feed.fetch name value) ∧
    (∀ (feed : Feed) (n k : Nat),
      ((evaluate feed.fetch name value).run n).1 =
          ((evaluate (Feed.fixed (feed.result n)).fetch name value).run k).1 ∧
        ((isEnabled feed.fetch name value).run n).1 =
          ((isEnabled (Feed.fixed (feed.result n)).fetch name value).run k).1) ∧
    (∀ (feed : Feed) (n : Nat) (qs : List Query),
      (∀ i : Nat, ((feed.askAll qs).run n).1[i]? =
          qs[i]?.map fun q : Query =>
            q.askOn (feed.result (n + (qs.take i).countP Query.needsCatalog))) ∧
        ((feed.askAll qs).run n).2 = n + qs.countP Query.needsCatalog) ∧
    TakesOne (missingDependencies · (name :: names) none)
      (fun fetched => (fetched.outcome.map (·.missing (name :: names)), fetched.events)) ∧
    (∀ catalog : Option Catalog, TakesNone (missingDependencies · [] catalog) (.ok [], [])) ∧
    (∀ catalog : Catalog, TakesNone (missingDependencies · names (some catalog))
      (.ok (catalog.missing names), [])) := by
  have hevaluate := takesOne_evaluateInSteps name value
  have hisEnabled := takesOne_isEnabledInSteps name value
  have hsteps : ∀ feed : Feed,
      evaluate feed.fetch name value = evaluateInSteps feed.fetch name value ∧
        isEnabled feed.fetch name value = isEnabledInSteps feed.fetch name value :=
    fun feed => ⟨(evaluateInSteps_eq name value).symm, (isEnabledInSteps_eq name value).symm⟩
  refine ⟨hevaluate, hisEnabled, hsteps, fun feed n k => ?_, fun feed n qs => feed.run_askAll n qs,
    fun _ _ => rfl, fun _ _ _ => rfl, takesNone_missingDependencies_some names⟩
  simp only [hsteps]
  exact ⟨hevaluate.eq_fixed feed n k, hisEnabled.eq_fixed feed n k⟩

-- the prerequisite is switched off after the fetch: the catalog that was fetched is the one that counts
example (after : Nat → Fetched) :
    ((evaluateInSteps (Feed.fetch ⟨fun
      | 0 => ⟨.ok [⟨"a", true, false, ["b"], []⟩, ⟨"b", true, false, [], []⟩], []⟩
      | n + 1 => after n⟩) "a" .null).run 0).map Prod.fst id = (.ok true, 1) := by rfl

end Engine

end FeatureToggles
