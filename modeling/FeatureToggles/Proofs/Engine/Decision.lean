import FeatureToggles.Proofs.Engine.Coherence
import FeatureToggles.Proofs.Engine.Rules
import Mathlib

/-!
# What decides about a feature

The decision about a name is told by rules (`Decides`): the first feature of the name counts, its
prerequisites come before its flag, and its flag before its rules; on a context the first rule that is
not skipped decides, and without such a rule the feature is active.

Nothing else of the catalog matters (`Agree`): of other features only the names and the flags, and of
the feature itself neither the default nor the rules after the one that decides.

Main statement: `evaluateOn_iff_decides`.
-/

namespace FeatureToggles

/-! ## Features of a catalog -/

namespace Catalog

/-- Whether a feature is the first one of its name. -/
def First (catalog : Catalog) (name : String) (f : Feature) : Prop :=
  ∃ before after, catalog = before ++ f :: after ∧ f.name = name ∧ ∀ g ∈ before, g.name ≠ name

/-- The names among some that are absent or whose first feature has its flag not set. -/
inductive Unmet (catalog : Catalog) : List String → List String → Prop where
  | nil : Unmet catalog [] []
  | lacking {name : String} {names missing : List String} :
      (∀ f, First catalog name f → f.enabled = false) → Unmet catalog names missing →
      Unmet catalog (name :: names) (name :: missing)
  | met {name : String} {names missing : List String} {f : Feature} :
      First catalog name f → f.enabled = true → Unmet catalog names missing →
      Unmet catalog (name :: names) missing

lemma find?_eq_some_iff {catalog : Catalog} {name : String} {f : Feature} :
    catalog.find? name = some f ↔ First catalog name f := by
  unfold find? First
  rw [List.find?_eq_some_iff_append]
  constructor
  · rintro ⟨hname, before, after, rfl, hbefore⟩
    exact ⟨before, after, rfl, by simpa using hname, by simpa using hbefore⟩
  · rintro ⟨before, after, rfl, hname, hbefore⟩
    exact ⟨by simpa using hname, before, after, rfl, by simpa using hbefore⟩

lemma find?_eq_none_iff {catalog : Catalog} {name : String} :
    catalog.find? name = none ↔ ∀ f ∈ catalog, f.name ≠ name := by
  simp [find?]

lemma meets_eq_true_iff {catalog : Catalog} {name : String} :
    catalog.meets name = true ↔ ∃ f, First catalog name f ∧ f.enabled = true := by
  simp only [← find?_eq_some_iff]
  unfold meets
  cases catalog.find? name <;> simp

lemma unmet_iff {catalog : Catalog} {names missing : List String} :
    Unmet catalog names missing ↔ catalog.missing names = missing := by
  constructor
  · intro h
    unfold Catalog.missing
    induction h with
    | nil => rfl
    | @lacking name names missing hname _ ih =>
        have hmeets : catalog.meets name = false := by
          rw [← Bool.not_eq_true, meets_eq_true_iff]
          rintro ⟨f, hf, henabled⟩
          simp [hname f hf] at henabled
        simp [hmeets, ih]
    | met hf henabled _ ih =>
        have hmeets := meets_eq_true_iff.mpr ⟨_, hf, henabled⟩
        simp [hmeets, ih]
  · rintro rfl
    unfold Catalog.missing
    induction names with
    | nil => exact .nil
    | cons name names ih =>
        cases hmeets : catalog.meets name with
        | true =>
            obtain ⟨f, hf, henabled⟩ := meets_eq_true_iff.mp hmeets
            simpa [hmeets] using Unmet.met hf henabled ih
        | false =>
            have hlacking : ∀ f, First catalog name f → f.enabled = false := by
              intro f hf
              by_contra henabled
              have := meets_eq_true_iff.mpr ⟨f, hf, by simpa using henabled⟩
              simp [hmeets] at this
            simpa [hmeets] using Unmet.lacking hlacking ih

end Catalog

namespace Engine

open Catalog (First Unmet)
open Context (Given)

/-! ## The rules of the decision -/

/-- What an evaluation tells: whether the feature is active, or why this is not known, with the
prerequisites that are not met. -/
inductive Answer where
  | active (b : Bool)
  | refused (reason : Reason) (missing : List String)
deriving DecidableEq

/-- What a result tells, if it is a truth value or a failure of the feature. -/
def Answer.ofResult? : Except Fault Bool → Option Answer
  | .ok b => some (.active b)
  | .error fault =>
    match fault.failure with
    | .feature f => some (.refused f.reason f.missing)
    | _ => none

/-- A feature that counts, has its prerequisites, and has its flag set. -/
structure Ready (catalog : Catalog) (name : String) (f : Feature) : Prop where
  first : First catalog name f
  unmet : Unmet catalog f.dependsOn []
  enabled : f.enabled = true

/-- The decision about a name. -/
inductive Decides (catalog : Catalog) (name : String) (value : Value) : Answer → Prop where
  | absent : (∀ f ∈ catalog, f.name ≠ name) →
      Decides catalog name value (.refused .notFound [])
  | unmet {f : Feature} {missing : List String} :
      First catalog name f → Unmet catalog f.dependsOn missing → missing ≠ [] →
      Decides catalog name value (.refused .dependenciesUnsatisfied missing)
  | disabled {f : Feature} :
      First catalog name f → Unmet catalog f.dependsOn [] → f.enabled = false →
      Decides catalog name value (.refused .disabled [])
  | unconditional {f : Feature} :
      Ready catalog name f → f.rules = [] ∨ value = .null →
      Decides catalog name value (.active true)
  | unsuitable {f : Feature} :
      Ready catalog name f → f.rules ≠ [] → value ≠ .null → (∀ c, ¬ Given value c) →
      Decides catalog name value (.refused .evaluationFailed [])
  | skipped {f : Feature} {c : Context} :
      Ready catalog name f → Given value c → (∀ r ∈ f.rules, r.Skipped c) →
      Decides catalog name value (.active true)
  | matched {f : Feature} {c : Context} {before after : List Rule} {r : Rule} :
      Ready catalog name f → Given value c → f.rules = before ++ r :: after →
      (∀ s ∈ before, s.Skipped c) → r.Matches c →
      Decides catalog name value (.active r.enabled)
  | failed {f : Feature} {c : Context} {before after : List Rule} {r : Rule} :
      Ready catalog name f → Given value c → f.rules = before ++ r :: after →
      (∀ s ∈ before, s.Skipped c) → ¬ r.Skipped c → ¬ r.Matches c →
      Decides catalog name value (.refused .evaluationFailed [])

/-! ## The decision is taken -/

variable {catalog : Catalog} {name : String} {value : Value} {f : Feature}

lemma decide_of_absent (h : ∀ f ∈ catalog, f.name ≠ name) :
    decide catalog name value =
      (.error (refusal name ("Feature '" ++ name ++ "' not found") .notFound []), []) := by
  unfold decide
  rw [Catalog.find?_eq_none_iff.mpr h]

lemma decide_of_unmet {missing : List String} (hf : First catalog name f)
    (hunmet : Unmet catalog f.dependsOn missing) (hmissing : missing ≠ []) :
    decide catalog name value =
      (.error (refusal name
        ("Dependencies for feature '" ++ name ++ "' are not satisfied. Missing dependencies: " ++
          ", ".intercalate missing) .dependenciesUnsatisfied missing), []) := by
  unfold decide
  rw [Catalog.find?_eq_some_iff.mpr hf]
  simp [Catalog.unmet_iff.mp hunmet, hmissing]

lemma decide_of_disabled (hf : First catalog name f) (hunmet : Unmet catalog f.dependsOn [])
    (henabled : f.enabled = false) :
    decide catalog name value =
      (.error (refusal name ("Feature '" ++ name ++ "' is disabled") .disabled []), []) := by
  unfold decide
  rw [Catalog.find?_eq_some_iff.mpr hf]
  simp [Catalog.unmet_iff.mp hunmet, henabled]

lemma decide_of_ready (h : Ready catalog name f) :
    decide catalog name value = decideActive f value := by
  unfold decide
  rw [Catalog.find?_eq_some_iff.mpr h.first]
  simp [Catalog.unmet_iff.mp h.unmet, h.enabled]

lemma decideActive_of_given {c : Context} (h : Given value c) :
    decideActive f value =
      match scan f.name (some c) 0 f.rules with
      | (.error fault, events) => (.error fault, events)
      | (.ok (some outcome), events) => (.ok outcome, events)
      | (.ok none, events) => (.ok f.enabled, events) := by
  unfold decideActive
  cases hrules : f.rules with
  | nil => rfl
  | cons r rules =>
      cases h <;> rfl

lemma decideActive_of_free (h : f.rules = [] ∨ value = .null) :
    decideActive f value = (.ok f.enabled, []) := by
  unfold decideActive
  rcases h with hrules | rfl
  · simp [hrules]
  · simp

lemma decideActive_of_unsuitable {fault : Fault} (hrules : f.rules ≠ [])
    (h : Context.ofValue value = .error fault) : decideActive f value = (.error fault, []) := by
  have hempty : f.rules.isEmpty = false := by simpa using hrules
  unfold decideActive
  cases value with
  | null => cases h
  | _ => simp only [hempty, Bool.false_eq_true, if_false, h]

/-- What a decision comes to before the evaluation concludes it: a refusal, a truth value, or an error on the
way through the rules. -/
inductive ComesTo (catalog : Catalog) (name : String) (value : Value) : Answer → Prop where
  | refused {message : String} {reason : Reason} {missing : List String} :
      (∀ f, ¬ Ready catalog name f) →
      decide catalog name value = (.error (refusal name message reason missing), []) →
      ComesTo catalog name value (.refused reason missing)
  | active {b : Bool} {events : List Event} :
      decide catalog name value = (.ok b, events) → ComesTo catalog name value (.active b)
  | broken {f : Feature} {fault : Fault} {events : List Event} :
      Ready catalog name f → decide catalog name value = decideActive f value →
      decideActive f value = (.error fault, events) →
      ComesTo catalog name value (.refused .evaluationFailed [])

lemma Decides.comesTo {answer : Answer} (h : Decides catalog name value answer) :
    ComesTo catalog name value answer := by
  cases h with
  | absent h =>
      refine .refused (fun f hf => ?_) (decide_of_absent h)
      obtain ⟨before, after, rfl, hname, -⟩ := hf.first
      exact h f (by simp) hname
  | @unmet f missing hf hunmet hmissing =>
      refine .refused (fun g hg => hmissing ?_) (decide_of_unmet hf hunmet hmissing)
      have heq := (Catalog.find?_eq_some_iff.mpr hf).symm.trans (Catalog.find?_eq_some_iff.mpr hg.first)
      obtain rfl : f = g := by simpa using heq
      exact (Catalog.unmet_iff.mp hunmet).symm.trans (Catalog.unmet_iff.mp hg.unmet)
  | @disabled f hf hunmet henabled =>
      refine .refused (fun g hg => ?_) (decide_of_disabled hf hunmet henabled)
      have heq := (Catalog.find?_eq_some_iff.mpr hf).symm.trans (Catalog.find?_eq_some_iff.mpr hg.first)
      obtain rfl : f = g := by simpa using heq
      exact absurd hg.enabled (by simp [henabled])
  | @unconditional f hready h =>
      have hdecide : decide catalog name value = (.ok true, []) := by
        rw [decide_of_ready hready, decideActive_of_free h, hready.enabled]
      exact .active hdecide
  | @unsuitable f hready hrules hnull hgiven =>
      obtain ⟨c, hc⟩ | ⟨fault, hfault⟩ := Context.exists_given_or_error hnull
      · exact absurd hc (hgiven c)
      · exact .broken hready (decide_of_ready hready) (decideActive_of_unsuitable hrules hfault)
  | @skipped f c hready hc hall =>
      have hdecide : ∃ events, decide catalog name value = (.ok true, events) := by
        rw [decide_of_ready hready, decideActive_of_given hc, scan_of_skipped hall, hready.enabled]
        exact ⟨_, rfl⟩
      exact .active hdecide.choose_spec
  | @matched f c before after r hready hc hrules hbefore hr =>
      have hscan : ∃ events, scan f.name (some c) 0 f.rules = (.ok (some r.enabled), events) := by
        rw [hrules, scan_append_of_skipped hbefore, scan_of_matches hr]
        exact ⟨_, rfl⟩
      obtain ⟨events, hscan⟩ := hscan
      have hdecide : decide catalog name value = (.ok r.enabled, events) := by
        rw [decide_of_ready hready, decideActive_of_given hc, hscan]
      exact .active hdecide
  | @failed f c before after r hready hc hrules hbefore hskipped hmatches =>
      have hscan : ∃ fault events, scan f.name (some c) 0 f.rules = (.error fault, events) := by
        rw [hrules, scan_append_of_skipped hbefore]
        obtain ⟨_, _, _, -, hscan⟩ | ⟨_, -, hscan⟩ :=
          scan_of_fails hskipped hmatches f.name (0 + before.length) after
        · exact ⟨_, _, hscan⟩
        · exact ⟨_, _, hscan⟩
      obtain ⟨fault, events, hscan⟩ := hscan
      have hactive : decideActive f value = (.error fault, events) := by
        rw [decideActive_of_given hc, hscan]
      exact .broken hready (decide_of_ready hready) hactive

/-- There are no two decisions about a name. -/
lemma ComesTo.eq {answer answer' : Answer} (h : ComesTo catalog name value answer)
    (h' : ComesTo catalog name value answer') : answer = answer' := by
  cases h with
  | refused hnone hdecide =>
      cases h' with
      | refused _ hdecide' =>
          have heq := hdecide.symm.trans hdecide'
          simp only [refusal, Fault.of, Prod.mk.injEq, Except.error.injEq, Fault.mk.injEq,
            Failure.feature.injEq, FeatureFailure.mk.injEq] at heq
          rw [heq.1.1.2.2.1, heq.1.1.2.2.2.1]
      | active hdecide' => simp [hdecide] at hdecide'
      | broken hready => exact absurd hready (hnone _)
  | active hdecide =>
      cases h' with
      | refused _ hdecide' => simp [hdecide] at hdecide'
      | active hdecide' =>
          have heq := hdecide.symm.trans hdecide'
          simp only [Prod.mk.injEq, Except.ok.injEq] at heq
          rw [heq.1]
      | broken _ hdecide' hbroken =>
          have heq := hdecide.symm.trans (hdecide'.trans hbroken)
          simp at heq
  | broken hready hdecide hbroken =>
      cases h' with
      | refused hnone => exact absurd hready (hnone _)
      | active hdecide' =>
          have heq := hdecide'.symm.trans (hdecide.trans hbroken)
          simp at heq
      | broken => rfl

/-- Every decision is what the evaluation tells, unless it comes to an error on the way through the rules and
the evaluation is left with what came of one that was raised inside the value. -/
theorem Decides.evaluateOn {answer : Answer} (h : Decides catalog name value answer)
    (events : List Event) :
    Answer.ofResult? (evaluateOn ⟨.ok catalog, events⟩ name value).1 = some answer ∨
      answer = .refused .evaluationFailed [] ∧
        ∃ fault met, (Engine.evaluateOn ⟨.ok catalog, events⟩ name value).1 = .error fault ∧
          value.Raises met ∧ met.LeavesOver fault := by
  rw [evaluateOn_fst_of_ok rfl]
  cases h.comesTo with
  | refused _ hdecide =>
      rw [hdecide]
      exact .inl rfl
  | active hdecide =>
      rw [hdecide]
      exact .inl rfl
  | @broken f fault events' hready hdecide hbroken =>
      rw [hdecide]
      cases hconclude : (conclude name (decideActive f value)).1.mapError Fault.traced with
      | ok b =>
          -- the end of an evaluation makes no truth value of an error
          have hsome : ∃ e, (conclude name (decideActive f value)).1 = .error e := by
            rw [hbroken]
            unfold conclude
            dsimp only
            split
            · exact ⟨_, rfl⟩
            · split <;> exact ⟨_, rfl⟩
          obtain ⟨e, he⟩ := hsome
          simp [he, Except.mapError] at hconclude
      | error fault' =>
          rcases breaks_of_ends (ends_decideActive f value) hconclude with
            ⟨-, f', hf', hreason, hmissing⟩ | ⟨cause, hraises, hleft⟩
          · refine .inl ?_
            simp only [Answer.ofResult?, hf', hreason, hmissing]
          · exact .inr ⟨rfl, fault', cause, rfl, hraises, hleft⟩

/-- On a value inside which all errors can be told, a decision is what the evaluation tells. -/
lemma Decides.ofResult?_evaluateOn {answer : Answer} (h : Decides catalog name value answer)
    (htold : ∀ fault, value.Raises fault → fault.IsTellable) (events : List Event) :
    Answer.ofResult? (Engine.evaluateOn ⟨.ok catalog, events⟩ name value).1 = some answer := by
  rcases h.evaluateOn events with htells | ⟨-, fault, met, -, hraises, hleft⟩
  · exact htells
  · exact absurd hleft (not_leavesOver_of_isTellable (htold met hraises))

/-- With prerequisites and flag in order, the rules and the context decide. -/
lemma Ready.exists_decides (h : Ready catalog name f) (value : Value) :
    ∃ answer, Decides catalog name value answer := by
  by_cases hfree : f.rules = [] ∨ value = .null
  · exact ⟨_, .unconditional h hfree⟩
  · obtain ⟨hrules, hnull⟩ := not_or.mp hfree
    by_cases hgiven : ∃ c, Given value c
    · obtain ⟨c, hc⟩ := hgiven
      obtain hall | ⟨before, r, after, hsplit, hbefore, hr⟩ := exists_first_rule c f.rules
      · exact ⟨_, .skipped h hc hall⟩
      · by_cases hmatches : r.Matches c
        · exact ⟨_, .matched h hc hsplit hbefore hmatches⟩
        · exact ⟨_, .failed h hc hsplit hbefore hr hmatches⟩
    · exact ⟨_, .unsuitable h hrules hnull (not_exists.mp hgiven)⟩

/-- A decision is taken about every name. -/
theorem exists_decides (catalog : Catalog) (name : String) (value : Value) :
    ∃ answer, Decides catalog name value answer := by
  cases hfind : catalog.find? name with
  | none => exact ⟨_, .absent (Catalog.find?_eq_none_iff.mp hfind)⟩
  | some f =>
      have hf := Catalog.find?_eq_some_iff.mp hfind
      have hunmet := Catalog.unmet_iff.mpr (rfl : catalog.missing f.dependsOn = _)
      by_cases hmissing : catalog.missing f.dependsOn = []
      · rw [hmissing] at hunmet
        cases henabled : f.enabled with
        | false => exact ⟨_, .disabled hf hunmet henabled⟩
        | true => exact Ready.exists_decides ⟨hf, hunmet, henabled⟩ value
      · exact ⟨_, .unmet hf hunmet hmissing⟩

/-! ## What does not matter -/

/-- Features with the same name and the same flag. -/
structure SameFlag (f g : Feature) : Prop where
  name : f.name = g.name
  enabled : f.enabled = g.enabled

/-- Rules that are the same up to one that is not skipped on the context of a value, if there is
such a rule. -/
inductive RulesAgree (value : Value) : List Rule → List Rule → Prop where
  | refl (rules : List Rule) : RulesAgree value rules rules
  | cut {c : Context} {r : Rule} (before after after' : List Rule) :
      Given value c → ¬ r.Skipped c →
      RulesAgree value (before ++ r :: after) (before ++ r :: after')

/-- Catalogs that have the same names and flags, and also the same prerequisites and deciding rules
where a name is found. -/
inductive Agree (name : String) (value : Value) : Catalog → Catalog → Prop where
  | nil : Agree name value [] []
  | other {f g : Feature} {fs gs : Catalog} :
      f.name ≠ name → SameFlag f g → Agree name value fs gs →
      Agree name value (f :: fs) (g :: gs)
  | found {f g : Feature} {fs gs : Catalog} :
      f.name = name → SameFlag f g → f.dependsOn = g.dependsOn →
      RulesAgree value f.rules g.rules → List.Forall₂ SameFlag fs gs →
      Agree name value (f :: fs) (g :: gs)

lemma Agree.sameFlags {fs gs : Catalog} (h : Agree name value fs gs) :
    List.Forall₂ SameFlag fs gs := by
  induction h with
  | nil => exact .nil
  | other _ hflag _ ih => exact .cons hflag ih
  | found _ hflag _ _ hrest => exact .cons hflag hrest

lemma meets_congr {fs gs : Catalog} (h : List.Forall₂ SameFlag fs gs) (n : String) :
    Catalog.meets fs n = Catalog.meets gs n := by
  induction h with
  | nil => rfl
  | @cons f g fs gs hflag _ ih =>
      unfold Catalog.meets Catalog.find? at ih ⊢
      rw [List.find?_cons, List.find?_cons, ← hflag.name]
      cases hname : f.name == n with
      | true => exact hflag.enabled
      | false => exact ih

lemma missing_congr {fs gs : Catalog} (h : List.Forall₂ SameFlag fs gs) (names : List String) :
    Catalog.missing fs names = Catalog.missing gs names := by
  unfold Catalog.missing
  simp only [meets_congr h]

/-- Where catalogs agree, a name is found in both of them or in none. -/
lemma Agree.find? {fs gs : Catalog} (h : Agree name value fs gs) :
    (Catalog.find? fs name = none ∧ Catalog.find? gs name = none) ∨
      ∃ f g, Catalog.find? fs name = some f ∧ Catalog.find? gs name = some g ∧ SameFlag f g ∧
        f.dependsOn = g.dependsOn ∧ RulesAgree value f.rules g.rules := by
  induction h with
  | nil => exact .inl ⟨rfl, rfl⟩
  | @other f g fs gs hname hflag _ ih =>
      -- the name is looked for in what follows, on both sides
      have hname' : g.name ≠ name := hflag.name ▸ hname
      simpa [Catalog.find?, List.find?_cons, hname, hname'] using ih
  | @found f g fs gs hname hflag hdepends hrules _ =>
      have hname' : g.name = name := hflag.name ▸ hname
      refine .inr ⟨f, g, ?_, ?_, hflag, hdepends, hrules⟩
      · simp [Catalog.find?, hname]
      · simp [Catalog.find?, hname']

lemma scan_congr {feature : String} {rules rules' : List Rule} {c : Context} (hc : Given value c)
    (h : RulesAgree value rules rules') (index : Nat) :
    scan feature (some c) index rules = scan feature (some c) index rules' := by
  cases h with
  | refl => rfl
  | @cut c' r before after after' hc' hr =>
      obtain rfl : c = c' := by
        have heq := (Context.given_iff.mp hc).symm.trans (Context.given_iff.mp hc')
        simpa using heq
      -- the scan may end before the rule that both lists share
      induction before generalizing index with
      | nil => exact scan_cons_congr hr index after after'
      | cons s before ih => rw [List.cons_append, List.cons_append, scan, scan, ih]

lemma RulesAgree.eq_nil_iff {rules rules' : List Rule} (h : RulesAgree value rules rules') :
    rules = [] ↔ rules' = [] := by
  cases h <;> simp

lemma decideActive_congr {f g : Feature} (hflag : SameFlag f g)
    (h : RulesAgree value f.rules g.rules) : decideActive f value = decideActive g value := by
  by_cases hnull : value = .null
  · subst hnull
    simp [decideActive, hflag.enabled]
  · rcases Context.exists_given_or_error hnull with ⟨c, hc⟩ | ⟨e, he⟩
    · rw [decideActive_of_given hc, decideActive_of_given hc, ← hflag.name, ← hflag.enabled,
        scan_congr hc h]
    · by_cases hrules : f.rules = []
      · simp [decideActive, hrules, h.eq_nil_iff.mp hrules, hflag.enabled]
      · simp [decideActive, hrules, mt h.eq_nil_iff.mpr hrules, he]

/-- Where catalogs agree, the evaluation gives and logs the same. -/
theorem Agree.evaluateOn_eq {fs gs : Catalog} (h : Agree name value fs gs) (events : List Event) :
    evaluateOn ⟨.ok gs, events⟩ name value = evaluateOn ⟨.ok fs, events⟩ name value := by
  have hdecide : decide gs name value = decide fs name value := by
    unfold decide
    rcases h.find? with ⟨hf, hg⟩ | ⟨f, g, hf, hg, hflag, hdepends, hrules⟩
    · rw [hf, hg]
    · rw [hf, hg]
      simp only [← hdepends, ← missing_congr h.sameFlags, ← hflag.enabled,
        decideActive_congr hflag hrules]
  unfold evaluateOn
  simp only [hdecide]

/-- One decision is taken about a name on a catalog, and the evaluation tells it, unless the decision is that
the evaluation fails, and it is left with what came of an error that was raised inside the value.  If all errors
that are raised there can be told, then the evaluation tells exactly what is decided.  It does not depend on
anything else that the catalog holds. -/
theorem evaluateOn_iff_decides (catalog : Catalog) (events : List Event) (name : String)
    (value : Value) :
    (∃! answer, Decides catalog name value answer) ∧
      (∀ answer, Decides catalog name value answer →
        Answer.ofResult? (evaluateOn ⟨.ok catalog, events⟩ name value).1 = some answer ∨
          answer = .refused .evaluationFailed [] ∧
            ∃ fault met, (evaluateOn ⟨.ok catalog, events⟩ name value).1 = .error fault ∧
              value.Raises met ∧ met.LeavesOver fault) ∧
      ((∀ fault, value.Raises fault → fault.IsTellable) → ∀ answer,
        Answer.ofResult? (evaluateOn ⟨.ok catalog, events⟩ name value).1 = some answer ↔
          Decides catalog name value answer) ∧
      ∀ catalog', Agree name value catalog catalog' →
        evaluateOn ⟨.ok catalog', events⟩ name value =
          evaluateOn ⟨.ok catalog, events⟩ name value := by
  obtain ⟨answer, hanswer⟩ := exists_decides catalog name value
  refine ⟨⟨answer, hanswer, fun answer' h' => h'.comesTo.eq hanswer.comesTo⟩,
    fun answer' h' => h'.evaluateOn events, fun htold answer' => ⟨fun h => ?_, fun h => ?_⟩,
    fun catalog' h => h.evaluateOn_eq events⟩
  · -- some answer is decided, and the evaluation tells every answer that is decided
    obtain rfl : answer' = answer :=
      Option.some.inj (h.symm.trans (hanswer.ofResult?_evaluateOn htold events))
    exact hanswer
  · exact h.ofResult?_evaluateOn htold events

/-- A rule that decides, where neither the rule after it nor the default matters. -/
theorem evaluateOn_first_of_two_rules :
    Agree "a" (.map []) [⟨"a", true, false, [], [⟨"true", false, false⟩, ⟨"b", true, false⟩]⟩]
        [⟨"a", true, true, [], [⟨"true", false, false⟩]⟩] ∧
      Decides [⟨"a", true, false, [], [⟨"true", false, false⟩, ⟨"b", true, false⟩]⟩] "a" (.map [])
        (.active false) ∧
      (evaluateOn ⟨.ok [⟨"a", true, true, [], [⟨"true", false, false⟩]⟩], []⟩ "a" (.map [])).1 =
        .ok false := by
  have hfirst : Condition.Yields "true" (.entries []) true :=
    ⟨.literal (.bool true), [], by cbv, rfl, rfl⟩
  have hagree : Agree "a" (.map [])
      [⟨"a", true, false, [], [⟨"true", false, false⟩, ⟨"b", true, false⟩]⟩]
      [⟨"a", true, true, [], [⟨"true", false, false⟩]⟩] :=
    .found rfl ⟨rfl, rfl⟩ rfl
      (.cut [] [⟨"b", true, false⟩] [] (.map [])
        fun hskipped => absurd (hfirst.eq hskipped.2) (by simp)) .nil
  have hdecides := evaluateOn_iff_decides
    [⟨"a", true, false, [], [⟨"true", false, false⟩, ⟨"b", true, false⟩]⟩] [] "a" (.map [])
  have htold : ∀ fault, (Value.map []).Raises fault → fault.IsTellable := fun fault hraises =>
    absurd hraises (Value.IsData.map (by simp) (by simp)).not_raises
  refine ⟨hagree, (hdecides.2.2.1 htold _).mp (by cbv), ?_⟩
  rw [hdecides.2.2.2 _ hagree]
  cbv

end Engine

end FeatureToggles
