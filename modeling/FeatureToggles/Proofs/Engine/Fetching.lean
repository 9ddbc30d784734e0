import FeatureToggles.Proofs.Engine.Coherence
import FeatureToggles.Proofs.Engine.Decision

/-!
# Evaluations on what was fetched

What an evaluation gives depends on what came of the fetch, and not on what was logged meanwhile.  With a
catalog it tells what is decided on it, as long as all errors that are raised inside the value can be told.

Main statements: `exists_decides_evaluateOn` and `reason_eq_notFound_iff`.
-/

namespace FeatureToggles

namespace Engine

open Catalog (First)

variable {fetched fetched' : Fetched}

lemma evaluateOn_fst_congr (h : fetched.outcome = fetched'.outcome) (name : String)
    (value : Value) :
    (evaluateOn fetched name value).1 = (evaluateOn fetched' name value).1 := by
  unfold evaluateOn
  rw [h]

lemma isEnabledOn_fst_congr (h : fetched.outcome = fetched'.outcome) (name : String)
    (value : Value) :
    (isEnabledOn fetched name value).1 = (isEnabledOn fetched' name value).1 := by
  rw [isEnabledOn_fst, isEnabledOn_fst, evaluateOn_fst_congr h]

/-- With a catalog an evaluation tells what is decided on it. -/
lemma exists_decides_evaluateOn {catalog : Catalog} (h : fetched.outcome = .ok catalog)
    (name : String) {value : Value} (htold : ∀ fault, value.Raises fault → fault.IsTellable) :
    ∃ answer, Decides catalog name value answer ∧
      Answer.ofResult? (evaluateOn fetched name value).1 = some answer := by
  obtain ⟨outcome, events⟩ := fetched
  obtain rfl : outcome = .ok catalog := h
  obtain ⟨answer, hanswer⟩ := exists_decides catalog name value
  exact ⟨answer, hanswer, hanswer.ofResult?_evaluateOn htold events⟩

/-- A name is said not to be found exactly if the catalog does not have it. -/
lemma Decides.eq_notFound_or_first {catalog : Catalog} {name : String} {value : Value}
    {answer : Answer} (h : Decides catalog name value answer) :
    (catalog.find? name = none ∧ answer = .refused .notFound []) ∨
      ((catalog.find? name).isSome ∧ ∀ missing, answer ≠ .refused .notFound missing) := by
  have hfound : ∀ {f : Feature}, First catalog name f → (catalog.find? name).isSome :=
    fun hf => Option.isSome_iff_exists.mpr ⟨_, Catalog.find?_eq_some_iff.mpr hf⟩
  cases h with
  | absent h => exact .inl ⟨Catalog.find?_eq_none_iff.mpr h, rfl⟩
  | unmet hf | disabled hf => exact .inr ⟨hfound hf, by simp⟩
  | unconditional h | unsuitable h | skipped h | matched h | failed h =>
      exact .inr ⟨hfound h.first, by simp⟩

/-- What is said of a name that the catalog does not have. -/
lemma evaluateOn_of_absent {catalog : Catalog} (h : fetched.outcome = .ok catalog) {name : String}
    (habsent : catalog.find? name = none) (value : Value) : (evaluateOn fetched name value).1 =
      .error (refusal name ("Feature '" ++ name ++ "' not found") .notFound []) := by
  rw [evaluateOn_fst_of_ok h, decide, habsent]
  rfl

/-- A name that can be evaluated is one that the catalog has. -/
lemma isSome_find?_of_evaluateOn_ok {catalog : Catalog} (h : fetched.outcome = .ok catalog)
    {name : String} {value : Value} {b : Bool}
    (hresult : (evaluateOn fetched name value).1 = .ok b) : (catalog.find? name).isSome := by
  obtain ⟨outcome, events⟩ := fetched
  obtain rfl : outcome = .ok catalog := h
  obtain ⟨answer, hdecides⟩ := exists_decides catalog name value
  obtain hanswer | ⟨-, fault, -, hfault, -⟩ := hdecides.evaluateOn events
  · obtain rfl : Answer.active b = answer := by simpa [hresult, Answer.ofResult?] using hanswer
    rcases hdecides.eq_notFound_or_first with ⟨-, hrefused⟩ | ⟨hfound, -⟩
    · simp at hrefused
    · exact hfound
  · simp [hresult] at hfault

/-- An evaluation fails because a name is not found exactly if the catalog does not have it. -/
lemma reason_eq_notFound_iff {catalog : Catalog} (h : fetched.outcome = .ok catalog)
    {name : String} {value : Value} (htold : ∀ fault, value.Raises fault → fault.IsTellable)
    {fault : Fault} {f : FeatureFailure}
    (hresult : (evaluateOn fetched name value).1 = .error fault)
    (hfailure : fault.failure = .feature f) :
    f.reason = .notFound ↔ catalog.find? name = none := by
  obtain ⟨answer, hdecides, hanswer⟩ := exists_decides_evaluateOn h name htold
  obtain rfl : Answer.refused f.reason f.missing = answer := by
    simpa [hresult, Answer.ofResult?, hfailure] using hanswer
  rcases hdecides.eq_notFound_or_first with ⟨habsent, hrefused⟩ | ⟨hfound, hreason⟩
  · rw [Answer.refused.injEq] at hrefused
    exact iff_of_true hrefused.1 habsent
  · refine iff_of_false (fun hnotFound => hreason f.missing (hnotFound ▸ rfl)) ?_
    rw [← Option.not_isSome_iff_eq_none, not_not]
    exact hfound

end Engine

end FeatureToggles
