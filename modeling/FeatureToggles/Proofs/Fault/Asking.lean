import FeatureToggles.Fault
import Mathlib.Tactic.Common

/-!
# Errors that come of asking

Who handles an error asks it for its text, and perhaps all errors along its chain.  A mute error answers
by raising another one, which stands in the place of the answer and may be asked in its turn.  Whatever a
handler does with an error, what it raises is its own or comes of asking in this way.

Main statements: where all texts are there, nothing comes of asking (`HasTexts.not_asked`), and what comes
of asking what came of asking is nothing new (`Asked.of_within`).
-/

namespace FeatureToggles

namespace Fault

/-- Whether a failure comes of asking for texts behind a fault: one along its chain raised it instead of
telling its text, or one that came of asking did. -/
inductive Asked (cause : Fault) : Failure → Prop where
  | link {g raised : Failure} : g ∈ cause.chain → g.text = .error raised → Asked cause raised
  | again {g raised : Failure} : Asked cause g → g.text = .error raised → Asked cause raised

/-- Whether a fault can be made the failure of a feature: all its texts are there, and it is not such a
failure already. -/
structure IsTellable (fault : Fault) : Prop where
  hasTexts : fault.HasTexts
  notFeature : ∀ f, fault.failure ≠ .feature f

/-- Whether each failure along the chain of a fault is one along that of another fault, or comes of asking
there. -/
def Within (cause fault : Fault) : Prop := ∀ g ∈ fault.chain, g ∈ cause.chain ∨ cause.Asked g

variable {cause fault : Fault} {g raised : Failure}

lemma failure_mem_chain (fault : Fault) : fault.failure ∈ fault.chain := by
  obtain ⟨rest, hrest⟩ := chain_eq_cons fault
  simp [hrest]

lemma HasTexts.exists_text (h : fault.HasTexts) : ∃ text, fault.text = .ok text := by
  obtain ⟨text, htext⟩ := h _ (failure_mem_chain fault)
  exact ⟨text, by rw [Fault.text, htext, Except.mapError]⟩

/-- Where all texts are there, nothing comes of asking for them. -/
lemma HasTexts.not_asked (h : cause.HasTexts) : ¬ cause.Asked g := by
  intro hg
  induction hg with
  | link hmem htext =>
      obtain ⟨text, hok⟩ := h _ hmem
      simp [hok] at htext
  | again _ _ ih => exact ih

/-! ## Errors with all texts -/

/-- An error has all texts if it has one and the errors that it came from have theirs. -/
lemma hasTexts_mk {f : Failure} {text : String} {behind before : Option Fault}
    (htext : f.text = .ok text) (hbehind : ∀ e, behind = some e → e.HasTexts)
    (hbefore : ∀ e, before = some e → e.HasTexts) : (mk f behind before).HasTexts := by
  unfold HasTexts
  cases behind with
  | some e =>
      rw [chain, List.forall_mem_cons]
      exact ⟨⟨text, htext⟩, hbehind e rfl⟩
  | none =>
      cases before with
      | some e =>
          rw [chain, List.forall_mem_cons]
          exact ⟨⟨text, htext⟩, hbefore e rfl⟩
      | none =>
          rw [chain, List.forall_mem_singleton]
          exact ⟨text, htext⟩

lemma isTellable_of {failure : Failure} {text : String} (htext : failure.text = .ok text)
    (hfailure : ∀ f, failure ≠ .feature f) : (Fault.of failure).IsTellable where
  hasTexts := hasTexts_mk htext (by simp) (by simp)
  notFeature := hfailure

lemma isTellable_other (kind : ErrorClass) (text : String) : (Fault.other kind text).IsTellable :=
  isTellable_of rfl (by simp)

/-! ## Chains -/

lemma chain_raise_none (raised : Failure) : (raise none raised).chain = [raised] := by
  rw [raise, chain]

lemma chain_raise_some (fault : Fault) (raised : Failure) :
    (raise (some fault) raised).chain = raised :: fault.chain := by
  rw [raise, chain]

lemma Within.refl (fault : Fault) : Within fault fault := fun _ hg => .inl hg

lemma Asked.within_raise (h : cause.Asked raised) : Within cause (raise none raised) := by
  intro g hg
  rw [chain_raise_none, List.mem_singleton] at hg
  exact .inr (hg ▸ h)

lemma Within.raise (h : Within cause fault) (hraised : cause.Asked raised) :
    Within cause (.raise (some fault) raised) := by
  rw [Within, chain_raise_some, List.forall_mem_cons]
  exact ⟨.inr hraised, h⟩

/-- What comes of asking a fault that lies within another one comes of asking the latter. -/
lemma Asked.of_within (h : fault.Asked g) (hwithin : Within cause fault) : cause.Asked g := by
  induction h with
  | link hmem htext =>
      rcases hwithin _ hmem with hcause | hasked
      · exact .link hcause htext
      · exact .again hasked htext
  | again _ htext ih => exact .again ih htext

/-! ## Causes -/

variable {f : Failure} {context : Fault} {label : String} {causes : List String}

lemma causes_of (h : f.label = .ok label) : (of f).causes = .ok [label] := by
  rw [Fault.causes, of, chain, List.mapM_cons, h]
  rfl

lemma causes_mk (h : f.label = .ok label) (hcauses : cause.causes = .ok causes)
    (context : Option Fault) : (mk f (some cause) context).causes = .ok (label :: causes) := by
  rw [Fault.causes, chain, List.mapM_cons, h, ← Fault.causes, hcauses]
  rfl

lemma causes_mk_none (h : f.label = .ok label) (hcauses : context.causes = .ok causes) :
    (mk f none (some context)).causes = .ok (label :: causes) := by
  rw [Fault.causes, chain, List.mapM_cons, h, ← Fault.causes, hcauses]
  rfl

/-! ## What handlers ask -/

/-- A text that is not told is an error that was raised instead. -/
lemma asked_of_text {e : Fault} (h : fault.text = .error e) :
    ∃ raised, e = raise (some fault) raised ∧ fault.Asked raised := by
  unfold Fault.text at h
  cases htext : fault.failure.text with
  | ok text => simp [htext, Except.mapError] at h
  | error raised =>
      simp only [htext, Except.mapError, Except.error.injEq] at h
      exact ⟨raised, h.symm, .link (failure_mem_chain fault) htext⟩

lemma text_of_label_error (h : g.label = .error raised) : g.text = .error raised := by
  unfold Failure.label at h
  cases htext : g.text with
  | ok text => simp [htext, Except.map] at h
  | error e => simpa [htext, Except.map] using h

lemma exists_of_mapM_label {chain : List Failure} (h : chain.mapM Failure.label = .error raised) :
    ∃ g ∈ chain, g.text = .error raised := by
  induction chain with
  | nil => simp [pure, Except.pure] at h
  | cons g chain ih =>
      rw [List.mapM_cons] at h
      cases hlabel : g.label with
      | error e =>
          obtain rfl : e = raised := by simpa [hlabel, bind, Except.bind] using h
          exact ⟨g, by simp, text_of_label_error hlabel⟩
      | ok label =>
          cases hrest : chain.mapM Failure.label with
          | ok labels => simp [hlabel, hrest, bind, Except.bind, pure, Except.pure] at h
          | error e =>
              obtain rfl : e = raised := by simpa [hlabel, hrest, bind, Except.bind] using h
              obtain ⟨g', hg', htext⟩ := ih hrest
              exact ⟨g', by simp [hg'], htext⟩

lemma asked_of_causes (h : fault.causes = .error raised) : fault.Asked raised := by
  obtain ⟨g, hg, htext⟩ := exists_of_mapM_label h
  exact .link hg htext

/-- The failure of a feature that is raised because of a fault is there, or comes of asking the fault. -/
lemma featureCausedBy_eq (handled : Option Fault) (feature message : String) (reason : Reason)
    (cause : Fault) :
    (∃ causes, cause.causes = .ok causes ∧ featureCausedBy handled feature message reason cause =
        .mk (.feature ⟨feature, message, reason, [], some causes⟩) (some cause) none) ∨
      ∃ raised, cause.Asked raised ∧
        featureCausedBy handled feature message reason cause = raise handled raised := by
  unfold featureCausedBy
  cases hcauses : cause.causes with
  | ok causes => exact .inl ⟨causes, rfl, rfl⟩
  | error raised => exact .inr ⟨raised, asked_of_causes hcauses, rfl⟩

lemma featureCausedBy_of_hasTexts (handled : Option Fault) (feature message : String)
    (reason : Reason) (h : cause.HasTexts) :
    ∃ causes, cause.causes = .ok causes ∧ featureCausedBy handled feature message reason cause =
      .mk (.feature ⟨feature, message, reason, [], some causes⟩) (some cause) none := by
  obtain ⟨causes, hcauses⟩ := (hasTexts_iff cause).mp h
  exact ⟨causes, hcauses, by rw [featureCausedBy, hcauses]⟩

end Fault

end FeatureToggles
