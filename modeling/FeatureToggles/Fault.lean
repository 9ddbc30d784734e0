import FeatureToggles.Failure

/-!
# Faults

A fault is an error as the service reports it: what failed, and the errors it came from.  An error
may have been raised because of another one, its cause, or while another one was being handled, its
context.  The chain of a fault follows the cause where there is one and the context otherwise.

What is told of a fault is made of texts, of its own and of those along its chain.  A text that is not
there makes another error of the telling.

Main statements: the chain starts with the fault itself (`chain_eq_cons`), and the causes of a fault can
be told exactly if each failure along its chain has a text (`hasTexts_iff`).
-/

namespace FeatureToggles

/-- A failure and the errors it came from. -/
inductive Fault where
  | mk (failure : Failure) (cause context : Option Fault)

namespace Fault

/-- What failed. -/
def failure : Fault → Failure
  | .mk failure _ _ => failure

/-- An error that came from no other. -/
def of (failure : Failure) : Fault := .mk failure none none

/-- The chain of a fault: the fault itself, and then the chain of its cause, or of its context if it
has no cause. -/
def chain : Fault → List Failure
  | .mk failure (some cause) _ => failure :: cause.chain
  | .mk failure none (some context) => failure :: context.chain
  | .mk failure none none => [failure]

theorem chain_eq_cons (f : Fault) : ∃ rest, f.chain = f.failure :: rest := by
  match f with
  | .mk failure (some cause) _ => exact ⟨cause.chain, by simp [chain, Fault.failure]⟩
  | .mk failure none (some context) => exact ⟨context.chain, by simp [chain, Fault.failure]⟩
  | .mk failure none none => exact ⟨[], by simp [chain, Fault.failure]⟩

/-- The number of links from a fault along its causes. -/
def causeDepth : Fault → Nat
  | .mk _ (some cause) _ => cause.causeDepth + 1
  | .mk _ none _ => 0

/-- An error of some class with a text. -/
def other (kind : ErrorClass) (text : String) : Fault := of (.other kind text)

/-- An error that is raised while another one may be handled. -/
def raise (handled : Option Fault) (raised : Failure) : Fault := .mk raised none handled

/-- The text of a fault that is being handled, or the error that comes of asking for it. -/
def text (f : Fault) : Except Fault String := f.failure.text.mapError (raise (some f))

/-- The labels along the chain, or the error that comes of asking for one of them. -/
def causes (f : Fault) : Except Failure (List String) := f.chain.mapM Failure.label

/-- Whether each failure along the chain has a text. -/
def HasTexts (f : Fault) : Prop := ∀ g ∈ f.chain, ∃ text, g.text = .ok text

/-- What raising the failure of a feature because of another error comes to, while an error may be
handled: to this failure, which lists the causes of the other error, or to the error that comes of
asking for them. -/
def featureCausedBy (handled : Option Fault) (feature message : String) (reason : Reason)
    (cause : Fault) : Fault :=
  match cause.causes with
  | .ok causes => .mk (.feature ⟨feature, message, reason, [], some causes⟩) (some cause) none
  | .error raised => raise handled raised

/-- An error as it leaves a traced operation, which asks it for its text. -/
def traced (f : Fault) : Fault :=
  match f.text with
  | .ok _ => f
  | .error raised => raised

/-- A condition that failed because of another error, if any. -/
def condition (condition snapshot message : String) (cause : Option Fault) : Fault :=
  .mk (.condition condition snapshot message) cause none

/-- Whether the fault is one of expressions: a text that is none, or one without a value. -/
def isExpressionError (f : Fault) : Bool :=
  match f.failure with
  | .malformed .. => true
  | .undefined .. => true
  | _ => false

theorem hasTexts_iff (f : Fault) : f.HasTexts ↔ ∃ causes, f.causes = .ok causes := by
  unfold HasTexts causes
  induction f.chain with
  | nil => simpa using ⟨[], rfl⟩
  | cons g chain ih =>
    have hlabel : (∃ text, g.text = .ok text) ↔ ∃ label, g.label = .ok label := by
      unfold Failure.label
      cases g.text with
      | ok text => simp [Except.map]
      | error raised => simp [Except.map]
    rw [List.forall_mem_cons, hlabel, ih, List.mapM_cons]
    cases g.label with
    | error raised => simp [bind, Except.bind]
    | ok label =>
      cases chain.mapM Failure.label <;> simp [bind, Except.bind, pure, Except.pure]

end Fault

end FeatureToggles
