import FeatureToggles.Fault
import FeatureToggles.Metrics
import FeatureToggles.Value.Entries

/-!
# Measurements

What is counted may be told by values of any type.  A label is the text of a value.  A duration is a
binary number, or an integer or a boolean, which stand for one.  A value that has no text, or that is
added to no binary number, cannot be recorded.

Main statements: texts and binary numbers are recorded as they are (`record_request`,
`record_evaluation`), and what cannot be a duration is never recorded as one
(`record_evaluation_error`).
-/

namespace FeatureToggles

/-- Something to be counted. -/
inductive Measurement where
  | request (method endpoint status duration : Value)
  | healthCheck (status : Value)
  /-- An error of the service itself, if no other service is named. -/
  | error (kind service : Value)
  | evaluation (feature outcome duration : Value)

namespace Measurement

/-- The label that a value gives. -/
def label (v : Value) : Except Fault String :=
  match v.toText with
  | .ok s => .ok s
  | .error e => .error e.fault

/-- The duration that an integer gives, if a binary number comes near it. -/
def durationOfInt (i : Int) : Except Fault Binary64 :=
  match Binary64.ofInt i with
  | .infinite _ => .error (.other .oversized "int too large to convert to float")
  | x => .ok x

/-- The duration that a value gives. -/
def duration : Value → Except Fault Binary64
  | .number (.float x) => .ok x
  | .number (.int i) => durationOfInt i
  | .bool b => durationOfInt (if b then 1 else 0)
  | v =>
    .error (.other .type
      ("unsupported operand type(s) for +=: 'float' and '" ++ v.fullTypeName ++ "'"))

/-- The service that a value names; null, false, zero and what is empty name none. -/
def service? (v : Value) : Except Fault (Option String) :=
  if v.isVoid then .ok none else (label v).map some

end Measurement

namespace Metrics

open Measurement in
/-- Counts what was measured. -/
def record (m : Metrics) : Measurement → Except Fault Metrics
  | .request method endpoint status duration => do
    let status ← label status
    let method ← label method
    let endpoint ← label endpoint
    let duration ← Measurement.duration duration
    return m.recordRequest method endpoint status duration
  | .healthCheck status => do
    let status ← label status
    return m.recordHealthCheck status
  | .error kind service => do
    let kind ← label kind
    let service ← service? service
    return m.recordError kind service
  | .evaluation feature outcome duration => do
    let feature ← label feature
    let outcome ← label outcome
    let duration ← Measurement.duration duration
    return m.recordEvaluation feature outcome duration

theorem record_request (m : Metrics) (method endpoint status : String) (x : Binary64) :
    m.record (.request (.text method) (.text endpoint) (.text status) (.number (.float x))) =
      .ok (m.recordRequest method endpoint status x) := rfl

theorem record_evaluation (m : Metrics) (feature outcome : String) (x : Binary64) :
    m.record (.evaluation (.text feature) (.text outcome) (.number (.float x))) =
      .ok (m.recordEvaluation feature outcome x) := rfl

theorem record_evaluation_error (m : Metrics) (feature outcome : String) {v : Value} {f : Fault}
    (h : Measurement.duration v = .error f) :
    m.record (.evaluation (.text feature) (.text outcome) v) = .error f := by
  rw [record, h]
  rfl

end Metrics

end FeatureToggles
