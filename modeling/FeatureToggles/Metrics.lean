import FeatureToggles.Number

/-!
# Metrics

What a service counts while it runs.  A family of series is told apart by labels; a series comes into
being when it is first used, and the series of a family are kept in that order.  A histogram counts
durations by the first of its bounds that they do not exceed, and adds them up.

Main statements: counting once adds one to the sum of a family (`total_increment`), and observing
once adds one to the count of a histogram (`count_observe`), unless what is observed is not a number.
-/

namespace FeatureToggles

namespace Metrics

/-! ## Series -/

/-- The labels of a series, by name. -/
abbrev Labels := List (String × String)

/-- The series of a family, in the order of their first use. -/
abbrev Family (α : Type) := List (Labels × α)

namespace Family

/-- Updates a series, which begins with `fresh` at its first use. -/
def update {α : Type} (fresh : α) (f : α → α) (labels : Labels) (family : Family α) : Family α :=
  match family with
  | [] => [(labels, f fresh)]
  | series :: rest =>
    if series.1 = labels then (labels, f series.2) :: rest else series :: update fresh f labels rest

/-- Counts once in a series. -/
def increment (labels : Labels) (family : Family Nat) : Family Nat :=
  update 0 (· + 1) labels family

/-- The sum of all series of a family. -/
def total (family : Family Nat) : Nat := family.foldr (fun series n => series.2 + n) 0

/-- The count of a series; one that was never used has none. -/
def count (family : Family Nat) (labels : Labels) : Nat :=
  ((family.find? fun series => series.1 = labels).map (·.2)).getD 0

theorem total_increment (labels : Labels) (family : Family Nat) :
    total (increment labels family) = total family + 1 := by
  unfold increment
  induction family with
  | nil => simp [update, total]
  | cons series rest ih =>
    simp only [total] at ih ⊢
    by_cases h : series.1 = labels
    · simp [update, h]
      omega
    · simp [update, h, ih]
      omega

end Family

/-! ## Histograms -/

/-- The upper bounds of the buckets as decimals, but for the last one, which takes what is left. -/
def decimalBounds : List (Nat × Int) :=
  [(5, -3), (1, -2), (25, -3), (5, -2), (75, -3), (1, -1), (25, -2), (5, -1), (75, -2), (1, 0),
    (25, -1), (5, 0), (75, -1), (10, 0)]

/-- The upper bounds of the buckets. -/
def bounds : List Binary64 :=
  decimalBounds.map (fun bound => Binary64.ofScientific false bound.1 bound.2) ++ [.infinite false]

/-- How often each bucket was hit, and the sum of what was observed. -/
structure Histogram where
  hits : List Nat
  sum : Binary64

/-- Whether a binary number does not exceed a bound; not-a-number exceeds every bound. -/
def within (x bound : Binary64) : Bool :=
  match Number.lessEqual (.float x) (.float bound) with
  | .ok answer => answer
  | .error _ => false

/-- The sum of some numbers. -/
def sumOf (ns : List Nat) : Nat := ns.foldr (· + ·) 0

/-- Adds one to the hits of the first bucket whose bound is not exceeded. -/
def hit (x : Binary64) : List Binary64 → List Nat → List Nat
  | bound :: bounds, n :: hits => if within x bound then (n + 1) :: hits else n :: hit x bounds hits
  | _, hits => hits

namespace Histogram

/-- A histogram of nothing. -/
def empty : Histogram := ⟨bounds.map fun _ => 0, Binary64.zero false⟩

/-- Observes a duration. -/
def observe (x : Binary64) (h : Histogram) : Histogram := ⟨hit x bounds h.hits, h.sum.add x⟩

/-- How often anything was observed that is a number. -/
def count (h : Histogram) : Nat := sumOf h.hits

/-- The hits up to each bound. -/
def cumulative (seen : Nat) : List Nat → List Nat
  | [] => []
  | n :: hits => (seen + n) :: cumulative (seen + n) hits

end Histogram

theorem sumOf_hit {x : Binary64} {bounds : List Binary64} {hits : List Nat}
    (hlength : bounds.length = hits.length) (h : ∃ bound ∈ bounds, within x bound = true) :
    sumOf (hit x bounds hits) = sumOf hits + 1 := by
  unfold sumOf
  induction bounds generalizing hits with
  | nil => simp at h
  | cons bound bounds ih =>
    cases hits with
    | nil => simp at hlength
    | cons n hits =>
      by_cases hb : within x bound = true
      · simp [hit, hb]
        omega
      · have htail : ∃ bound ∈ bounds, within x bound = true := by
          obtain ⟨b, hmem, hwithin⟩ := h
          rcases List.mem_cons.1 hmem with rfl | hmem
          · exact absurd hwithin hb
          · exact ⟨b, hmem, hwithin⟩
        have := ih (by simpa using hlength) htail
        simp [hit, hb, this]
        omega

/-- Every number is within the last bound. -/
theorem within_infinite {x : Binary64} (h : x.isNaN = false) : within x (.infinite false) = true := by
  cases x with
  | finite => rfl
  | infinite negative => cases negative <;> rfl
  | nan => cases h

theorem count_observe {x : Binary64} {h : Histogram} (hx : x.isNaN = false)
    (hlength : bounds.length = h.hits.length) : (h.observe x).count = h.count + 1 :=
  sumOf_hit hlength ⟨.infinite false, by simp [bounds], within_infinite hx⟩

end Metrics

/-! ## The metrics of a service -/

open Metrics in
/-- What a service has counted. -/
structure Metrics where
  service : String
  requests : Family Nat
  requestDurations : Family Histogram
  healthChecks : Family Nat
  errors : Family Nat
  evaluations : Family Nat
  evaluationDurations : Histogram

namespace Metrics

/-- The version that a service reports. -/
def version : String := "1.0.0"

/-- The metrics of a service that has not done anything yet. -/
def fresh (service : String) : Metrics := ⟨service, [], [], [], [], [], .empty⟩

/-- Counts a request that was answered with a status. -/
def recordRequest (m : Metrics) (method endpoint status : String) (duration : Binary64) : Metrics :=
  { m with
    requests := m.requests.increment
      [("method", method), ("endpoint", endpoint), ("status_code", status)]
    requestDurations := m.requestDurations.update .empty (Histogram.observe duration)
      [("method", method), ("endpoint", endpoint)] }

/-- Counts a check of the service's health. -/
def recordHealthCheck (m : Metrics) (status : String) : Metrics :=
  { m with healthChecks := m.healthChecks.increment [("status", status)] }

/-- Counts an error, of the service itself unless another one is named. -/
def recordError (m : Metrics) (kind : String) (service : Option String) : Metrics :=
  let service := match service with
    | some name => if name.isEmpty then m.service else name
    | none => m.service
  { m with errors := m.errors.increment [("error_type", kind), ("service", service)] }

/-- Counts the evaluation of a feature by its outcome. -/
def recordEvaluation (m : Metrics) (feature outcome : String) (duration : Binary64) : Metrics :=
  { m with
    evaluations := m.evaluations.increment [("feature", feature), ("outcome", outcome)]
    evaluationDurations := m.evaluationDurations.observe duration }

end Metrics

end FeatureToggles
