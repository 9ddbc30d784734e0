import FeatureToggles.Metrics
import FeatureToggles.Number.Shortest

/-!
# The exposition format

Metrics as text, one line for each number, after two lines that tell what the family is.  The labels
of a line are sorted by name.  Numbers are written as binary numbers; a positive one with more than
six digits before its point is written with an exponent.

Main statements: a label's value without backslashes, line feeds and quotes is written as it is
(`escapeLabel_plain`), and a family of counters has a line for each series after its two
(`length_counterLines`).
-/

namespace FeatureToggles

namespace Metrics

/-! ## Numbers -/

/-- Drops the zeros and points at the end of a row of digits. -/
def dropZeroTail (ds : List Char) : List Char :=
  (ds.reverse.dropWhile fun c => c == '0' || c == '.').reverse

/-- A text of a number with its point behind the first digit, if more than six digits stand before
it. -/
def movePoint (cs : List Char) : List Char :=
  let whole := cs.takeWhile (· != '.')
  match cs.dropWhile (· != '.'), whole with
  | '.' :: fraction, first :: rest =>
    if 6 < whole.length then
      dropZeroTail (first :: '.' :: rest ++ fraction) ++ ['e', '+', '0'] ++
        Nat.toDigits 10 (whole.length - 1)
    else cs
  | _, _ => cs

/-- A number of the exposition. -/
def numberText : Binary64 → String
  | .infinite negative => if negative then "-Inf" else "+Inf"
  | .nan _ => "NaN"
  | .finite true m e => (Binary64.finite true m e).toText
  | x => String.ofList (movePoint x.toText.toList)

/-- A count as a number of the exposition. -/
def countText (n : Nat) : String := numberText (Binary64.ofInt n)

/-! ## Lines -/

/-- One character of a label's value. -/
def escapeLabelChar (c : Char) : List Char :=
  if c = '\\' then ['\\', '\\'] else if c = '\n' then ['\\', 'n'] else if c = '"' then ['\\', '"']
  else [c]

/-- A label's value between its quotes. -/
def escapeLabel (value : String) : String := String.ofList (value.toList.flatMap escapeLabelChar)

/-- A label as it is written. -/
def labelText (label : String × String) : String :=
  label.1 ++ "=\"" ++ escapeLabel label.2 ++ "\""

/-- Labels as they are written, sorted by name. -/
def labelsText (labels : Labels) : String :=
  if labels.isEmpty then ""
  else
    let sorted := labels.mergeSort fun a b => decide (a.1 ≤ b.1)
    "\x7b" ++ ",".intercalate (sorted.map labelText) ++ "\x7d"

/-- The line of a number. -/
def line (name : String) (labels : Labels) (number : String) : String :=
  name ++ labelsText labels ++ " " ++ number

/-- The two lines that tell what a family is. -/
def header (name kind help : String) : List String :=
  ["# HELP " ++ name ++ " " ++ help, "# TYPE " ++ name ++ " " ++ kind]

/-- The lines of a family of counters. -/
def counterLines (name help : String) (family : Family Nat) : List String :=
  header name "counter" help ++ family.map fun series => line name series.1 (countText series.2)

/-- The lines of one histogram. -/
def histogramLines (name : String) (labels : Labels) (h : Histogram) : List String :=
  let bucket (entry : Binary64 × Nat) : String :=
    line (name ++ "_bucket") (labels ++ [("le", numberText entry.1)]) (countText entry.2)
  (bounds.zip (Histogram.cumulative 0 h.hits)).map bucket ++
    [line (name ++ "_count") labels (countText h.count),
      line (name ++ "_sum") labels (numberText h.sum)]

/-- The lines of a family of histograms. -/
def familyLines (name help : String) (family : Family Histogram) : List String :=
  header name "histogram" help ++
    family.flatMap fun series => histogramLines name series.1 series.2

/-- The lines of all metrics. -/
def lines (m : Metrics) : List String :=
  header "service_info_info" "gauge" "Service information" ++
    [line "service_info_info" [("service", m.service), ("version", version)] (countText 1)] ++
    counterLines "http_requests_total" "Total HTTP requests" m.requests ++
    familyLines "http_request_duration_seconds" "HTTP request duration in seconds"
      m.requestDurations ++
    counterLines "health_check_total" "Total health check requests" m.healthChecks ++
    counterLines "errors_total" "Total errors" m.errors ++
    counterLines "feature_evaluations_total" "Total feature evaluations" m.evaluations ++
    familyLines "feature_evaluation_duration_seconds" "Feature evaluation duration in seconds"
      [([], m.evaluationDurations)]

/-- The metrics as one text, in which every line ends with a line feed. -/
def exposition (m : Metrics) : String := String.join (m.lines.map (· ++ "\n"))

/-! ## Lemmas -/

theorem flatMap_escapeLabelChar {cs : List Char} (h : ∀ c ∈ cs, c ≠ '\\' ∧ c ≠ '\n' ∧ c ≠ '"') :
    cs.flatMap escapeLabelChar = cs := by
  induction cs with
  | nil => rfl
  | cons c cs ih =>
    obtain ⟨hb, hn, hq⟩ := h c (by simp)
    simp [escapeLabelChar, hb, hn, hq, ih fun d hd => h d (by simp [hd])]

theorem escapeLabel_plain {value : String}
    (h : ∀ c ∈ value.toList, c ≠ '\\' ∧ c ≠ '\n' ∧ c ≠ '"') : escapeLabel value = value := by
  simp [escapeLabel, flatMap_escapeLabelChar h]

theorem length_counterLines (name help : String) (family : Family Nat) :
    (counterLines name help family).length = family.length + 2 := by
  simp [counterLines, header]

end Metrics

end FeatureToggles
