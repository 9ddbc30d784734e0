import FeatureToggles.Fault
import FeatureToggles.Json.Printer
import FeatureToggles.Log
import FeatureToggles.Text.Encoding

/-!
# Replies

What the service answers: a status and a body, which is JSON but for the text of the metrics.  The
faults of the service are reported with the trace that is being recorded, if there is one.

A reply has to be written, and there is JSON that cannot be: that with numbers that are not finite, and
that with texts that hold halves of pairs.  The text of the metrics is made of names that came with
requests, and it can always be written.

Main statements: no trace is told unless it is recorded (`recordedTrace_not_recording`), and a reply is
written as it is or not at all (`eq_of_written`).
-/

namespace FeatureToggles

/-- The body of a reply. -/
inductive Body where
  | empty
  | json (j : Json)
  | text (s : String)

/-- What keeps a body from being written, if anything does. -/
def Body.flaw? : Body → Option Fault
  | .json j =>
    if j.isFinite then (Text.Encoding.unwritable? j.write).map (.other .encoding ·)
    else some (.other .value "Out of range float values are not JSON compliant")
  | _ => none

/-- An answer of the service. -/
structure Reply where
  status : Nat
  body : Body

namespace Reply

/-- The trace that a report tells: that of the current span, if it is being recorded and has an
identifier. -/
def recordedTrace (span : Option Log.Span) (recording : Bool) : Option String :=
  match span with
  | some span => if recording && span.trace != 0 then some (Log.traceText span.trace) else none
  | none => none

/-- The body that reports a failure. -/
def reportBody (trace : Option String) (report : Failure.Report) : Json :=
  .obj [("trace_id", (trace.map Json.str).getD .null), ("code", .str report.code),
    ("message", .str report.message), ("details", .obj report.details)]

/-- The reply that makes a report. -/
def ofReport (trace : Option String) (report : Failure.Report) : Reply :=
  ⟨report.status, .json (reportBody trace report)⟩

/-- A reply with JSON. -/
def json (status : Nat) (j : Json) : Reply := ⟨status, .json j⟩

/-- A reply that only tells what is wrong. -/
def detail (status : Nat) (words : String) : Reply := json status (.obj [("detail", .str words)])

/-- The reply to a request that failed in a way that nobody expected. -/
def internalError : Reply :=
  json 500 (.obj [("code", .str "INTERNAL_ERROR"), ("message", .str "Internal server error"),
    ("details", .obj [])])

/-- The reply of the server to a request that the service did not answer. -/
def serverError : Reply := ⟨500, .text "Internal Server Error"⟩

/-- The reply as it is written, or what keeps it from being written. -/
def written (r : Reply) : Except Fault Reply :=
  match r.body.flaw? with
  | some fault => .error fault
  | none => .ok r

/-- Whether the reply can be written. -/
def isWritable (r : Reply) : Bool := r.body.flaw?.isNone

theorem recordedTrace_not_recording (span : Option Log.Span) : recordedTrace span false = none := by
  cases span <;> simp [recordedTrace]

theorem written_of_isWritable {r : Reply} (h : r.isWritable = true) : r.written = .ok r := by
  rw [written, Option.isNone_iff_eq_none.mp h]

theorem eq_of_written {r r' : Reply} (h : r.written = .ok r') : r' = r ∧ r.isWritable = true := by
  unfold written at h
  split at h
  · cases h
  · next hflaw => exact ⟨(Except.ok.inj h).symm, Option.isNone_iff_eq_none.mpr hflaw⟩

end Reply

end FeatureToggles
