import FeatureToggles.Text.Blank
import FeatureToggles.Text.Split

/-!
# The exporter of traces

Where traces are sent, and with which headers.  Headers are given as one text: segments between
commas, each a key and a value on the two sides of its first equals sign, with white space around
them ignored.  Segments without an equals sign and segments without a key are skipped.

Main statements: a segment without an equals sign gives no header (`header?_of_not_mem`), and the
value of a header that was just set is found (`find?_setHeader`).
-/

namespace FeatureToggles

/-- How traces are exported. -/
structure Exporter where
  endpoint : String
  /-- Keys and values, the keys in the order of their first appearance. -/
  headers : List (String × String)
  /-- Whether the connection is not secured. -/
  insecure : Bool

namespace Exporter

/-- The header that a segment writes, if it writes one. -/
def header? (segment : List Char) : Option (List Char × List Char) :=
  if '=' ∈ segment then
    let key := Text.trim (segment.takeWhile (· != '='))
    let value := Text.trim ((segment.dropWhile (· != '=')).drop 1)
    if key.isEmpty then none else some (key, value)
  else none

/-- Sets a header: in the place of its key if it is there, else at the end. -/
def setHeader (headers : List (String × String)) (key value : String) : List (String × String) :=
  match headers with
  | [] => [(key, value)]
  | header :: rest =>
    if header.1 = key then (key, value) :: rest else header :: setHeader rest key value

/-- The headers that a text writes; of a key that occurs again the last value counts. -/
def headersOf (cs : List Char) : List (String × String) :=
  ((Text.split ',' cs).filterMap header?).foldl
    (fun headers header =>
      setHeader headers (String.ofList header.1) (String.ofList header.2)) []

/-- A text, unless it is empty. -/
def nonempty? (s : String) : Option String := if s.isEmpty then none else some s

/-- The variable that holds the endpoint for traces. -/
def tracesVariable : String := "OTEL_EXPORTER_OTLP_TRACES_ENDPOINT"

/-- The variable that holds the endpoint for everything. -/
def endpointVariable : String := "OTEL_EXPORTER_OTLP_ENDPOINT"

/-- The variable that holds the headers. -/
def headersVariable : String := "OTEL_EXPORTER_OTLP_HEADERS"

/-- The endpoint that is used when none is named. -/
def defaultEndpoint : String := "http://otel-collector:4317"

/-- The exporter for an endpoint, if one is named, in an environment.  Empty texts name nothing. -/
def make (endpoint : Option String) (lookup? : String → Option String) : Exporter :=
  let endpoint :=
    (endpoint.bind nonempty? <|> (lookup? tracesVariable).bind nonempty? <|>
      (lookup? endpointVariable).bind nonempty?).getD defaultEndpoint
  { endpoint
    headers := headersOf ((lookup? headersVariable).getD "").toList
    insecure := "http://".toList.isPrefixOf endpoint.toList }

theorem header?_of_not_mem {segment : List Char} (h : '=' ∉ segment) : header? segment = none := by
  simp [header?, h]

theorem find?_setHeader (headers : List (String × String)) (key value : String) :
    (setHeader headers key value).find? (fun header => header.1 = key) = some (key, value) := by
  induction headers with
  | nil => simp [setHeader]
  | cons header rest ih =>
    by_cases h : header.1 = key
    · simp [setHeader, h]
    · simpa [setHeader, h] using ih

end Exporter

end FeatureToggles
