import FeatureToggles.Log

/-!
# Requests

A request as it reaches the service: a method, a path, headers and a body.  The names of headers are in
lower case, and of headers of one name the first counts.  A body is JSON unless a header says otherwise.

Main statement: a request without headers gives no identifier (`identifier_of_headers_nil`).
-/

namespace FeatureToggles

/-- A request. -/
structure Request where
  method : String
  path : List Char
  /-- The headers, with their names in lower case. -/
  headers : List (String × String)
  body : List UInt8

namespace Request

/-- The text of a header. -/
def header? (r : Request) (name : String) : Option String :=
  (r.headers.find? fun header => header.1 == name).map (·.2)

/-- What a body is unless the client says otherwise. -/
def usualMediaType : String := "application/json"

/-- What the client says that the body is. -/
def mediaType (r : Request) : String := (r.header? "content-type").getD usualMediaType

/-- The identifier that the client gave the request. -/
def identifier (r : Request) : Option String := r.header? "x-request-id"

theorem identifier_of_headers_nil {r : Request} (h : r.headers = []) : r.identifier = none := by
  rw [identifier, header?, h]
  rfl

end Request

end FeatureToggles
