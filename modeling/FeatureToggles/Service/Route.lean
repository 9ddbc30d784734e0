import FeatureToggles.Text.Split

/-!
# Routes

The resources of the service.  Each has a template, whose segments are literals or parameters, and one
method.  A path is matched segment by segment; after a literal at the end a line feed is ignored.  A
path that matches nothing is matched once more without the slashes at its end, and the client is sent
there if that matches.

Main statements: a path is sent on only to a shorter one (`length_trimSlashes_lt`), and parameters are
never empty (`matchSegments_parameter`).
-/

namespace FeatureToggles

/-- A segment of a template. -/
inductive Segment where
  | literal (text : String)
  | parameter (name : String)
deriving DecidableEq

/-- The resources of the service. -/
inductive Route where
  | health
  | metrics
  | index
  | features
  | feature
  | evaluate
deriving DecidableEq

namespace Route

/-- All resources, in the order in which they are looked up. -/
def all : List Route := [.health, .metrics, .index, .features, .feature, .evaluate]

/-- The name of the parameter that names a feature. -/
def featureParameter : String := "feature_name"

/-- The segments of a template; the first one stands before the first slash. -/
def segments : Route → List Segment
  | .health => [.literal "", .literal "health"]
  | .metrics => [.literal "", .literal "metrics"]
  | .index => [.literal "", .literal ""]
  | .features => [.literal "", .literal "features"]
  | .feature => [.literal "", .literal "features", .parameter featureParameter]
  | .evaluate =>
    [.literal "", .literal "features", .parameter featureParameter, .literal "evaluate"]

/-- The method of a resource. -/
def method : Route → String
  | .evaluate => "POST"
  | _ => "GET"

/-- A segment as a template shows it. -/
def segmentText : Segment → String
  | .literal text => text
  | .parameter name => "\x7b" ++ name ++ "\x7d"

/-- The template of a resource. -/
def template (route : Route) : String := "/".intercalate (route.segments.map segmentText)

/-! ## Matching -/

/-- Matches the segments of a template against those of a path, and gives the parameters. -/
def matchSegments : List Segment → List (List Char) → Option (List (List Char))
  | [], [] => some []
  | [.literal text], [part] =>
    if part = text.toList ∨ part = text.toList ++ ['\n'] then some [] else none
  | .literal text :: segments, part :: parts =>
    if part = text.toList then matchSegments segments parts else none
  | .parameter _ :: segments, part :: parts =>
    if part = [] then none else (matchSegments segments parts).map (part :: ·)
  | _, _ => none

/-- The parameters of a path that matches a resource. -/
def match? (route : Route) (path : List Char) : Option (List (List Char)) :=
  matchSegments route.segments (Text.split '/' path)

/-- What a path leads to. -/
inductive Target where
  /-- A resource and the parameter of the path, which is empty if the resource has none. -/
  | found (route : Route) (parameter : String)
  /-- A resource that does not have the method. -/
  | wrongMethod (route : Route)
  /-- A path that would lead somewhere. -/
  | elsewhere (path : List Char)
  | nowhere
deriving DecidableEq

/-- The parameter among those of a match. -/
def parameterOf (parameters : List (List Char)) : String :=
  String.ofList (parameters.head?.getD [])

/-- A path without the slashes at its end. -/
def trimSlashes (path : List Char) : List Char := (path.reverse.dropWhile (· == '/')).reverse

/-- Whether a path matches any resource. -/
def isMatched (routes : List Route) (path : List Char) : Bool :=
  routes.any fun route => (route.match? path).isSome

/-- What a path leads to among some resources.  One that has the method comes before one that does
not. -/
def lookup (routes : List Route) (method : String) (path : List Char) : Target :=
  match routes.findSome? fun route =>
    if route.method = method then (route.match? path).map (route, ·) else none with
  | some (route, parameters) => .found route (parameterOf parameters)
  | none =>
    match routes.find? fun route => (route.match? path).isSome with
    | some route => .wrongMethod route
    | none =>
      if path.getLast? = some '/' ∧ isMatched routes (trimSlashes path) then
        .elsewhere (trimSlashes path)
      else .nowhere

/-! ## Lemmas -/

theorem matchSegments_parameter {name : String} {segments : List Segment} {part : List Char}
    {parts : List (List Char)} {parameters : List (List Char)}
    (h : matchSegments (.parameter name :: segments) (part :: parts) = some parameters) :
    part ≠ [] := by
  unfold matchSegments at h
  split at h <;> simp_all

theorem length_trimSlashes_lt {path : List Char} (h : path.getLast? = some '/') :
    (trimSlashes path).length < path.length := by
  obtain ⟨before, rfl⟩ := List.getLast?_eq_some_iff.1 h
  have : ((before.reverse.dropWhile (· == '/')).length) ≤ before.length := by
    have := (List.dropWhile_sublist (· == '/') (l := before.reverse)).length_le
    simpa using this
  simp [trimSlashes]
  omega

end Route

end FeatureToggles
