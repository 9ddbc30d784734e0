import FeatureToggles.Catalog.Document
import FeatureToggles.Service.Reply
import FeatureToggles.Text.Split

/-!
# The body of an evaluation

A request for an evaluation may have a body: a JSON object whose field `context` holds the attributes
that the rules see.  Without a body, with null in its place, and without a context in it, there is no
context.  A body of another form is refused with the issue and the part of the body that has it, and so
is a body that is not said to be JSON.  The refusal of such a body tells it as a text, so that there is no
refusal where its bytes are none.

Main statements: a body without bytes stands for no context (`contextOf_nil`), and an object as
context is the mapping that it writes (`contextOfJson_obj`).
-/

namespace FeatureToggles

/-- Why a body is refused. -/
inductive BodyError where
  /-- An issue, with the part of the body that has it. -/
  | issue (found : Issue) (input : Json)
  /-- Bytes that are not said to be JSON. -/
  | foreign (bs : List UInt8)
  /-- Bytes that cannot be read at all. -/
  | unreadable

namespace BodyError

/-- The place of a body in a request. -/
def place : Step := .key "body"

/-- What more is told about a problem. -/
def extra : Problem → Json.Fields
  | .notJson flaw => [("ctx", .obj [("error", .str flaw)])]
  | _ => []

/-- An issue with its input, as JSON. -/
def issueJson (issue : Issue) (input : Json) : Json :=
  .obj ([("type", .str issue.problem.tag), ("loc", issue.pathJson),
    ("msg", .str issue.problem.message), ("input", input)] ++ extra issue.problem)

/-- The reply that tells an issue. -/
def issueReply (issue : Issue) (input : Json) : Reply :=
  Reply.json 422 (.obj [("detail", .arr [issueJson issue input])])

/-- The reply that refuses a body, or the error that comes of telling it. -/
def reply : BodyError → Except Fault Reply
  | .issue found input => .ok (issueReply found input)
  | .foreign bs =>
    match Text.decode .utf8 .refuse bs with
    | .ok cs => .ok (issueReply ⟨[place], .notObject⟩ (.str (String.ofList cs)))
    | .error e => .error (.ofDecodeError e)
  | .unreadable => .ok (Reply.detail 400 "There was an error parsing the body")

end BodyError

namespace Body

/-- Whether a media type is one of JSON; its case and its parameters do not count. -/
def isJsonType (mediaType : String) : Bool :=
  let named := Text.trim (mediaType.toList.takeWhile (· != ';'))
  match Text.split '/' (named.map Char.toLower) with
  | [kind, form] =>
    kind == "application".toList && (form == "json".toList || "+json".toList.isSuffixOf form)
  | _ => false

/-- The JSON value of a body of some media type, if it has one that is not null. -/
def read (mediaType : String) (bs : List UInt8) : Except BodyError (Option Json) :=
  if bs.isEmpty then .ok none
  else if !isJsonType mediaType then .error (.foreign bs)
  else match Json.ofBytes bs with
    | .ok .null => .ok none
    | .ok j => .ok (some j)
    | .error (.notJson (.flaw what index _ _)) =>
      .error (.issue ⟨[BodyError.place, .index index], .notJson what.words⟩ (.obj []))
    | .error _ => .error .unreadable

/-- The name of the field that holds the context. -/
def contextKey : String := "context"

/-- The context in the JSON value of a body, which has to be an object. -/
def contextOfJson : Json → Except BodyError Value
  | .obj fields =>
    match Json.Fields.get? fields contextKey with
    | none => .ok .null
    | some .null => .ok .null
    | some (.obj entries) => .ok (Json.obj entries).toValue
    | some j => .error (.issue ⟨[BodyError.place, .key contextKey], .notMapping⟩ j)
  | j => .error (.issue ⟨[BodyError.place], .notObject⟩ j)

/-- The context that a body of some media type gives. -/
def contextOf (mediaType : String) (bs : List UInt8) : Except BodyError Value :=
  match read mediaType bs with
  | .error e => .error e
  | .ok none => .ok .null
  | .ok (some j) => contextOfJson j

theorem contextOf_nil (mediaType : String) : contextOf mediaType [] = .ok .null := rfl

theorem contextOfJson_obj {fields entries : Json.Fields}
    (h : fields.get? contextKey = some (.obj entries)) :
    contextOfJson (.obj fields) = .ok (Json.obj entries).toValue := by
  simp [contextOfJson, h]

end Body

end FeatureToggles
