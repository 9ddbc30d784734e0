import FeatureToggles.Expr.Eval

/-!
# Contexts

Conditions are tested against a context, which lists named attributes: either an evaluation context
over a mapping, or an attribute provider of the caller, whose listing may fail.  For diagnostics a
context is shown as a snapshot.  There a value that cannot be written is replaced by a marker, and a
listing that fails by a sentence that names the error.  This sentence asks the error for its text, and an
error without one makes another error of it.

Main statements: null stands for no context (`ofValue_null`), what is neither a mapping nor an
attribute provider is refused (`ofValue_text`), and only an error without a text keeps a context from
being shown (`snapshot_eq_error_iff`).
-/

namespace FeatureToggles

/-- Something that lists attributes. -/
inductive Context where
  /-- An evaluation context over the entries of a mapping. -/
  | entries (entries : List (Value × Value))
  /-- An attribute provider with the rows it lists and the error its listing ends with, if any. -/
  | provider (self : Object) (rows : List (List Value)) (failure : Option Fault)

/-- The error of a value that is no context. -/
def noContext (v : Value) : Fault :=
  .other .type
    ("Context of type " ++ v.typeName ++ " must be a mapping or implement attributes()")

namespace Context

/-- The context that a value stands for.  Null stands for none, and a mapping for the evaluation
context over it.  An object may raise any error when it is looked at for its attributes. -/
def ofValue : Value → Except Fault (Option Context)
  | .null => .ok none
  | .map es => .ok (some (.entries es))
  | .context es => .ok (some (.entries es))
  | .provider self rows failure => .ok (some (.provider self rows failure))
  | .foreign _ (some fault) => .error fault
  | v => .error (noContext v)

theorem ofValue_null : ofValue .null = .ok none := rfl

theorem ofValue_text (s : String) : ofValue (.text s) = .error (noContext (.text s)) := rfl

/-- The context as a value. -/
def toValue : Context → Value
  | .entries es => .context es
  | .provider self rows failure => .provider self rows failure

/-- The rows that a context lists. -/
def rows : Context → List (List Value)
  | .entries es => es.map fun entry => [entry.1, entry.2]
  | .provider _ rows _ => rows

/-- The error with which the listing ends, if it does not end well. -/
def failure? : Context → Option Fault
  | .entries _ => none
  | .provider _ _ failure => failure

/-- The attributes that some rows list.  Each row has to be a pair of a name that can be written and
a value. -/
def attributesOfRows : List (List Value) → Except Value.Error (List (String × Value))
  | [] => .ok []
  | [name, v] :: rest =>
    match name.toText with
    | .error e => .error e
    | .ok name => (attributesOfRows rest).map ((name, v) :: ·)
  | row :: _ => .error (.notPair row.length)

/-- The attributes of a context, in the order in which it lists them. -/
def attributes (c : Context) : Except Value.Error (List (String × Value)) :=
  match attributesOfRows c.rows, c.failure? with
  | .error e, _ => .error e
  | .ok _, some fault => .error (.raised fault)
  | .ok attributes, none => .ok attributes

/-- The attributes of a context that may be absent. -/
def attributesOf : Option Context → Except Value.Error (List (String × Value))
  | none => .ok []
  | some c => c.attributes

/-! ## Snapshots -/

/-- The text of an attribute's value in a snapshot. -/
def shown : Value → Except Value.Error String
  | .null => .ok "null"
  | .bool b => .ok (if b then "true" else "false")
  | .text s => .ok ("\"" ++ s ++ "\"")
  | v => v.toText

/-- The entry of an attribute in a snapshot. -/
def shownAttribute (a : String × Value) : String :=
  let text := match shown a.2 with
    | .ok text => text
    | .error _ => "<unrenderable " ++ a.2.typeName ++ ">"
  a.1 ++ ": " ++ text

/-- What is shown in the place of attributes whose listing failed. -/
def unavailable (fault : Fault) (text : String) : String :=
  "<context attributes unavailable: " ++ fault.failure.className ++ ": " ++ text ++ ">"

/-- The text that shows a context in diagnostics, or the error that comes of asking for the text of the
error that its listing failed with. -/
def snapshot : Option Context → Except Fault String
  | none => .ok "No context details available (context is None)"
  | some c =>
    match c.attributes with
    | .ok attributes => .ok (", ".intercalate (attributes.map shownAttribute))
    | .error e => e.fault.text.map (unavailable e.fault)

theorem snapshot_of_text {c : Context} {e : Value.Error} {text : String}
    (h : c.attributes = .error e) (htext : e.fault.failure.text = .ok text) :
    snapshot (some c) = .ok (unavailable e.fault text) := by
  simp only [snapshot, h, Fault.text, htext]
  rfl

theorem exists_snapshot_of_attributesOf {context : Option Context}
    {attributes : List (String × Value)} (h : attributesOf context = .ok attributes) :
    ∃ text, snapshot context = .ok text := by
  match context, h with
  | none, _ => exact ⟨_, rfl⟩
  | some c, h =>
    simp only [snapshot, show c.attributes = .ok attributes from h]
    exact ⟨_, rfl⟩

theorem snapshot_eq_error_iff {context : Option Context} {raised : Fault} :
    snapshot context = .error raised ↔
      ∃ c e, context = some c ∧ c.attributes = .error e ∧ e.fault.text = .error raised := by
  cases context with
  | none => simp [snapshot]
  | some c =>
    unfold snapshot
    cases hattributes : c.attributes with
    | ok attributes => simp [hattributes]
    | error e => cases htext : e.fault.text <;> simp [hattributes, htext, Except.map]

/-! ## Evaluation contexts -/

/-- The evaluation context over some entries and further named values, which replace entries of the
same name. -/
def make (es : List (Value × Value)) (named : List (String × Value)) : Context :=
  .entries (named.foldl (fun es entry => Value.insert es (.text entry.1) entry.2) es)

/-- The names that no further value can have, as they name what an evaluation context is made from. -/
def reserved : List String := ["self", "attributes"]

/-- The error of a further value under a reserved name. -/
def reservedName (name : String) : Fault :=
  .other .type ("EvaluationContext.__init__() got multiple values for argument '" ++ name ++ "'")

/-- The evaluation context over the entries that a value makes and further named values. -/
def ofAttributes (attributes : Value) (named : List (String × Value)) : Except Fault Context :=
  match named.find? fun entry => reserved.contains entry.1 with
  | some (name, _) => .error (reservedName name)
  | none =>
    match attributes.entries with
    | .error e => .error e.fault
    | .ok es => .ok (make es named)

theorem ofAttributes_map (es : List (Value × Value)) {named : List (String × Value)}
    (h : (named.find? fun entry => reserved.contains entry.1) = none) :
    ofAttributes (.map es) named = .ok (make es named) := by
  rw [ofAttributes, h]
  rfl

/-- The value at a key, which has to be one that a mapping can have. -/
def get? (c : Context) (key : Value) : Except Value.Error (Option Value) :=
  match Value.keyError? key, c with
  | some e, _ => .error e
  | none, .entries es => .ok (Value.lookup es key)
  | none, .provider .. => .ok none

end Context

end FeatureToggles
