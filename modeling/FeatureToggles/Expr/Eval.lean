import FeatureToggles.Expr
import FeatureToggles.Value.Entries

/-!
# Evaluation

An expression has a value in a scope, which binds names to values.  Connectives take their operands
from left to right and leave the right one alone when the left one decides.  Comparisons are defined
between values of one kind; anything equals or differs from null; only numbers and strings are
ordered.  The depth of expressions and values is not bounded: the limit that an interpreter sets to
recursion is not modelled.

Main statements: a name that the scope does not bind is an error that names it
(`resolve_of_lookup_none`), and the connectives are short-circuited (`evaluate_and_false`,
`evaluate_or_true`).
-/

namespace FeatureToggles

/-- The names in scope with their values; the last binding of a name counts. -/
abbrev Scope := List (String × Value)

/-- The value of a name. -/
def Scope.lookup (scope : Scope) (name : String) : Option Value :=
  (scope.reverse.find? fun binding => binding.1 == name).map (·.2)

/-- Why an expression has no value. -/
inductive EvalError where
  /-- A name that is not in scope. -/
  | unknownAttribute (name : String)
  /-- A member of a value that has none. -/
  | noMembers (owner : String) (kind : Value.Kind)
  /-- A member that a value does not have. -/
  | unknownMember (member owner : String)
  /-- An operand of a logical operator that is no boolean. -/
  | notBoolean (operator : String) (kind : Value.Kind)
  /-- An operand of a unary minus that is no number. -/
  | notNumber (kind : Value.Kind)
  /-- Operands that a comparison is not defined on. -/
  | incompatible (op : Comparison) (left right : Value.Kind)
  /-- A condition whose value is no boolean. -/
  | notCondition (kind : Value.Kind)
  /-- A value in the place of an expression. -/
  | notExpression (typeName : String)
  /-- An operator that the language does not have. -/
  | unknownOperator (symbol : String)
  /-- A failure inside a value. -/
  | value (e : Value.Error)

namespace EvalError

/-- The text of an error.  A failure inside a value has none here, as it has a fault of its own. -/
def message : EvalError → String
  | .unknownAttribute name => "No attribute '" ++ name ++ "' exists on the context"
  | .noMembers owner kind => "'" ++ owner ++ "' of type '" ++ kind.word ++ "' has no members"
  | .unknownMember member owner => "No member '" ++ member ++ "' exists on '" ++ owner ++ "'"
  | .notBoolean operator kind =>
    "Operator '" ++ operator ++ "' requires boolean operands, got '" ++ kind.word ++ "'"
  | .notNumber kind => "Operator '-' incompatible with operand type '" ++ kind.word ++ "'"
  | .incompatible op left right =>
    "Operator '" ++ op.symbol ++ "' incompatible with operand types '" ++ left.word ++ "' and '" ++
      right.word ++ "'"
  | .notCondition kind => "Expression must evaluate to a boolean, got '" ++ kind.word ++ "'"
  | .notExpression typeName => "Unsupported expression node " ++ typeName
  | .unknownOperator symbol => Text.quote symbol
  | .value _ => ""

end EvalError

namespace Expr

/-- Reads one member after the other; `owner` is the path so far. -/
def resolveMembers (owner : String) (v : Value) : List String → Except EvalError Value
  | [] => .ok v
  | member :: rest =>
    match v.members? with
    | .error e => .error (.value e)
    | .ok none => .error (.noMembers owner v.kind)
    | .ok (some entries) =>
      match Value.lookup entries (.text member) with
      | none => .error (.unknownMember member owner)
      | some w => resolveMembers (owner ++ "." ++ member) w rest

/-- The value of a dotted name. -/
def resolve (scope : Scope) (root : String) (members : List String) : Except EvalError Value :=
  match scope.lookup root with
  | none => .error (.unknownAttribute root)
  | some v => resolveMembers root v members

/-- Orders two numbers. -/
def orderNumbers (op : Comparison) (a b : Number) : Except EvalError Bool :=
  let answer := match op with
    | .lt => a.less b
    | .le => a.lessEqual b
    | .gt => b.less a
    | _ => b.lessEqual a
  answer.mapError fun e => .value (.arithmetic e)

/-- Orders two texts, by code points. -/
def orderTexts (op : Comparison) (s t : String) : Bool :=
  match op with
  | .lt => Text.points s < Text.points t
  | .le => !(Text.points t < Text.points s)
  | .gt => Text.points t < Text.points s
  | _ => !(Text.points s < Text.points t)

/-- Whether two values may be asked for equality: they have the same kind, or one is null. -/
def comparable (left right : Value) : Bool :=
  left.kind = right.kind || left.kind = .null || right.kind = .null

/-- The answer of a comparison. -/
def comparison (op : Comparison) (left right : Value) : Except EvalError Bool :=
  match op with
  | .eq =>
    if comparable left right then (left.equal right).mapError .value
    else .error (.incompatible op left.kind right.kind)
  | .ne =>
    if comparable left right then ((left.equal right).mapError .value).map (!·)
    else .error (.incompatible op left.kind right.kind)
  | _ =>
    match left, right with
    | .number a, .number b =>
      match op with
      | .unknown symbol => .error (.unknownOperator symbol)
      | op => orderNumbers op a b
    | .text s, .text t =>
      match op with
      | .unknown symbol => .error (.unknownOperator symbol)
      | op => .ok (orderTexts op s t)
    | _, _ => .error (.incompatible op left.kind right.kind)

/-- The boolean that an operand of a logical operator has to be. -/
def asBoolean (operator : String) : Except EvalError Value → Except EvalError Bool
  | .error e => .error e
  | .ok (.bool b) => .ok b
  | .ok v => .error (.notBoolean operator v.kind)

/-- The opposite of a number. -/
def minus : Value → Except EvalError Value
  | .number n =>
    match n.neg with
    | .ok n => .ok (.number n)
    | .error e => .error (.value (.arithmetic e))
  | v => .error (.notNumber v.kind)

/-- The value of an expression. -/
def evaluate (scope : Scope) : Expr → Except EvalError Value
  | .literal v => .ok v
  | .name root members => resolve scope root members
  | .not e => (asBoolean "!" (evaluate scope e)).map fun b => .bool !b
  | .negate e =>
    match evaluate scope e with
    | .error e => .error e
    | .ok v => minus v
  | .compare op l r =>
    match evaluate scope l with
    | .error e => .error e
    | .ok v =>
      match evaluate scope r with
      | .error e => .error e
      | .ok w => (comparison op v w).map .bool
  | .and l r =>
    match asBoolean "&&" (evaluate scope l) with
    | .error e => .error e
    | .ok false => .ok (.bool false)
    | .ok true => (asBoolean "&&" (evaluate scope r)).map .bool
  | .or l r =>
    match asBoolean "||" (evaluate scope l) with
    | .error e => .error e
    | .ok true => .ok (.bool true)
    | .ok false => (asBoolean "||" (evaluate scope r)).map .bool
  | .foreign v => .error (.notExpression v.typeName)

/-- The truth of a condition: the value of an expression, which has to be a boolean. -/
def holds (scope : Scope) (e : Expr) : Except EvalError Bool :=
  match evaluate scope e with
  | .error e => .error e
  | .ok (.bool b) => .ok b
  | .ok v => .error (.notCondition v.kind)

/-! ## Lemmas -/

theorem resolve_of_lookup_none {scope : Scope} {root : String} (members : List String)
    (h : scope.lookup root = none) :
    resolve scope root members = .error (.unknownAttribute root) := by
  simp [resolve, h]

theorem evaluate_and_false {scope : Scope} {l : Expr} (r : Expr)
    (h : evaluate scope l = .ok (.bool false)) :
    evaluate scope (.and l r) = .ok (.bool false) := by
  simp [evaluate, h, asBoolean]

theorem evaluate_or_true {scope : Scope} {l : Expr} (r : Expr)
    (h : evaluate scope l = .ok (.bool true)) :
    evaluate scope (.or l r) = .ok (.bool true) := by
  simp [evaluate, h, asBoolean]

end Expr

end FeatureToggles
