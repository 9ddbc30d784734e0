import FeatureToggles.Expr.Eval
import FeatureToggles.Expr.Parser

/-!
# Faults of expressions

A text that does not parse and an expression without a value are faults of their own kind.  An integer
that is too long, an operator that the language does not have and a failure inside a value are errors of
other kinds, which the language does not make its own.

Main statement: a failure inside a value speaks for itself (`ofEvalError_value`).
-/

namespace FeatureToggles

namespace Fault

/-- The fault of a text that does not parse. -/
def ofParseError (e : ParseError) : Fault :=
  match e with
  | .oversizedInteger _ => other .value e.message
  | _ => of (.malformed e.message (e.position?.map Int.ofNat))

/-- The fault of an expression without a value. -/
def ofEvalError (e : EvalError) : Fault :=
  match e with
  | .value v => v.fault
  | .unknownOperator _ => other .key e.message
  | _ => of (.undefined e.message none)

theorem ofEvalError_value (e : Value.Error) : ofEvalError (.value e) = e.fault := rfl

end Fault

end FeatureToggles
