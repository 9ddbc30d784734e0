import FeatureToggles.Value

/-!
# Expressions

The trees that conditions stand for: literals, dotted names, negations, comparisons and the two
logical connectives.  A tree that was assembled by hand may also hold a value where an expression
should be, or an operator outside the language; evaluation meets those only when it gets there, and
well-formed trees hold neither.

Main statement: every symbol is that of some operator (`Comparison.symbol_ofSymbol`).
-/

namespace FeatureToggles

/-- The comparison operators, and any other symbol in the place of one. -/
inductive Comparison where
  | eq
  | ne
  | lt
  | le
  | gt
  | ge
  | unknown (symbol : String)
deriving DecidableEq

/-- How a comparison operator is written. -/
def Comparison.symbol : Comparison → String
  | .eq => "=="
  | .ne => "!="
  | .lt => "<"
  | .le => "<="
  | .gt => ">"
  | .ge => ">="
  | .unknown symbol => symbol

/-- The operator that a symbol writes. -/
def Comparison.ofSymbol (symbol : String) : Comparison :=
  if symbol = "==" then .eq
  else if symbol = "!=" then .ne
  else if symbol = "<" then .lt
  else if symbol = "<=" then .le
  else if symbol = ">" then .gt
  else if symbol = ">=" then .ge
  else .unknown symbol

theorem Comparison.symbol_ofSymbol (symbol : String) :
    (Comparison.ofSymbol symbol).symbol = symbol := by
  unfold ofSymbol
  repeat' split
  all_goals simp_all [Comparison.symbol]

/-- An expression. -/
inductive Expr where
  | literal (v : Value)
  /-- A dotted name: an attribute of the context and the members read from it in turn. -/
  | name (root : String) (members : List String)
  | not (operand : Expr)
  | negate (operand : Expr)
  | compare (op : Comparison) (left right : Expr)
  | and (left right : Expr)
  | or (left right : Expr)
  /-- A value in the place of an expression. -/
  | foreign (v : Value)

namespace Expr

/-- A name as it is written. -/
def dotted (root : String) (members : List String) : String :=
  ".".intercalate (root :: members)

/-- Whether a tree is an expression throughout: no value stands in the place of one, and all
operators belong to the language. -/
inductive WellFormed : Expr → Prop where
  | literal (v : Value) : WellFormed (.literal v)
  | name (root : String) (members : List String) : WellFormed (.name root members)
  | not {e : Expr} : WellFormed e → WellFormed (.not e)
  | negate {e : Expr} : WellFormed e → WellFormed (.negate e)
  | compare {op : Comparison} {l r : Expr} :
      (∀ s, op ≠ .unknown s) → WellFormed l → WellFormed r → WellFormed (.compare op l r)
  | and {l r : Expr} : WellFormed l → WellFormed r → WellFormed (.and l r)
  | or {l r : Expr} : WellFormed l → WellFormed r → WellFormed (.or l r)

end Expr

end FeatureToggles
