import Reshape.Conversion.Rule
import Reshape.Error.Basic

/-!
# Typing of operators

Both operands of an operator are converted to one type.  It is the smaller of those that both convert
to implicitly, with null added if either operand has it.
-/

namespace Reshape
namespace TypeTable

variable (t : TypeTable)

/-- The smaller of two plain types that the other converts to. -/
def unifyUnderlying? (a b : ValueType) : Option ValueType :=
  if a = b then some a
  else if (t.implicitRule? a b).isSome then some b
  else if (t.implicitRule? b a).isSome then some a
  else none

/-- The common type of two types. -/
def unify? (a b : ValueType) : Option ValueType :=
  if a = b then some a
  else
    (t.unifyUnderlying? a.underlying b.underlying).map fun common =>
      if a.isNullable || b.isNullable then common.orNull else common

/-- The type that both operands of an operator are converted to. -/
def operandType (op : Operator) (lhs rhs : ValueType) : Except Error ValueType :=
  let undefined : Error := .undefinedOperator op lhs rhs
  if op.isLogical then
    if lhs = .bool ∧ rhs = .bool then .ok .bool else .error undefined
  else
    match t.unify? lhs rhs with
    | none => .error undefined
    | some operand =>
      let content := operand.underlying
      let defined :=
        op.isEquality || content.isNumeric ||
          (content == .text && (op.isOrdering || op == .add))
      if defined then .ok operand else .error undefined

end TypeTable
end Reshape
