/-!
# Binary operators

The twelve operators, in four families: logical, equality, ordering and arithmetic.
-/

namespace Reshape

/-- A binary operator. -/
inductive Operator where
  /-- Sum, or concatenation of texts. -/
  | add
  /-- Conjunction. -/
  | and
  /-- Quotient. -/
  | div
  /-- Equality. -/
  | eq
  /-- At least. -/
  | ge
  /-- Greater. -/
  | gt
  /-- At most. -/
  | le
  /-- Less. -/
  | lt
  /-- Product. -/
  | mul
  /-- Inequality. -/
  | ne
  /-- Disjunction. -/
  | or
  /-- Difference. -/
  | sub
deriving DecidableEq, Repr, Inhabited

namespace Operator

/-- The sign of the operator. -/
def text : Operator → String
  | add => "+"
  | and => "&&"
  | div => "/"
  | eq => "=="
  | ge => ">="
  | gt => ">"
  | le => "<="
  | lt => "<"
  | mul => "*"
  | ne => "!="
  | or => "||"
  | sub => "-"

/-- The operator that a sign stands for. -/
def ofText? (sign : String) : Option Operator :=
  [add, and, div, eq, ge, gt, le, lt, mul, ne, or, sub].find? (·.text == sign)

/-- Conjunction and disjunction. -/
def isLogical : Operator → Bool
  | and | or => true
  | _ => false

/-- Equality and inequality. -/
def isEquality : Operator → Bool
  | eq | ne => true
  | _ => false

/-- The four comparisons by size. -/
def isOrdering : Operator → Bool
  | ge | gt | le | lt => true
  | _ => false

/-- Sum, quotient, product and difference. -/
def isArithmetic : Operator → Bool
  | add | div | mul | sub => true
  | _ => false

end Operator
end Reshape
