import Reshape.Error.Basic
import Reshape.Store.Equality

/-!
# Operators on values

What the operators do to operands of one type.  Integers are exact: a result that does not fit its
type, and a division by zero, is an error.  Arithmetic with null gives null; an ordering with null is
false; null equals null only.
-/

namespace Reshape
namespace Operator

/-- The order of two values of one kind, where they have one. -/
def compare? : Value → Value → Option Ordering
  | .int32 a, .int32 b => some (Ord.compare a.toInt b.toInt)
  | .int64 a, .int64 b => some (Ord.compare a.toInt b.toInt)
  | .uint32 a, .uint32 b => some (Ord.compare a.toNat b.toNat)
  | .uint64 a, .uint64 b => some (Ord.compare a.toNat b.toNat)
  | .float32 a, .float32 b =>
    if a < b then some .lt else if a == b then some .eq else if b < a then some .gt else none
  | .float64 a, .float64 b =>
    if a < b then some .lt else if a == b then some .eq else if b < a then some .gt else none
  | .text a, .text b => some (if a < b then .lt else if a = b then .eq else .gt)
  | _, _ => none

/-- Whether an ordering operator accepts an order. -/
def accepts : Operator → Option Ordering → Bool
  | ge, some .gt | ge, some .eq => true
  | gt, some .gt => true
  | le, some .lt | le, some .eq => true
  | lt, some .lt => true
  | _, _ => false

/-- An arithmetic operator on integers; division goes toward zero, and none divides by zero. -/
def onIntegers? : Operator → Int → Int → Option Int
  | add, a, b => some (a + b)
  | sub, a, b => some (a - b)
  | mul, a, b => some (a * b)
  | _, a, b => if b = 0 then none else some (a.tdiv b)

/-- An arithmetic operator on 32-bit floating-point numbers. -/
def onFloat32 : Operator → Float32 → Float32 → Float32
  | add, a, b => a + b
  | sub, a, b => a - b
  | mul, a, b => a * b
  | _, a, b => a / b

/-- An arithmetic operator on 64-bit floating-point numbers. -/
def onFloat64 : Operator → Float → Float → Float
  | add, a, b => a + b
  | sub, a, b => a - b
  | mul, a, b => a * b
  | _, a, b => a / b

/-- An arithmetic operator on values. -/
def arithmetic (op : Operator) (l r : Value) : Except Error Value :=
  let integers (a b : Int) (type : ValueType) : Except Error Value :=
    match (op.onIntegers? a b).bind (Value.ofInteger? · type) with
    | some v => .ok v
    | none => .error (.arithmetic op l r)
  match l, r with
  | .int32 a, .int32 b => integers a.toInt b.toInt .int32
  | .int64 a, .int64 b => integers a.toInt b.toInt .int64
  | .uint32 a, .uint32 b => integers a.toNat b.toNat .uint32
  | .uint64 a, .uint64 b => integers a.toNat b.toNat .uint64
  | .float32 a, .float32 b => .ok (.float32 (op.onFloat32 a b))
  | .float64 a, .float64 b => .ok (.float64 (op.onFloat64 a b))
  | .text a, .text b =>
    if op = .add then .ok (.text (a ++ b)) else .error (.operandKinds op l.label r.label)
  | _, _ => .error (.operandKinds op l.label r.label)

/-- An operator on two values.  Objects are compared by content, in a store. -/
def apply (s : Store) (op : Operator) (l r : Value) : Except Error Value :=
  match op with
  | eq => .ok (.bool (s.sameValue l r))
  | ne => .ok (.bool (!s.sameValue l r))
  | ge | gt | le | lt => .ok (.bool (op.accepts (compare? l r)))
  | add | div | mul | sub => if l.isNull || r.isNull then .ok .null else op.arithmetic l r
  | and | or => .error (.notShortCircuited op)

end Operator
end Reshape
