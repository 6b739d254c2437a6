import Reshape.Store.Basic
import Reshape.Store.Visit

/-!
# Equality of values by content

Scalars are equal as numbers and texts are, lists item by item, and two objects if they are the same
object or have the same type and equal slots.  Objects may contain themselves: a pair of objects that
is met again while it is being compared counts as equal, so that graphs are compared by shape.  Pairs
are finitely many, which bounds the depth of the comparison.
-/

namespace Reshape
namespace Value

mutual

/-- Whether two values are equal, given a comparison of objects. -/
def alike (object : ObjectRef → ObjectRef → Walk Bool) : Value → Value → Walk Bool
  | .blob a, .blob b => pure (a == b)
  | .bool a, .bool b => pure (a == b)
  | .float32 a, .float32 b => pure (a == b)
  | .float64 a, .float64 b => pure (a == b)
  | .int32 a, .int32 b => pure (a == b)
  | .int64 a, .int64 b => pure (a == b)
  | .list a, .list b => alikeItems object a b
  | .null, .null => pure true
  | .object a, .object b => object a b
  | .text a, .text b => pure (a == b)
  | .uint32 a, .uint32 b => pure (a == b)
  | .uint64 a, .uint64 b => pure (a == b)
  | _, _ => pure false

/-- Whether two lists are equal item by item. -/
def alikeItems (object : ObjectRef → ObjectRef → Walk Bool) : List Value → List Value → Walk Bool
  | [], [] => pure true
  | a :: as, b :: bs => do
    if ← alike object a b then alikeItems object as bs else pure false
  | _, _ => pure false

end

end Value

namespace Store

variable (s : Store)

/-- Whether two objects are equal, compared to a depth. -/
def objectsAlike : Nat → ObjectRef → ObjectRef → Walk Bool
  | 0, _, _ => .tooDeep
  | depth + 1, a, b =>
    if a.address = b.address then pure true
    else if a.type ≠ b.type then pure false
    else .guarded (.compare a.address b.address) true
      (Value.alikeItems (objectsAlike depth) (s.slots a) (s.slots b))

/-- The comparison of two values to a depth. -/
def comparison (depth : Nat) (v w : Value) : Walk Bool :=
  v.alike (s.objectsAlike depth) w

/-- Whether two values are equal by content. -/
def sameValue (v w : Value) : Bool :=
  (s.comparison (s.heap.size * s.heap.size + 1) v w).outcome?.getD false

end Store
end Reshape
