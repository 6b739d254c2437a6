import Reshape.Conversion.Conforms
import Reshape.Number.Binary

/-!
# Converting values

`cast` turns a value into one of a given type, or says why it cannot.  It never truncates: an integer
keeps its value, a number becomes a floating-point number only if it is one, and an object must be an
instance of the type it is cast to.
-/

namespace Reshape

/-- Why a value is not converted. -/
inductive CastError where
  /-- Null has no counterpart in a plain type. -/
  | null (target : ValueType)
  /-- An object is not an instance of the type. -/
  | notInstance (actual expected : TypeId)
  /-- A number is not one of the type. -/
  | lossy (value : Value) (target : ValueType)
  /-- Values of this kind are never converted to the type. -/
  | unrelated (label : String) (target : ValueType)
deriving DecidableEq, Inhabited

/-- The largest power of two up to which the 32-bit format has every integer. -/
def exactInt32 : Nat := 16777216

/-- The largest power of two up to which the 64-bit format has every integer. -/
def exactInt64 : Nat := 9007199254740992

namespace Value

/-- An integer as a value of a numeric type, if the type has it. -/
def ofInteger? (n : Int) : ValueType → Option Value
  | .int32 =>
    if -2147483648 ≤ n ∧ n ≤ 2147483647 then some (.int32 (Int32.ofInt n)) else none
  | .int64 =>
    if -9223372036854775808 ≤ n ∧ n ≤ 9223372036854775807 then some (.int64 (Int64.ofInt n))
    else none
  | .uint32 => if 0 ≤ n ∧ n ≤ 4294967295 then some (.uint32 (UInt32.ofNat n.toNat)) else none
  | .uint64 =>
    if 0 ≤ n ∧ n ≤ 18446744073709551615 then some (.uint64 (UInt64.ofNat n.toNat)) else none
  | .float32 =>
    if n.natAbs ≤ exactInt32 then (Number.float32OfInt? n).map .float32 else none
  | .float64 =>
    if n.natAbs ≤ exactInt64 then (Number.float64OfInt? n).map .float64 else none
  | _ => none

/-- A number as a value of a numeric type, if the type has it. -/
def castNumber? (v : Value) (target : ValueType) : Option Value :=
  match v, target with
  | .float32 x, .float32 => some (.float32 x)
  | .float32 x, .float64 => some (.float64 (Number.widen x))
  | .float64 x, .float32 => (Number.narrow? x).map .float32
  | .float64 x, .float64 => some (.float64 x)
  | v, target => v.integer?.bind (ofInteger? · target)

end Value

namespace TypeTable

variable (t : TypeTable)

/-- Convert a value to a type. -/
def cast : ValueType → Value → Except CastError Value
  | .any, v => .ok v
  | .nullable inner, v =>
    match v with
    | .null => .ok .null
    | v => cast inner v
  | .list element, v =>
    match v with
    | .null => .ok .null
    | .list items => (items.mapM (cast element)).map .list
    | v => .error (.unrelated v.label (.list element))
  | .object expected, v =>
    match v with
    | .null => .ok .null
    | .object ref =>
      if t.isSubtype ref.type expected then .ok (.object ref)
      else .error (.notInstance ref.type expected)
    | v => .error (.unrelated v.label (.object expected))
  | target, v =>
    match target, v with
    | target, .null => if target.acceptsNull then .ok .null else .error (.null target)
    | .blob, .blob b => .ok (.blob b)
    | .bool, .bool b => .ok (.bool b)
    | .text, .text s => .ok (.text s)
    | target, v =>
      if v.isNumeric && target.isNumeric then
        match v.castNumber? target with
        | some w => .ok w
        | none => .error (.lossy v target)
      else .error (.unrelated v.label target)

end TypeTable
end Reshape
