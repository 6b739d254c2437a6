/-!
# Value types

The static type of a slot, a parameter or an expression.  Booleans and numbers are *plain* types:
they never hold null unless wrapped in `nullable`.  All other types always accept null.
-/

namespace Reshape

/-- A handle of a type definition: its place in the order of definition. -/
abbrev TypeId := Nat

/-- The static type of a slot, a parameter or an expression. -/
inductive ValueType where
  /-- Any value at all. -/
  | any
  /-- A byte string. -/
  | blob
  /-- A truth value. -/
  | bool
  /-- A 32-bit floating-point number. -/
  | float32
  /-- A 64-bit floating-point number. -/
  | float64
  /-- A signed 32-bit integer. -/
  | int32
  /-- A signed 64-bit integer. -/
  | int64
  /-- A list of elements of one type. -/
  | list (element : ValueType)
  /-- A value of the inner type, or null. -/
  | nullable (inner : ValueType)
  /-- An instance of a type definition or of one that derives from it. -/
  | object (type : TypeId)
  /-- A text. -/
  | text
  /-- An unsigned 32-bit integer. -/
  | uint32
  /-- An unsigned 64-bit integer. -/
  | uint64
deriving DecidableEq, Repr, Inhabited

namespace ValueType

/-- Booleans and numbers. -/
def isPlain : ValueType → Bool
  | bool | float32 | float64 | int32 | int64 | uint32 | uint64 => true
  | _ => false

/-- The integer types. -/
def isInteger : ValueType → Bool
  | int32 | int64 | uint32 | uint64 => true
  | _ => false

/-- The floating-point types. -/
def isFloat : ValueType → Bool
  | float32 | float64 => true
  | _ => false

/-- The integer and floating-point types. -/
def isNumeric (t : ValueType) : Bool :=
  t.isInteger || t.isFloat

/-- Whether the outermost layer is `nullable`. -/
def isNullable : ValueType → Bool
  | nullable _ => true
  | _ => false

/-- Whether null is a value of the type. -/
def acceptsNull (t : ValueType) : Bool :=
  !t.isPlain

/-- The type with null added: plain types are wrapped, the others have it already. -/
def orNull (t : ValueType) : ValueType :=
  if t.isPlain then nullable t else t

/-- The type without its outermost `nullable` layer, if it has one. -/
def underlying : ValueType → ValueType
  | nullable inner => inner
  | t => t

/-- The definition that an object type names. -/
def objectType? : ValueType → Option TypeId
  | object type => some type
  | _ => none

end ValueType
end Reshape
