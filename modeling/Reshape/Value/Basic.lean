import Reshape.Value.Type

/-!
# Values

A runtime value: null, a scalar, a list, or a reference to an object.  Objects are shared, so a value
holds an object's address and type and the object's slots live in the store.  Equality of this type
is identity: two references are equal iff they name the same object.  Comparison by content is
`Store.sameValue`.
-/

namespace Reshape

/-- A reference to an object: where it is stored, and which type it is an instance of. -/
structure ObjectRef where
  /-- Place of the object in the store. -/
  address : Nat
  /-- The type that the object was made from. -/
  type : TypeId
deriving DecidableEq, Repr, Inhabited

/-- A runtime value. -/
inductive Value where
  /-- A byte string. -/
  | blob (bytes : List UInt8)
  /-- A truth value. -/
  | bool (b : Bool)
  /-- A 32-bit floating-point number. -/
  | float32 (x : Float32)
  /-- A 64-bit floating-point number. -/
  | float64 (x : Float)
  /-- A signed 32-bit integer. -/
  | int32 (n : Int32)
  /-- A signed 64-bit integer. -/
  | int64 (n : Int64)
  /-- A list. -/
  | list (items : List Value)
  /-- The absent reference, or the empty nullable. -/
  | null
  /-- A reference to an object. -/
  | object (ref : ObjectRef)
  /-- A text. -/
  | text (s : String)
  /-- An unsigned 32-bit integer. -/
  | uint32 (n : UInt32)
  /-- An unsigned 64-bit integer. -/
  | uint64 (n : UInt64)
deriving Inhabited

namespace Value

/-- Whether the value is null. -/
def isNull : Value → Bool
  | null => true
  | _ => false

/-- Whether the value is an integer or a floating-point number. -/
def isNumeric : Value → Bool
  | float32 _ | float64 _ | int32 _ | int64 _ | uint32 _ | uint64 _ => true
  | _ => false

/-- The truth value, if it is one. -/
def bool? : Value → Option Bool
  | bool b => some b
  | _ => none

/-- The text, if it is one. -/
def text? : Value → Option String
  | text s => some s
  | _ => none

/-- The object reference, if it is one. -/
def object? : Value → Option ObjectRef
  | object ref => some ref
  | _ => none

/-- The items, if it is a list. -/
def list? : Value → Option (List Value)
  | list items => some items
  | _ => none

/-- The name of the kind of value, for messages. -/
def label : Value → String
  | blob _ => "Blob"
  | bool _ => "Bool"
  | float32 _ => "Float32"
  | float64 _ => "Float64"
  | int32 _ => "Int32"
  | int64 _ => "Int64"
  | list _ => "List"
  | null => "Null"
  | object _ => "Object"
  | text _ => "Text"
  | uint32 _ => "Uint32"
  | uint64 _ => "Uint64"

/-- The integer, if it is one of the four kinds. -/
def integer? : Value → Option Int
  | int32 n => some n.toInt
  | int64 n => some n.toInt
  | uint32 n => some n.toNat
  | uint64 n => some n.toNat
  | _ => none

mutual

/-- Whether two values are identical. -/
def same : Value → Value → Bool
  | blob a, blob b => a = b
  | bool a, bool b => a = b
  | float32 a, float32 b => a = b
  | float64 a, float64 b => a = b
  | int32 a, int32 b => a = b
  | int64 a, int64 b => a = b
  | list a, list b => sameItems a b
  | null, null => true
  | object a, object b => a = b
  | text a, text b => a = b
  | uint32 a, uint32 b => a = b
  | uint64 a, uint64 b => a = b
  | _, _ => false

/-- Whether two lists of values are identical. -/
def sameItems : List Value → List Value → Bool
  | [], [] => true
  | v :: vs, w :: ws => same v w && sameItems vs ws
  | _, _ => false

end

mutual

theorem same_iff : (v w : Value) → same v w = true ↔ v = w
  | list a, list b => by simp [same, sameItems_iff a b]
  | list _, blob _ | list _, bool _ | list _, float32 _ | list _, float64 _ | list _, int32 _
  | list _, int64 _ | list _, null | list _, object _ | list _, text _ | list _, uint32 _
  | list _, uint64 _ => by simp [same]
  | blob _, w | bool _, w | float32 _, w | float64 _, w | int32 _, w | int64 _, w | null, w
  | object _, w | text _, w | uint32 _, w | uint64 _, w => by cases w <;> simp [same]

theorem sameItems_iff : (vs ws : List Value) → sameItems vs ws = true ↔ vs = ws
  | [], [] | [], _ :: _ | _ :: _, [] => by simp [sameItems]
  | v :: vs, w :: ws => by simp [sameItems, same_iff v w, sameItems_iff vs ws]

end

instance : DecidableEq Value := fun v w => decidable_of_iff _ (same_iff v w)

end Value

/-- The zero value of a type: what an unassigned slot holds. -/
def ValueType.zero : ValueType → Value
  | .bool => .bool false
  | .float32 => .float32 (Float32.ofBits 0)
  | .float64 => .float64 (Float.ofBits 0)
  | .int32 => .int32 0
  | .int64 => .int64 0
  | .uint32 => .uint32 0
  | .uint64 => .uint64 0
  | _ => .null

end Reshape
