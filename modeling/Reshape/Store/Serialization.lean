import Reshape.Store.Basic
import Reshape.Store.Visit
import Reshape.Text.Json

/-!
# Values as documents

A value becomes a document tagged with its kind; an object is written out with its slots wherever it
occurs.  That is impossible for an object that contains itself: the walk fails when it meets an object
that it is inside of.  Floating-point numbers are written as the hexadecimal digits of their bits, and
as null when they are not finite.
-/

namespace Reshape

open Text (Json)

/-- A 32-bit number in a document. -/
def float32Json (x : Float32) : Json :=
  if x.isFinite then .text (Text.paddedHex 8 x.toBits.toNat) else .null

/-- A 64-bit number in a document. -/
def float64Json (x : Float) : Json :=
  if x.isFinite then .text (Text.paddedHex 16 x.toBits.toNat) else .null

/-- A document tagged with its kind. -/
def tagged (tag : String) (content : Json) : Json :=
  .object [(tag, content)]

namespace Value

variable {m : Type → Type} [Monad m]

mutual

/-- A value as a document, given how objects are written. -/
def toJson (object : ObjectRef → m Json) : Value → m Json
  | .blob bytes => return tagged "Blob" (.array (bytes.map fun b => .number b.toNat))
  | .bool b => return tagged "Bool" (.bool b)
  | .float32 x => return tagged "Float32" (float32Json x)
  | .float64 x => return tagged "Float64" (float64Json x)
  | .int32 n => return tagged "Int32" (.number n.toInt)
  | .int64 n => return tagged "Int64" (.number n.toInt)
  | .list items => do
    let documents ← itemsToJson object items
    return tagged "List" (.array documents)
  | .null => return .text "Null"
  | .object ref => do
    let document ← object ref
    return tagged "Object" document
  | .text s => return tagged "Text" (.text s)
  | .uint32 n => return tagged "Uint32" (.number n.toNat)
  | .uint64 n => return tagged "Uint64" (.number n.toNat)

/-- The items of a list as documents. -/
def itemsToJson (object : ObjectRef → m Json) : List Value → m (List Json)
  | [] => return []
  | v :: rest => do
    let document ← toJson object v
    let documents ← itemsToJson object rest
    return document :: documents

end

end Value

namespace World

variable (w : World)

/-- The document of an object, from the documents of its slots. -/
def recordJson (ref : ObjectRef) (slots : List Json) : Json :=
  .object [("type", .text (w.types.name ref.type)), ("slots", .array slots)]

/-- An object as a document, to a depth; fails with the type of an object that is met inside itself. -/
def objectJson : Nat → ObjectRef → ExceptT TypeId Walk Json
  | 0, _ => .mk .tooDeep
  | depth + 1, ref =>
    let document := w.recordJson ref <$> Value.itemsToJson (objectJson depth) (w.store.slots ref)
    .mk (.guarded (.serialize ref.address) (.error ref.type) document.run)

/-- The serialization of a value to a depth. -/
def serialization (depth : Nat) (v : Value) : Walk (Except TypeId Json) :=
  (v.toJson (w.objectJson depth)).run

/-- A value as a document, or the type of an object that contains itself. -/
def serialize (v : Value) : Except TypeId Json :=
  (w.serialization (w.store.heap.size + 1) v).outcome?.getD (.error default)

end World

namespace TypeTable

/-- A value type as a document. -/
def typeJson (t : TypeTable) : ValueType → Json
  | .any => .text "Any"
  | .blob => .text "Blob"
  | .bool => .text "Bool"
  | .float32 => .text "Float32"
  | .float64 => .text "Float64"
  | .int32 => .text "Int32"
  | .int64 => .text "Int64"
  | .list element => tagged "List" (typeJson t element)
  | .nullable inner => tagged "Nullable" (typeJson t inner)
  | .object type => tagged "Object" (.text (t.name type))
  | .text => .text "Text"
  | .uint32 => .text "Uint32"
  | .uint64 => .text "Uint64"

end TypeTable
end Reshape
