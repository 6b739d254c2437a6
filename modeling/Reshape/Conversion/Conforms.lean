import Reshape.Model.Table

/-!
# Which values a type holds

`conforms` says which values belong to a type, and `naturalType?` which type a literal has by itself.
An object belongs to its own type and to every base of it; null belongs to every type that is not
plain.
-/

namespace Reshape
namespace TypeTable

variable (t : TypeTable)

/-- Whether a value belongs to a type. -/
def conforms : ValueType → Value → Bool
  | .any, _ => true
  | type, .null => type.acceptsNull
  | .nullable inner, v => conforms inner v
  | .blob, .blob _ => true
  | .bool, .bool _ => true
  | .float32, .float32 _ => true
  | .float64, .float64 _ => true
  | .int32, .int32 _ => true
  | .int64, .int64 _ => true
  | .text, .text _ => true
  | .uint32, .uint32 _ => true
  | .uint64, .uint64 _ => true
  | .list element, .list items => items.all (conforms element)
  | .object type, .object ref => t.isSubtype ref.type type
  | _, _ => false

/-- The type of a literal.  Null has none.  The elements of a list share the type of the first if
all of them belong to it, and are typed `any` otherwise. -/
def naturalType? : Value → Option ValueType
  | .blob _ => some .blob
  | .bool _ => some .bool
  | .float32 _ => some .float32
  | .float64 _ => some .float64
  | .int32 _ => some .int32
  | .int64 _ => some .int64
  | .list [] => some (.list .any)
  | .list (first :: rest) =>
    match naturalType? first with
    | some type =>
      if (first :: rest).all (t.conforms type) then some (.list type) else some (.list .any)
    | none => some (.list .any)
  | .null => none
  | .object ref => some (.object ref.type)
  | .text _ => some .text
  | .uint32 _ => some .uint32
  | .uint64 _ => some .uint64

end TypeTable
end Reshape
