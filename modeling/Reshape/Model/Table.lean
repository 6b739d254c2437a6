import Reshape.Model.Basic

/-!
# The table of type definitions

Definitions are numbered in the order in which they are made and never change, so a handle is a
number, and two definitions of one name have different handles.  A base is always older than what
derives from it; the walk up the base chain therefore runs down the table and ends.
-/

namespace Reshape

/-- All type definitions, newest first. -/
structure TypeTable where
  /-- The definitions, newest first; the handle of each is the number of older ones. -/
  newestFirst : List TypeModel
deriving Inhabited

namespace TypeTable

/-- No definitions. -/
def empty : TypeTable := ⟨[]⟩

/-- The number of definitions, which is the handle of the next one. -/
def size (t : TypeTable) : Nat :=
  t.newestFirst.length

/-- Add a definition; its handle is the old size. -/
def push (t : TypeTable) (m : TypeModel) : TypeTable :=
  ⟨m :: t.newestFirst⟩

/-- The definition of a handle in a list of definitions, newest first. -/
def modelIn : List TypeModel → TypeId → TypeModel
  | [], _ => default
  | m :: older, id => if id = older.length then m else modelIn older id

/-- The definition of a handle.  A handle that nothing was defined for names an empty type. -/
def model (t : TypeTable) (id : TypeId) : TypeModel :=
  modelIn t.newestFirst id

/-- The name of a type. -/
def name (t : TypeTable) (id : TypeId) : String :=
  (t.model id).name

/-- The base chain of a handle in a list of definitions, newest first. -/
def lineageIn : List TypeModel → TypeId → List TypeId
  | [], _ => []
  | m :: older, id =>
    if id = older.length then
      id :: (match m.base? with
        | some base => lineageIn older base
        | none => [])
    else lineageIn older id

/-- A type followed by its base chain. -/
def lineage (t : TypeTable) (id : TypeId) : List TypeId :=
  lineageIn t.newestFirst id

/-- Whether the first type is the second or derives from it. -/
def isSubtype (t : TypeTable) (derived base : TypeId) : Bool :=
  (t.lineage derived).contains base

/-- Whether a type or one of its bases declares an interface. -/
def implements (t : TypeTable) (id : TypeId) (interface : String) : Bool :=
  (t.lineage id).any fun level => (t.model level).interfaces.contains interface

/-! ## Names of types -/

/-- A value type as it is written. -/
def typeText (t : TypeTable) : ValueType → String
  | .any => "any"
  | .blob => "blob"
  | .bool => "bool"
  | .float32 => "float32"
  | .float64 => "float64"
  | .int32 => "int32"
  | .int64 => "int64"
  | .list element => "List<" ++ t.typeText element ++ ">"
  | .nullable inner => t.typeText inner ++ "?"
  | .object type => t.name type
  | .text => "text"
  | .uint32 => "uint32"
  | .uint64 => "uint64"

end TypeTable
end Reshape
