import Reshape.Number.Written
import Reshape.Store.Basic
import Reshape.Store.Visit
import Reshape.Text.Quoted

/-!
# How values are written in messages

Each value is written with the name of its kind, texts between quotes, and objects with the members
that are visible on their type.  An object inside itself is written as a cycle.  The objects that the walk is
inside of are distinct, so that the number of objects bounds its depth.
-/

namespace Reshape

/-- Join texts with a separator. -/
def joined (separator : String) (parts : List String) : String :=
  separator.intercalate parts

namespace Value

variable {m : Type → Type} [Monad m]

mutual

/-- A value as it is written, given how objects are written. -/
def rendered (object : ObjectRef → m String) : Value → m String
  | .blob bytes =>
    return "Blob([" ++ joined ", " (bytes.map fun b => Number.digitText b.toNat) ++ "])"
  | .bool b => return "Bool(" ++ (if b then "true" else "false") ++ ")"
  | .float32 x => return "Float32(" ++ Number.float32Text x ++ ")"
  | .float64 x => return "Float64(" ++ Number.float64Text x ++ ")"
  | .int32 n => return "Int32(" ++ Number.intText n.toInt ++ ")"
  | .int64 n => return "Int64(" ++ Number.intText n.toInt ++ ")"
  | .list items => do
    let texts ← renderedItems object items
    return "List([" ++ joined ", " texts ++ "])"
  | .null => return "Null"
  | .object ref => do
    let text ← object ref
    return "Object(" ++ text ++ ")"
  | .text s => return "Text(" ++ Text.quoted s ++ ")"
  | .uint32 n => return "Uint32(" ++ Number.digitText n.toNat ++ ")"
  | .uint64 n => return "Uint64(" ++ Number.digitText n.toNat ++ ")"

/-- The items of a list, each as it is written. -/
def renderedItems (object : ObjectRef → m String) : List Value → m (List String)
  | [] => return []
  | v :: rest => do
    let text ← rendered object v
    let texts ← renderedItems object rest
    return text :: texts

end

end Value

/-- The body of a method as it is written; a supplied one has no text of its own. -/
def MethodBody.text : MethodBody → String
  | .loadSlot slot => "LoadSlot(" ++ Number.digitText slot ++ ")"
  | .loadStatic slot => "LoadStatic(" ++ Number.digitText slot ++ ")"
  | .native _ => "Native(..)"
  | .storeSlot slot => "StoreSlot(" ++ Number.digitText slot ++ ")"
  | .storeStatic slot => "StoreStatic(" ++ Number.digitText slot ++ ")"

/-- A constructor step as it is written. -/
def SlotInit.text (step : SlotInit) : String :=
  "SlotInit \x7b param: " ++ Number.digitText step.parameter ++ ", slot: " ++
    Number.digitText step.slot ++ " \x7d"

/-- The body of a constructor as it is written; a supplied one has no text of its own. -/
def ConstructorBody.text : ConstructorBody → String
  | .assign steps => "Assign([" ++ joined ", " (steps.map SlotInit.text) ++ "])"
  | .native _ => "Native(..)"

namespace World

variable (w : World)

/-- What is written for a member of an object with given slots: the value in its slot, or a mark for
a member without one. -/
def memberText (object : ObjectRef → Walk String) (slots : List Value) (m : MemberRef) :
    Walk String :=
  match m.backingSlot?.bind (slots[·]?) with
  | some v => do
    let text ← v.rendered object
    return m.name ++ ": " ++ text
  | none => return m.name ++ ": \"<computed>\""

/-- An object as it is written, to a depth. -/
def objectText : Nat → ObjectRef → Walk String
  | 0, _ => .tooDeep
  | depth + 1, ref =>
    .guarded (.print ref.address) (w.types.name ref.type ++ " \x7b <cycle> \x7d") do
      let members ← (w.types.members ref.type).mapM (memberText (objectText depth) (w.store.slots ref))
      if members.isEmpty then
        return w.types.name ref.type
      return w.types.name ref.type ++ " \x7b " ++ joined ", " members ++ " \x7d"

/-- A value as it is written, to a depth. -/
def rendering (depth : Nat) (v : Value) : Walk String :=
  v.rendered (w.objectText depth)

/-- A value as it is written. -/
def valueText (v : Value) : String :=
  (w.rendering (w.store.heap.size + 1) v).outcome?.getD ""

/-- The parameters of a constructor as they are written: names, types and defaults. -/
def signatureText (c : Constructor) : String :=
  let one (p : Parameter) : String :=
    match p.default? with
    | some v => p.name ++ ": " ++ w.types.typeText p.type ++ " = " ++ w.valueText v
    | none => p.name ++ ": " ++ w.types.typeText p.type
  "(" ++ joined ", " (c.parameters.map one) ++ ")"

/-- A constructor with the name of its type. -/
def constructorText (owner : TypeId) (c : Constructor) : String :=
  w.types.name owner ++ w.signatureText c

end World
end Reshape
