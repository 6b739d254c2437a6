import Reshape.Expr.Build
import Reshape.Model.Declaration
import Reshape.Store.Serialization
import Reshape.Text.Camel

/-!
# Type descriptors

The description of a record type to synthesize: fields and properties with their types, and for each
whether the synthesized constructor takes it.  The constructor's parameters are the required members
and then the optional ones, each in order of declaration, fields first; a parameter is named after
its member in camel case unless a name is given.
-/

namespace Reshape

/-- How a member takes part in the synthesized constructor. -/
inductive ConstructorBinding where
  /-- Not at all. -/
  | none
  /-- As an optional parameter with a default. -/
  | optional (default : Value)
  /-- As a required parameter. -/
  | required
deriving DecidableEq, Inhabited

namespace ConstructorBinding

/-- Whether the constructor takes the member. -/
def isBound : ConstructorBinding → Bool
  | none => false
  | _ => true

/-- The default of an optional parameter. -/
def default? : ConstructorBinding → Option Value
  | optional v => some v
  | _ => Option.none

end ConstructorBinding

/-- A field to synthesize. -/
structure FieldDescriptor where
  /-- Name. -/
  name : String
  /-- Type, without the null that `nullable` adds. -/
  type : ValueType
  /-- Whether null is added to the type. -/
  nullable : Bool
  /-- Who may use it. -/
  visibility : Visibility
  /-- Whether it is write-once. -/
  initOnly : Bool
  /-- How the constructor takes it. -/
  binding : ConstructorBinding
  /-- Name of its constructor parameter, if it is not named after the field. -/
  parameter? : Option String
deriving DecidableEq, Inhabited

/-- A property to synthesize. -/
structure PropertyDescriptor where
  /-- Name. -/
  name : String
  /-- Type, without the null that `nullable` adds. -/
  type : ValueType
  /-- Whether null is added to the type. -/
  nullable : Bool
  /-- Who may use the getter. -/
  get : Visibility
  /-- Who may use the setter. -/
  set : Visibility
  /-- How the constructor takes it. -/
  binding : ConstructorBinding
  /-- Name of its constructor parameter, if it is not named after the property. -/
  parameter? : Option String
deriving DecidableEq, Inhabited

/-- A member to synthesize. -/
inductive MemberDescriptor where
  /-- A field. -/
  | field (f : FieldDescriptor)
  /-- A property. -/
  | property (p : PropertyDescriptor)
deriving DecidableEq, Inhabited

/-- A type to synthesize. -/
structure Descriptor where
  /-- Name. -/
  name : String
  /-- The type it derives from. -/
  base? : Option TypeId
  /-- Interfaces, in ascending order. -/
  interfaces : List String
  /-- Fields. -/
  fields : List FieldDescriptor
  /-- Properties. -/
  properties : List PropertyDescriptor
  /-- Attributes. -/
  attributes : List Attribute
deriving DecidableEq, Inhabited

/-- A type with null added if asked for. -/
def effectiveType (type : ValueType) (nullable : Bool) : ValueType :=
  if nullable then type.orNull else type

namespace MemberDescriptor

/-- What the member is. -/
def kind : MemberDescriptor → MemberKind
  | field _ => .field
  | property _ => .property

/-- Name. -/
def name : MemberDescriptor → String
  | field f => f.name
  | property p => p.name

/-- Type, with null added if it is nullable. -/
def type : MemberDescriptor → ValueType
  | field f => effectiveType f.type f.nullable
  | property p => effectiveType p.type p.nullable

/-- How the constructor takes the member. -/
def binding : MemberDescriptor → ConstructorBinding
  | field f => f.binding
  | property p => p.binding

/-- The name given to its constructor parameter. -/
def parameter? : MemberDescriptor → Option String
  | field f => f.parameter?
  | property p => p.parameter?

/-- The name of its constructor parameter: the given one, or its own in camel case. -/
def parameterName (m : MemberDescriptor) : String :=
  m.parameter?.getD (Text.camel m.name)

end MemberDescriptor

/-- A parameter of the synthesized constructor, and the member it is for. -/
structure ConstructorParameter where
  /-- Name. -/
  name : String
  /-- Name of the member. -/
  member : String
  /-- Type. -/
  type : ValueType
  /-- Default, converted to the type if that is possible. -/
  default? : Option Value
deriving DecidableEq, Inhabited

namespace Descriptor

/-- Fields and then properties, each in order of declaration. -/
def members (d : Descriptor) : List MemberDescriptor :=
  d.fields.map .field ++ d.properties.map .property

/-- The first member of a name. -/
def member? (d : Descriptor) (name : String) : Option MemberDescriptor :=
  d.members.find? (·.name == name)

/-- The parameter for a member that the constructor takes. -/
def parameterFor (t : TypeTable) (m : MemberDescriptor) : ConstructorParameter where
  name := m.parameterName
  member := m.name
  type := m.type
  default? := m.binding.default?.map fun v =>
    match t.cast m.type v with
    | .ok w => w
    | .error _ => v

/-- The parameters of the synthesized constructor: required members, then optional ones. -/
def parameters (t : TypeTable) (d : Descriptor) : List ConstructorParameter :=
  let required := d.members.filter (·.binding == .required)
  let optional := d.members.filter (·.binding.default?.isSome)
  (required ++ optional).map (parameterFor t)

end Descriptor

/-! ## Descriptors as documents -/

open Text (Json)

/-- The name of a visibility. -/
def Visibility.text : Visibility → String
  | .absent => "None"
  | .ownOnly => "Private"
  | .inherited => "Protected"
  | .open => "Public"

namespace World

variable (w : World)

/-- Whether and how the constructor takes a member, where it does. -/
def bindingFields (binding : ConstructorBinding) (parameter? : Option String) :
    Except TypeId (List (String × Json)) := do
  let taken ← match binding with
    | .none => pure []
    | .required => pure [("ctor", Json.text "Required")]
    | .optional v => do
      let j ← w.serialize v
      pure [("ctor", tagged "Optional" j)]
  pure (taken ++ (parameter?.map fun p => ("ctor_param", Json.text p)).toList)

/-- A field as a document. -/
def fieldJson (f : FieldDescriptor) : Except TypeId Json := do
  let binding ← w.bindingFields f.binding f.parameter?
  pure <| .object <| [
    ("name", .text f.name),
    ("ty", w.types.typeJson f.type),
    ("nullable", .bool f.nullable),
    ("visibility", .text f.visibility.text),
    ("init_only", .bool f.initOnly)] ++ binding

/-- A property as a document. -/
def propertyJson (p : PropertyDescriptor) : Except TypeId Json := do
  let binding ← w.bindingFields p.binding p.parameter?
  pure <| .object <| [
    ("name", .text p.name),
    ("ty", w.types.typeJson p.type),
    ("nullable", .bool p.nullable),
    ("get", .text p.get.text),
    ("set", .text p.set.text)] ++ binding

/-- A part of a document that is left out when it has no items. -/
def unlessEmpty (name : String) (items : List Json) : List (String × Json) :=
  if items.isEmpty then [] else [(name, .array items)]

/-- An attribute as a document. -/
def attributeJson (a : Attribute) : Except TypeId Json := do
  let args ← a.args.mapM w.serialize
  let assigned ← a.named.mapM fun (name, v) => do
    let j ← w.serialize v
    pure (Json.array [.text name, j])
  pure (.object (("name", .text a.name) :: (unlessEmpty "args" args ++ unlessEmpty "named" assigned)))

/-- A descriptor as a document; fails if one of its values contains itself. -/
def descriptorJson (d : Descriptor) : Except TypeId Json := do
  let fields ← d.fields.mapM w.fieldJson
  let properties ← d.properties.mapM w.propertyJson
  let attributes ← d.attributes.mapM w.attributeJson
  let base := d.base?.map fun base => ("base", Json.text (w.types.name base))
  pure <| .object <|
    [("name", .text d.name)] ++ base.toList ++
      unlessEmpty "interfaces" (d.interfaces.map .text) ++
      [("fields", .array fields), ("properties", .array properties)] ++
      unlessEmpty "attributes" attributes

end World
end Reshape
