import Reshape.Value.Basic

/-!
# Type models

The reflective description of a record type: its slot layout, members and constructors.  Types that
were declared by hand and types that were synthesized share this description; only `TypeOrigin` tells
them apart.  Bodies that the surrounding program supplies are kept as numbers (`NativeId`), and what
a number does is said where programs are run.
-/

namespace Reshape

/-- The number of a method or constructor body that the surrounding program supplies. -/
abbrev NativeId := Nat

/-- Where a type definition comes from. -/
inductive TypeOrigin where
  /-- Declared by hand. -/
  | declared
  /-- Synthesized from a descriptor. -/
  | synthesized
deriving DecidableEq, Repr, Inhabited

/-- The name of an origin. -/
def TypeOrigin.text : TypeOrigin → String
  | .declared => "Declared"
  | .synthesized => "Synthesized"

/-- Who may use a member.  An absent accessor does not exist at all. -/
inductive Visibility where
  /-- The accessor does not exist. -/
  | absent
  /-- For the type itself. -/
  | ownOnly
  /-- For the type and those that derive from it. -/
  | inherited
  /-- For everyone. -/
  | open
deriving DecidableEq, Repr, Inhabited

/-- Whether there is anything to be seen. -/
def Visibility.exists : Visibility → Bool
  | .absent => false
  | _ => true

/-- A parameter of a method or constructor; a default makes it optional. -/
structure Parameter where
  /-- Name. -/
  name : String
  /-- Type. -/
  type : ValueType
  /-- The value of an argument that is left out, for optional parameters. -/
  default? : Option Value
deriving DecidableEq, Inhabited

/-- Whether the argument may be left out. -/
def Parameter.isOptional (p : Parameter) : Bool :=
  p.default?.isSome

/-- A field. -/
structure Field where
  /-- Name. -/
  name : String
  /-- Type. -/
  type : ValueType
  /-- Who may use it. -/
  visibility : Visibility
  /-- Whether it belongs to the type and not to its instances. -/
  isStatic : Bool
  /-- Whether only constructors and write primitives may assign it. -/
  initOnly : Bool
  /-- Its instance slot, or its static slot. -/
  slot : Nat
deriving DecidableEq, Inhabited

/-- A property: a getter and a setter over a slot or over bodies that the program supplies. -/
structure Property where
  /-- Name. -/
  name : String
  /-- Type. -/
  type : ValueType
  /-- Who may use the getter. -/
  get : Visibility
  /-- Who may use the setter. -/
  set : Visibility
  /-- Whether it belongs to the type and not to its instances. -/
  isStatic : Bool
  /-- The slot behind it, if there is one. -/
  backing? : Option Nat
  /-- Place of the getter in the method table of the type. -/
  getter? : Option Nat
  /-- Place of the setter in the method table of the type. -/
  setter? : Option Nat
deriving DecidableEq, Inhabited

/-- What a method does. -/
inductive MethodBody where
  /-- Read an instance slot. -/
  | loadSlot (slot : Nat)
  /-- Read a static slot. -/
  | loadStatic (slot : Nat)
  /-- Run a body that the program supplies. -/
  | native (body : NativeId)
  /-- Write an instance slot. -/
  | storeSlot (slot : Nat)
  /-- Write a static slot. -/
  | storeStatic (slot : Nat)
deriving DecidableEq, Repr, Inhabited

/-- A method. -/
structure Method where
  /-- Name; several methods may share it. -/
  name : String
  /-- Parameters. -/
  parameters : List Parameter
  /-- Type of the result; absent if the method returns nothing. -/
  result? : Option ValueType
  /-- Whether it belongs to the type and not to its instances. -/
  isStatic : Bool
  /-- Who may use it. -/
  visibility : Visibility
  /-- What it does. -/
  body : MethodBody
deriving DecidableEq, Inhabited

namespace Method

/-- The type of a call; a method without result yields null, typed `any`. -/
def resultType (m : Method) : ValueType :=
  m.result?.getD .any

/-- The number of arguments that cannot be left out. -/
def requiredArity (m : Method) : Nat :=
  m.parameters.countP (!·.isOptional)

end Method

/-- A constructor step: copy a parameter into an instance slot. -/
structure SlotInit where
  /-- Place of the parameter. -/
  parameter : Nat
  /-- The slot. -/
  slot : Nat
deriving DecidableEq, Repr, Inhabited

/-- What a constructor does to a fresh instance. -/
inductive ConstructorBody where
  /-- Run the steps in order. -/
  | assign (steps : List SlotInit)
  /-- Run a body that the program supplies. -/
  | native (body : NativeId)
deriving DecidableEq, Repr, Inhabited

/-- A constructor. -/
structure Constructor where
  /-- Parameters. -/
  parameters : List Parameter
  /-- Who may use it. -/
  visibility : Visibility
  /-- What it does. -/
  body : ConstructorBody
deriving DecidableEq, Inhabited

/-- The parameters that cannot be left out. -/
def Constructor.required (c : Constructor) : List Parameter :=
  c.parameters.filter (!·.isOptional)

/-- Whether the constructor takes nothing. -/
def Constructor.isParameterless (c : Constructor) : Bool :=
  c.parameters.isEmpty

/-- An attribute of a type: arguments and named assignments, in order. -/
structure Attribute where
  /-- Name. -/
  name : String
  /-- Arguments. -/
  args : List Value
  /-- Named assignments. -/
  named : List (String × Value)
deriving DecidableEq, Inhabited

/-- The first value assigned to a name. -/
def Attribute.named? (a : Attribute) (name : String) : Option Value :=
  (a.named.find? (·.1 == name)).map (·.2)

/-- The description of one record type. -/
structure TypeModel where
  /-- Name; several types may share it. -/
  name : String
  /-- Where the definition comes from. -/
  origin : TypeOrigin
  /-- The type it derives from. -/
  base? : Option TypeId
  /-- Names of the interfaces it declares, in order. -/
  interfaces : List String
  /-- Attributes. -/
  attributes : List Attribute
  /-- Own fields. -/
  fields : List Field
  /-- Own properties. -/
  properties : List Property
  /-- Own methods: the accessors of the properties, then the declared ones. -/
  methods : List Method
  /-- Constructors. -/
  constructors : List Constructor
  /-- Types of the instance slots, those of the base first. -/
  slotTypes : List ValueType
  /-- Types of the static slots. -/
  staticTypes : List ValueType
deriving DecidableEq, Inhabited

/-- The first attribute of a name. -/
def TypeModel.attribute? (m : TypeModel) (name : String) : Option Attribute :=
  m.attributes.find? (·.name == name)

end Reshape
