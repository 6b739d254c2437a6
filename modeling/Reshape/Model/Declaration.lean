import Reshape.Conversion.Conforms
import Reshape.Conversion.Rule
import Reshape.Error.Basic

/-!
# Declaring types

A declaration lists the members and constructors of a type by name and type.  Building it lays out
the slots (those of the base first, then one for each field and each property with a slot), adds the
accessor methods of the properties, and resolves the steps of the constructors to slots.
-/

namespace Reshape

/-- A field to declare. -/
structure FieldSpec where
  /-- Name. -/
  name : String
  /-- Type. -/
  type : ValueType
  /-- Who may use it. -/
  visibility : Visibility
  /-- Whether it belongs to the type and not to its instances. -/
  isStatic : Bool
  /-- Whether it is write-once. -/
  initOnly : Bool
deriving DecidableEq, Inhabited

/-- What stands behind a property. -/
inductive PropertyBacking where
  /-- A slot of its own, with generated accessors. -/
  | slot
  /-- Supplied bodies, either of which may be missing. -/
  | native (get set : Option NativeId)
deriving DecidableEq, Repr, Inhabited

/-- A property to declare. -/
structure PropertySpec where
  /-- Name. -/
  name : String
  /-- Type. -/
  type : ValueType
  /-- Who may use the getter. -/
  get : Visibility
  /-- Who may use the setter. -/
  set : Visibility
  /-- Whether it belongs to the type and not to its instances. -/
  isStatic : Bool
  /-- What stands behind it. -/
  backing : PropertyBacking
deriving DecidableEq, Inhabited

/-- A method to declare. -/
structure MethodSpec where
  /-- Name. -/
  name : String
  /-- Parameters. -/
  parameters : List Parameter
  /-- Type of the result; absent if it returns nothing. -/
  result? : Option ValueType
  /-- Whether it belongs to the type and not to its instances. -/
  isStatic : Bool
  /-- Who may use it. -/
  visibility : Visibility
  /-- The supplied body. -/
  body : NativeId
deriving DecidableEq, Inhabited

/-- What a constructor to declare does. -/
inductive ConstructorInit where
  /-- Copy parameters, by place, into members, by name, in order. -/
  | assign (steps : List (Nat × String))
  /-- Run a supplied body. -/
  | native (body : NativeId)
deriving DecidableEq, Repr, Inhabited

/-- A constructor to declare. -/
structure ConstructorSpec where
  /-- Parameters. -/
  parameters : List Parameter
  /-- Who may use it. -/
  visibility : Visibility
  /-- What it does. -/
  init : ConstructorInit
deriving DecidableEq, Inhabited

namespace ConstructorSpec

/-- A constructor that assigns each parameter to the member named beside it. -/
def assigning (parameters : List (Parameter × String)) : ConstructorSpec where
  parameters := parameters.map (·.1)
  visibility := .open
  init := .assign (parameters.zipIdx.map fun ((_, member), index) => (index, member))

/-- A constructor that takes nothing and does nothing. -/
def parameterless : ConstructorSpec where
  parameters := []
  visibility := .open
  init := .assign []

end ConstructorSpec

/-- A type to declare. -/
structure Declaration where
  /-- Name. -/
  name : String
  /-- Where the definition comes from. -/
  origin : TypeOrigin
  /-- The type it derives from. -/
  base? : Option TypeId
  /-- Interfaces, in any order. -/
  interfaces : List String
  /-- Attributes. -/
  attributes : List Attribute
  /-- Fields. -/
  fields : List FieldSpec
  /-- Properties. -/
  properties : List PropertySpec
  /-- Methods. -/
  methods : List MethodSpec
  /-- Constructors. -/
  constructors : List ConstructorSpec
deriving Inhabited

/-- Put a name into an ascending list of distinct names. -/
def insertName (name : String) : List String → List String
  | [] => [name]
  | other :: rest =>
    if name = other then other :: rest
    else if name < other then name :: other :: rest
    else other :: insertName name rest

/-- Names without repetition, in ascending order. -/
def sortedNames (names : List String) : List String :=
  names.foldl (fun sorted name => insertName name sorted) []

/-! ## Slots -/

/-- The slots laid out so far. -/
structure Layout where
  /-- Types of the instance slots. -/
  slots : List ValueType
  /-- Types of the static slots. -/
  statics : List ValueType
deriving DecidableEq, Inhabited

namespace Layout

/-- The place that the next slot gets. -/
def next (l : Layout) (isStatic : Bool) : Nat :=
  if isStatic then l.statics.length else l.slots.length

/-- Add a slot. -/
def push (l : Layout) (isStatic : Bool) (type : ValueType) : Layout :=
  if isStatic then { l with statics := l.statics ++ [type] } else { l with slots := l.slots ++ [type] }

/-- Lay out one slot for each field. -/
def fields (l : Layout) : List FieldSpec → List Field × Layout
  | [] => ([], l)
  | spec :: rest =>
    let field : Field :=
      ⟨spec.name, spec.type, spec.visibility, spec.isStatic, spec.initOnly, l.next spec.isStatic⟩
    let (more, l) := fields (l.push spec.isStatic spec.type) rest
    (field :: more, l)

end Layout

namespace PropertySpec

/-- Whether the property has a slot of its own. -/
def hasSlot (spec : PropertySpec) : Bool :=
  spec.backing == .slot

/-- What the getter does, given the slot behind it. -/
def getBody? (spec : PropertySpec) (slot : Nat) : Option MethodBody :=
  match spec.backing with
  | .slot => some (if spec.isStatic then .loadStatic slot else .loadSlot slot)
  | .native get _ => get.map .native

/-- What the setter does, given the slot behind it. -/
def setBody? (spec : PropertySpec) (slot : Nat) : Option MethodBody :=
  match spec.backing with
  | .slot => some (if spec.isStatic then .storeStatic slot else .storeSlot slot)
  | .native _ set => set.map .native

/-- The getter, if it has a body and is visible. -/
def getMethod? (spec : PropertySpec) (slot : Nat) : Option Method :=
  (spec.getBody? slot).bind fun body =>
    if spec.get.exists then
      some ⟨"get_" ++ spec.name, [], some spec.type, spec.isStatic, spec.get, body⟩
    else none

/-- The setter, if it has a body and is visible. -/
def setMethod? (spec : PropertySpec) (slot : Nat) : Option Method :=
  (spec.setBody? slot).bind fun body =>
    if spec.set.exists then
      some ⟨"set_" ++ spec.name, [⟨"value", spec.type, none⟩], none, spec.isStatic, spec.set, body⟩
    else none

/-- The property with its accessors, for a method table that has `places` methods so far. -/
def build (spec : PropertySpec) (slot places : Nat) : Property × List Method :=
  let getter := spec.getMethod? slot
  let setter := spec.setMethod? slot
  let afterGetter := places + getter.toList.length
  ({ name := spec.name
     type := spec.type
     get := if getter.isSome then spec.get else .absent
     set := if setter.isSome then spec.set else .absent
     isStatic := spec.isStatic
     backing? := if spec.hasSlot then some slot else none
     getter? := getter.map fun _ => places
     setter? := setter.map fun _ => afterGetter },
   getter.toList ++ setter.toList)

end PropertySpec

/-- Lay out the properties, with their accessors, for a method table that has `places` methods so
far. -/
def Layout.properties (l : Layout) (places : Nat) :
    List PropertySpec → List Property × List Method × Layout
  | [] => ([], [], l)
  | spec :: rest =>
    let (property, accessors) := spec.build (l.next spec.isStatic) places
    let grown := if spec.hasSlot then l.push spec.isStatic spec.type else l
    let (more, methods, l) := properties grown (places + accessors.length) rest
    (property :: more, accessors ++ methods, l)

/-- A declared method. -/
def MethodSpec.build (spec : MethodSpec) : Method :=
  ⟨spec.name, spec.parameters, spec.result?, spec.isStatic, spec.visibility, .native spec.body⟩

/-! ## Checks -/

/-- The first rule that the member names of a type break: each has a name, and no name is used
again. -/
def checkMemberNames (type : String) : List String → List String → Except Error Unit
  | _, [] => .ok ()
  | seen, name :: rest =>
    if name.isEmpty then .error (.unnamedMember type)
    else if seen.contains name then .error (.repeatedMember type name)
    else checkMemberNames type (name :: seen) rest

namespace TypeTable

variable (t : TypeTable)

/-- The first rule that the parameters of a constructor break: no name is used again, and defaults
belong to their types. -/
def checkParameters (type : String) : List String → List Parameter → Except Error Unit
  | _, [] => .ok ()
  | seen, p :: rest =>
    if seen.contains p.name then .error (.repeatedParameter type p.name)
    else
      match p.default? with
      | some v =>
        if t.conforms p.type v then checkParameters type (p.name :: seen) rest
        else .error (.badDefault v p.name p.type)
      | none => checkParameters type (p.name :: seen) rest

/-- The instance slot of an own member with its type, fields first. -/
def ownSlot? (fields : List Field) (properties : List Property) (member : String) :
    Option (Nat × ValueType) :=
  match fields.find? fun f => f.name == member && !f.isStatic with
  | some f => some (f.slot, f.type)
  | none =>
    (properties.find? fun p => p.name == member && !p.isStatic).bind fun p =>
      p.backing?.map fun slot => (slot, p.type)

/-- The instance slot of a member with its type, own members before those of the base. -/
def resolveSlot? (base? : Option TypeId) (fields : List Field) (properties : List Property)
    (member : String) : Option (Nat × ValueType) :=
  match ownSlot? fields properties member with
  | some found => some found
  | none =>
    base?.bind fun base => (t.findMember? base member).bind fun m =>
      m.backingSlot?.map fun slot => (slot, m.type)

/-- Resolve one step of a constructor. -/
def resolveStep (d : Declaration) (fields : List Field) (properties : List Property)
    (parameters : List Parameter) (step : Nat × String) : Except Error SlotInit :=
  match parameters[step.1]? with
  | none => .error (.missingParameter d.name step.1)
  | some p =>
    match t.resolveSlot? d.base? fields properties step.2 with
    | none => .error (.noInstanceSlot d.name step.2)
    | some (slot, type) =>
      match t.classify p.type type .implicit with
      | none => .error (.badInitialiser p.name p.type step.2 type)
      | some _ => .ok ⟨step.1, slot⟩

/-- Build a constructor. -/
def buildConstructor (d : Declaration) (fields : List Field) (properties : List Property)
    (spec : ConstructorSpec) : Except Error Constructor := do
  t.checkParameters d.name [] spec.parameters
  match spec.init with
  | .native body => pure ⟨spec.parameters, spec.visibility, .native body⟩
  | .assign steps =>
    let resolved ← steps.mapM (t.resolveStep d fields properties spec.parameters)
    pure ⟨spec.parameters, spec.visibility, .assign resolved⟩

/-- Build the model of a declared type. -/
def build (d : Declaration) : Except Error TypeModel := do
  if d.name.isEmpty then throw .unnamedType
  checkMemberNames d.name [] (d.fields.map (·.name) ++ d.properties.map (·.name))
  let inherited := match d.base? with
    | some base => (t.model base).slotTypes
    | none => []
  let (fields, l) := Layout.fields ⟨inherited, []⟩ d.fields
  let (properties, accessors, l) := l.properties 0 d.properties
  let specs := if d.constructors.isEmpty then [ConstructorSpec.parameterless] else d.constructors
  let constructors ← specs.mapM (t.buildConstructor d fields properties)
  pure {
    name := d.name
    origin := d.origin
    base? := d.base?
    interfaces := sortedNames d.interfaces
    attributes := d.attributes
    fields := fields
    properties := properties
    methods := accessors ++ d.methods.map MethodSpec.build
    constructors := constructors
    slotTypes := l.slots
    staticTypes := l.statics }

/-- Declare a type: the table with its model, and its handle. -/
def declare (d : Declaration) : Except Error (TypeTable × TypeId) := do
  let m ← t.build d
  pure (t.push m, t.size)

end TypeTable
end Reshape
