import Reshape.Model.Table

/-!
# Members by name

A member is referred to by the type that declares it and its place there; a reference carries the
description found at that place.  Members of a derived type hide members of its bases: lookup goes
up the base chain level by level, and `members` lists what remains visible.
-/

namespace Reshape

/-- What a member is. -/
inductive MemberKind where
  /-- A constructor. -/
  | constructor
  /-- A field. -/
  | field
  /-- A method. -/
  | method
  /-- A property. -/
  | property
deriving DecidableEq, Repr, Inhabited

/-- The name of a kind of member. -/
def MemberKind.text : MemberKind → String
  | .constructor => "Constructor"
  | .field => "Field"
  | .method => "Method"
  | .property => "Property"

/-- The identity of a member of a type definition. -/
structure MemberId where
  /-- The declaring type. -/
  owner : TypeId
  /-- What the member is. -/
  kind : MemberKind
  /-- Its place among the members of that kind. -/
  index : Nat
deriving DecidableEq, Repr, Inhabited

/-- A reference to a field. -/
structure FieldRef where
  /-- The declaring type. -/
  owner : TypeId
  /-- Place among the fields of the owner. -/
  index : Nat
  /-- What is found there. -/
  field : Field
deriving DecidableEq, Inhabited

/-- A reference to a method. -/
structure MethodRef where
  /-- The declaring type. -/
  owner : TypeId
  /-- Place among the methods of the owner. -/
  index : Nat
  /-- What is found there. -/
  method : Method
deriving DecidableEq, Inhabited

/-- A reference to a property, with references to its accessors. -/
structure PropertyRef where
  /-- The declaring type. -/
  owner : TypeId
  /-- Place among the properties of the owner. -/
  index : Nat
  /-- What is found there. -/
  property : Property
  /-- The getter, if there is one. -/
  getter? : Option MethodRef
  /-- The setter, if there is one. -/
  setter? : Option MethodRef
deriving DecidableEq, Inhabited

/-- A reference to a constructor. -/
structure ConstructorRef where
  /-- The declaring type. -/
  owner : TypeId
  /-- Place among the constructors of the owner. -/
  index : Nat
  /-- What is found there. -/
  constructor : Constructor
deriving DecidableEq, Inhabited

/-- A reference to a data member: what can be read from or assigned to. -/
inductive MemberRef where
  /-- A field. -/
  | field (f : FieldRef)
  /-- A property. -/
  | property (p : PropertyRef)
deriving DecidableEq, Inhabited

/-- The identity of a field. -/
def FieldRef.id (f : FieldRef) : MemberId := ⟨f.owner, .field, f.index⟩

/-- The identity of a method. -/
def MethodRef.id (m : MethodRef) : MemberId := ⟨m.owner, .method, m.index⟩

/-- The identity of a property. -/
def PropertyRef.id (p : PropertyRef) : MemberId := ⟨p.owner, .property, p.index⟩

/-- The identity of a constructor. -/
def ConstructorRef.id (c : ConstructorRef) : MemberId := ⟨c.owner, .constructor, c.index⟩

namespace MemberRef

/-- Name. -/
def name : MemberRef → String
  | field f => f.field.name
  | property p => p.property.name

/-- Type. -/
def type : MemberRef → ValueType
  | field f => f.field.type
  | property p => p.property.type

/-- The declaring type. -/
def owner : MemberRef → TypeId
  | field f => f.owner
  | property p => p.owner

/-- Place among the members of its kind. -/
def index : MemberRef → Nat
  | field f => f.index
  | property p => p.index

/-- The identity of the member. -/
def id : MemberRef → MemberId
  | field f => f.id
  | property p => p.id

/-- Whether it belongs to the type and not to its instances. -/
def isStatic : MemberRef → Bool
  | field f => f.field.isStatic
  | property p => p.property.isStatic

/-- Whether it can be read. -/
def isReadable : MemberRef → Bool
  | field _ => true
  | property p => p.getter?.isSome

/-- Whether generated code can write it after construction.  Write-once fields count; properties need
a setter. -/
def isAssignable : MemberRef → Bool
  | field _ => true
  | property p => p.setter?.isSome

/-- The instance slot that holds the member's value, if there is one. -/
def backingSlot? : MemberRef → Option Nat
  | field f => if f.field.isStatic then none else some f.field.slot
  | property p => if p.property.isStatic then none else p.property.backing?

end MemberRef

namespace TypeTable

variable (t : TypeTable)

/-- The method at a place of a type's method table. -/
def methodAt? (owner : TypeId) (index : Nat) : Option MethodRef :=
  (t.model owner).methods[index]?.map fun m => ⟨owner, index, m⟩

/-- The reference to a property of a type. -/
def propertyRef (owner : TypeId) (index : Nat) (p : Property) : PropertyRef :=
  ⟨owner, index, p, p.getter?.bind (t.methodAt? owner), p.setter?.bind (t.methodAt? owner)⟩

/-- The properties that a type declares itself. -/
def ownProperties (owner : TypeId) : List PropertyRef :=
  (t.model owner).properties.zipIdx.map fun (p, index) => t.propertyRef owner index p

/-- The fields that a type declares itself. -/
def ownFields (owner : TypeId) : List FieldRef :=
  (t.model owner).fields.zipIdx.map fun (f, index) => ⟨owner, index, f⟩

/-- The field of a name, derived levels first. -/
def findField? (id : TypeId) (name : String) : Option FieldRef :=
  (t.lineage id).findSome? fun level => (t.ownFields level).find? (·.field.name == name)

/-- The property of a name, derived levels first. -/
def findProperty? (id : TypeId) (name : String) : Option PropertyRef :=
  (t.lineage id).findSome? fun level => (t.ownProperties level).find? (·.property.name == name)

/-- The field or property of a name; each level is searched for both before the next one up. -/
def findMember? (id : TypeId) (name : String) : Option MemberRef :=
  (t.lineage id).findSome? fun level =>
    match (t.ownProperties level).find? (·.property.name == name) with
    | some p => some (.property p)
    | none => ((t.ownFields level).find? (·.field.name == name)).map .field

/-- The data members that a type declares itself, properties first. -/
def ownMembers (owner : TypeId) : List MemberRef :=
  (t.ownProperties owner).map .property ++ (t.ownFields owner).map .field

/-- Keep the first member of each name. -/
def firstOfEachName : List String → List MemberRef → List MemberRef
  | _, [] => []
  | seen, m :: rest =>
    if seen.contains m.name then firstOfEachName seen rest
    else m :: firstOfEachName (m.name :: seen) rest

/-- The data members visible on a type, derived levels first. -/
def members (id : TypeId) : List MemberRef :=
  firstOfEachName [] ((t.lineage id).flatMap t.ownMembers)

/-- The methods that a type declares itself. -/
def ownMethods (owner : TypeId) : List MethodRef :=
  (t.model owner).methods.zipIdx.map fun (m, index) => ⟨owner, index, m⟩

/-- Every method of a name, derived levels first. -/
def findMethods (id : TypeId) (name : String) : List MethodRef :=
  (t.lineage id).flatMap fun level => (t.ownMethods level).filter (·.method.name == name)

/-- The first method of a name with a given number of parameters. -/
def findMethod? (id : TypeId) (name : String) (arity : Nat) : Option MethodRef :=
  (t.findMethods id name).find? (·.method.parameters.length == arity)

/-- The constructors of a type; they are not inherited. -/
def constructors (id : TypeId) : List ConstructorRef :=
  (t.model id).constructors.zipIdx.map fun (c, index) => ⟨id, index, c⟩

/-- The first constructor without parameters. -/
def defaultConstructor? (id : TypeId) : Option ConstructorRef :=
  (t.constructors id).find? (·.constructor.isParameterless)

end TypeTable
end Reshape
