import Reshape.Error.Message

/-!
# Requests for accessors

An accessor is asked for by a member and a boundary: the types at which the caller hands in the
instance and the arguments and takes the result.  What is left open is filled in from the member.
Two requests with one member, operation and boundary have one key.
-/

namespace Reshape

/-- How an accessor takes its arguments. -/
inductive Shape where
  /-- The instance as `any` and the arguments as one list. -/
  | generic
  /-- Instance and arguments as parameters of their own. -/
  | typed
deriving DecidableEq, Repr, Inhabited

/-- The name of a shape. -/
def Shape.text : Shape → String
  | .generic => "Generic"
  | .typed => "Typed"

/-- Whether a member is used on an instance or on its type. -/
inductive Binding where
  /-- On an instance. -/
  | onInstance
  /-- On the type. -/
  | onType
deriving DecidableEq, Repr, Inhabited

/-- What an accessor does. -/
inductive AccessorKind where
  /-- Construct an object. -/
  | construct
  /-- Read a data member. -/
  | get
  /-- Call a method. -/
  | invoke
  /-- Write a data member. -/
  | set
deriving DecidableEq, Repr, Inhabited

/-- The name of an operation. -/
def AccessorKind.text : AccessorKind → String
  | .construct => "Construct"
  | .get => "Get"
  | .invoke => "Invoke"
  | .set => "Set"

/-- A request for an accessor; what is absent is filled in from the member. -/
structure AccessorRequest where
  /-- How arguments are taken. -/
  shape : Shape
  /-- Type of the instance. -/
  instanceType? : Option ValueType
  /-- Type of the value read, written or returned. -/
  valueType? : Option ValueType
  /-- Types of the arguments. -/
  parameterTypes? : Option (List ValueType)
  /-- What the member has to be. -/
  binding? : Option Binding
deriving DecidableEq, Inhabited

/-- The request that leaves everything open. -/
def AccessorRequest.default : AccessorRequest :=
  ⟨.typed, none, none, none, none⟩

/-- The identity of an accessor: member, operation, shape and boundary. -/
structure AccessorKey where
  /-- The member. -/
  member : MemberId
  /-- The operation. -/
  kind : AccessorKind
  /-- How arguments are taken. -/
  shape : Shape
  /-- Type of the instance; absent if none is taken. -/
  instanceType? : Option ValueType
  /-- Type of the value read, written or returned. -/
  valueType : ValueType
  /-- Types of the arguments. -/
  parameterTypes : List ValueType
deriving DecidableEq, Inhabited

/-- The boundary part of a key as it is written, without the number of the owner. -/
def TypeTable.keyText (t : TypeTable) (key : AccessorKey) : String :=
  let types := (key.instanceType?.toList ++ key.parameterTypes).map t.typeText
  ":" ++ key.member.kind.text ++ "#" ++ count key.member.index ++ " " ++ key.kind.text ++ " " ++
    key.shape.text ++ " (" ++ joined ", " types ++ ") -> " ++ t.typeText key.valueType

/-- Refuse a request that disagrees with its member about what the member is. -/
def AccessorRequest.checkBinding (r : AccessorRequest) (isStatic : Bool) (member : Subject) :
    Except Error Unit :=
  match r.binding?, isStatic with
  | some .onInstance, true => .error (.staticRequestedAsInstance member)
  | some .onType, false => .error (.instanceRequestedAsStatic member)
  | _, _ => .ok ()

end Reshape
