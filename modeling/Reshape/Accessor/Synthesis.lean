import Reshape.Accessor.Cache

/-!
# Making accessors

An accessor is a lambda over the boundary types of its request: it casts the instance and the
arguments to what the member declares, performs the access, and casts the result back.  A generic
accessor takes the instance as `any` (also for a static member, which ignores it) and the arguments
as one list; constructors take no instance.
-/

namespace Reshape

/-- How messages name a data member. -/
def MemberRef.subject (m : MemberRef) : Subject :=
  .data m.owner m.name

namespace Synthesis

/-- The outcome of a check, as a step of synthesis. -/
def ofExcept {α : Type} : Except Error α → Synthesis α
  | .ok a => pure a
  | .error e => throw e

end Synthesis

namespace Accessor

variable (t : TypeTable)

/-! ## Fragments -/

/-- Read a data member.  Properties are read by their getter. -/
def readMember (receiver : Option Expr) : MemberRef → Except Error Expr
  | .field f => Expr.mkFieldGet t receiver f
  | .property p =>
    match p.getter? with
    | some getter => Expr.mkCall t receiver getter []
    | none => .error (.noGetter p.owner p.property.name)

/-- How a data member is written: a field directly, a write-once field by its write primitive, and
a property by its setter. -/
def assignTarget : MemberRef → Synthesis AssignTarget
  | .field f =>
    if f.field.initOnly then do
      modify (·.addPrimitive f.id)
      pure (.primitive f)
    else pure (.field f)
  | .property p =>
    match p.setter? with
    | some setter => pure (.setter setter)
    | none => throw (.noSetter p.owner p.property.name)

/-- Write a value to a target. -/
def storeTo (receiver : Option Expr) (target : AssignTarget) (value : Expr) : Except Error Expr :=
  match target with
  | .field f => Expr.mkFieldSet t receiver f value
  | .primitive f => Expr.mkWritePrimitive t f receiver value
  | .setter s => Expr.mkCall t receiver s [value]

/-- Write a data member. -/
def assignMember (receiver : Option Expr) (m : MemberRef) (value : Expr) : Synthesis Expr := do
  let target ← assignTarget m
  Synthesis.ofExcept (storeTo t receiver target value)

/-! ## Boundaries -/

/-- The types at which instance and value are handed over: `any` for a generic accessor, otherwise
those of the request or of the member.  Static members take no instance. -/
def boundary (r : AccessorRequest) (owner : TypeId) (isStatic : Bool) (type : ValueType) :
    Option ValueType × ValueType :=
  match r.shape with
  | .generic => (some .any, .any)
  | .typed =>
    (if isStatic then none else some (r.instanceType?.getD (.object owner)), r.valueType?.getD type)

/-- The key of an accessor of a data member. -/
def memberKey (m : MemberRef) (kind : AccessorKind) (r : AccessorRequest) : AccessorKey :=
  let (instanceType?, valueType) := boundary r m.owner m.isStatic m.type
  ⟨m.id, kind, r.shape, instanceType?, valueType, []⟩

/-- The types at which arguments are handed over: one list for a generic accessor, otherwise those
of the request or of the parameters. -/
def argumentTypes (declared : List Parameter) (r : AccessorRequest) (callee : String) :
    Except Error (List ValueType) :=
  match r.shape, r.parameterTypes? with
  | .generic, _ => .ok [.list .any]
  | .typed, none => .ok (declared.map (·.type))
  | .typed, some types =>
    if types.length = declared.length then .ok types
    else .error (.boundaryArity callee declared.length types.length)

/-- The instance parameter of an accessor, if it has one, and the receiver made from it. -/
def receiverOf (key : AccessorKey) (owner : TypeId) (isStatic : Bool) :
    Except Error (List ParameterDecl × Option Expr) :=
  match key.instanceType? with
  | none => .ok ([], none)
  | some type =>
    let declared : List ParameterDecl := [⟨"instance", type⟩]
    if isStatic then .ok (declared, none)
    else ((Expr.parameter 0 type).castTo t (.object owner)).map fun e => (declared, some e)

/-- The arguments of a generic accessor: elements of the list parameter at a place. -/
def listArguments (place : Nat) : Nat → List Parameter → Except Error (List Expr)
  | _, [] => .ok []
  | position, p :: ps => do
    let element ← Expr.mkIndex (.parameter place (.list .any)) position
    let arg ← element.castTo t p.type
    pure (arg :: (← listArguments place (position + 1) ps))

/-- The arguments of a typed accessor: parameters of their own, from a place on. -/
def ownArguments : Nat → List Parameter → List ValueType → Except Error (List Expr)
  | place, p :: ps, type :: types => do
    let arg ← (Expr.parameter place type).castTo t p.type
    pure (arg :: (← ownArguments (place + 1) ps types))
  | _, _, _ => .ok []

/-- The argument parameters of an accessor, from a place on, and the arguments made from them. -/
def argumentsOf (key : AccessorKey) (place : Nat) (declared : List Parameter) :
    Except Error (List ParameterDecl × List Expr) :=
  match key.shape with
  | .generic => (listArguments t place 0 declared).map fun args => ([⟨"args", .list .any⟩], args)
  | .typed =>
    (ownArguments t place declared key.parameterTypes).map fun args =>
      ((declared.zip key.parameterTypes).map fun (p, type) => ⟨p.name, type⟩, args)

/-! ## Accessors -/

/-- The lambda of a getter. -/
def getterLambda (key : AccessorKey) (m : MemberRef) : Except Error Lambda := do
  let (parameters, receiver) ← receiverOf t key m.owner m.isStatic
  let value ← readMember t receiver m
  Lambda.make parameters (← value.castTo t key.valueType)

/-- The lambda of a setter. -/
def setterLambda (key : AccessorKey) (m : MemberRef) (target : AssignTarget) :
    Except Error Lambda := do
  let (parameters, receiver) ← receiverOf t key m.owner m.isStatic
  let value ← (Expr.parameter parameters.length key.valueType).castTo t m.type
  let body ← storeTo t receiver target value
  Lambda.make (parameters ++ [⟨"value", key.valueType⟩]) body

/-- The lambda that calls a method. -/
def methodLambda (key : AccessorKey) (m : MethodRef) : Except Error Lambda := do
  let (parameters, receiver) ← receiverOf t key m.owner m.method.isStatic
  let (more, args) ← argumentsOf t key parameters.length m.method.parameters
  let call ← Expr.mkCall t receiver m args
  Lambda.make (parameters ++ more) (← call.castTo t key.valueType)

/-- The lambda that constructs an object. -/
def constructorLambda (key : AccessorKey) (c : ConstructorRef) : Except Error Lambda := do
  let (parameters, args) ← argumentsOf t key 0 c.constructor.parameters
  let object ← Expr.mkConstruct t c args
  Lambda.make parameters (← object.castTo t key.valueType)

/-- The getter of a data member. -/
def getter (m : MemberRef) (r : AccessorRequest) : Synthesis Nat := do
  Synthesis.ofExcept (r.checkBinding m.isStatic m.subject)
  if !m.isReadable then throw (.noGetter m.owner m.name)
  let key := memberKey m .get r
  AccessorCache.getOrBuild key (getterLambda t key m)

/-- The setter of a data member. -/
def setter (m : MemberRef) (r : AccessorRequest) : Synthesis Nat := do
  Synthesis.ofExcept (r.checkBinding m.isStatic m.subject)
  let target ← assignTarget m
  let key := memberKey m .set r
  AccessorCache.getOrBuild key (setterLambda t key m target)

/-- The invoker of a method. -/
def methodInvoker (m : MethodRef) (r : AccessorRequest) : Synthesis Nat := do
  Synthesis.ofExcept (r.checkBinding m.method.isStatic (.method m.owner m.method.name))
  let (instanceType?, valueType) := boundary r m.owner m.method.isStatic m.method.resultType
  let types ← Synthesis.ofExcept (argumentTypes m.method.parameters r m.method.name)
  let key : AccessorKey := ⟨m.id, .invoke, r.shape, instanceType?, valueType, types⟩
  AccessorCache.getOrBuild key (methodLambda t key m)

/-- The invoker of a constructor. -/
def constructorInvoker (c : ConstructorRef) (r : AccessorRequest) : Synthesis Nat := do
  Synthesis.ofExcept (r.checkBinding true (.constructor c.owner c.constructor))
  let (_, valueType) := boundary r c.owner true (.object c.owner)
  let types ← Synthesis.ofExcept (argumentTypes c.constructor.parameters r (t.name c.owner))
  let key : AccessorKey := ⟨c.id, .construct, r.shape, none, valueType, types⟩
  AccessorCache.getOrBuild key (constructorLambda t key c)

end Accessor
end Reshape
