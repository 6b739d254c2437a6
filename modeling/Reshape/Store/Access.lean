import Reshape.Store.Basic

/-!
# Using objects

Reading and writing slots, running methods and constructors.  A write converts the value to the
declared type of the slot first, so a slot never holds anything else; a write that fails leaves the
slot as it was.  The `Machine` says what the supplied bodies do.
-/

namespace Reshape

/-- What code runs against: the type definitions, and the bodies that the program supplies. -/
structure Machine where
  /-- Type definitions. -/
  types : TypeTable
  /-- The supplied method bodies, run on an instance (or none) and arguments. -/
  method : NativeId → Option ObjectRef → List Value → Action Value
  /-- The supplied constructor bodies, run on a fresh instance and arguments. -/
  constructor : NativeId → ObjectRef → List Value → Action Unit

namespace Machine

variable (m : Machine)

/-- Make an instance with every slot at the zero value of its type.  No constructor runs. -/
def instantiate (type : TypeId) : Action ObjectRef := do
  let s ← get
  let ref : ObjectRef := ⟨s.heap.size, type⟩
  set (s.push ⟨type, (m.types.model type).slotTypes.map ValueType.zero⟩)
  pure ref

/-- Read a slot of an object. -/
def loadSlot (ref : ObjectRef) (slot : Nat) : Action Value := do
  match ((← get).slots ref)[slot]? with
  | some v => pure v
  | none => throw (.slotOutOfRange slot ref.type)

/-- Write a slot of an object, converting the value to the type that the slot is declared with. -/
def storeSlot (ref : ObjectRef) (slot : Nat) (v : Value) : Action Unit := do
  match (← get).record? ref.address with
  | none => throw (.slotOutOfRange slot ref.type)
  | some r =>
    match (m.types.model r.type).slotTypes[slot]? with
    | none => throw (.slotOutOfRange slot ref.type)
    | some type =>
      let w ← Action.ofCast (m.types.cast type v)
      modify (·.setSlot ref.address slot w)

/-- Read a static slot; one that was never written holds the zero value of its type. -/
def loadStatic (owner : TypeId) (slot : Nat) : Action Value := do
  match (m.types.model owner).staticTypes[slot]? with
  | none => throw (.staticSlotOutOfRange slot owner)
  | some type => pure (((← get).static? ⟨owner, slot⟩).getD type.zero)

/-- Write a static slot as it is; converting the value is the caller's part. -/
def storeStatic (owner : TypeId) (slot : Nat) (v : Value) : Action Unit := do
  match (m.types.model owner).staticTypes[slot]? with
  | none => throw (.staticSlotOutOfRange slot owner)
  | some _ => modify (·.setStatic ⟨owner, slot⟩ v)

/-- The instance that an instance member is used on. -/
def requireInstance (receiver : Option ObjectRef) (member : String) : Action ObjectRef :=
  match receiver with
  | some ref => pure ref
  | none => throw (.nullInstance member)

/-- Read a field. -/
def loadField (f : FieldRef) (receiver : Option ObjectRef) : Action Value := do
  if f.field.isStatic then m.loadStatic f.owner f.field.slot
  else loadSlot (← requireInstance receiver f.field.name) f.field.slot

/-- Write a field.  Write-once fields are written too: whether that is allowed is decided where
expressions are built. -/
def storeField (f : FieldRef) (receiver : Option ObjectRef) (v : Value) : Action Unit := do
  let w ← Action.ofCast (m.types.cast f.field.type v)
  if f.field.isStatic then m.storeStatic f.owner f.field.slot w
  else m.storeSlot (← requireInstance receiver f.field.name) f.field.slot w

/-- The only argument of a setter. -/
def onlyArgument (args : List Value) (member : String) : Action Value :=
  match args with
  | [v] => pure v
  | _ => throw (.setterArity member args.length)

/-- Run a method.  The arguments have to be of the declared types already. -/
def invoke (r : MethodRef) (receiver : Option ObjectRef) (args : List Value) : Action Value := do
  let receiver ←
    if r.method.isStatic then pure none
    else some <$> requireInstance receiver r.method.name
  match r.method.body with
  | .loadSlot slot => loadSlot (← requireInstance receiver r.method.name) slot
  | .loadStatic slot => m.loadStatic r.owner slot
  | .storeSlot slot =>
    let v ← onlyArgument args r.method.name
    m.storeSlot (← requireInstance receiver r.method.name) slot v
    pure .null
  | .storeStatic slot =>
    m.storeStatic r.owner slot (← onlyArgument args r.method.name)
    pure .null
  | .native body => m.method body receiver args

/-- Run the steps of a constructor. -/
def assignSlots (ref : ObjectRef) (args : List Value) : List SlotInit → Action Unit
  | [] => pure ()
  | step :: rest => do
    m.storeSlot ref step.slot (args[step.parameter]?.getD .null)
    assignSlots ref args rest

/-- Make an instance and run a constructor on it. -/
def construct (c : ConstructorRef) (args : List Value) : Action ObjectRef := do
  if args.length ≠ c.constructor.parameters.length then
    throw (.constructorArity c.owner c.constructor args.length)
  let ref ← m.instantiate c.owner
  match c.constructor.body with
  | .assign steps => m.assignSlots ref args steps
  | .native body => m.constructor body ref args
  pure ref

/-- Read a data member of an instance, or of the type. -/
def load (member : MemberRef) (receiver : Option ObjectRef) : Action Value :=
  match member with
  | .field f => m.loadField f receiver
  | .property p =>
    match p.getter? with
    | some getter => m.invoke getter receiver []
    | none => throw (.unreadableProperty p.property.name)

/-- Read the data member of a name. -/
def read (ref : ObjectRef) (name : String) : Action Value :=
  match m.types.findMember? ref.type name with
  | some member => m.load member (some ref)
  | none => throw (.noMember ref.type name)

end Machine
end Reshape
