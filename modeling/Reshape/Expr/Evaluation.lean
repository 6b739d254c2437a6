import Reshape.Expr.Arithmetic
import Reshape.Expr.Lambda
import Reshape.Store.Access

/-!
# Running lambdas

A lambda is compiled once: its local bindings are laid out in a frame, one slot for each number of a
binding.  Running it checks the arguments against the parameter types, and then evaluates the body
over the store, the arguments and a frame of its own.
-/

namespace Reshape

/-- A lambda that can be run. -/
structure CompiledLambda where
  /-- Types of the parameters. -/
  parameters : List ValueType
  /-- Type of the result. -/
  result : ValueType
  /-- The numbers of the local bindings, in the order of their slots. -/
  layout : List LocalId
  /-- What is evaluated. -/
  body : Expr
deriving Inhabited

namespace Expr

/-- Give a local binding a slot, if it has none. -/
def addSlot (layout : List LocalId) (id : LocalId) : List LocalId :=
  if layout.contains id then layout else layout ++ [id]

mutual

/-- The slots of an expression's local bindings, after those already laid out. -/
def slots (layout : List LocalId) : Expr → List LocalId
  | binary _ lhs rhs => slots (slots layout lhs) rhs
  | call _ receiver es => slotsOfAll (receiverSlots layout receiver) es
  | conditional test thenExpr otherwise => slots (slots (slots layout test) thenExpr) otherwise
  | constant _ _ | zero _ | parameter _ _ => layout
  | convert _ operand _ => slots layout operand
  | fieldGet _ receiver => receiverSlots layout receiver
  | fieldSet _ receiver value => slots (receiverSlots layout receiver) value
  | index list _ => slots layout list
  | letIn id value body => slots (addSlot (slots layout value) id) body
  | readLocal id _ => addSlot layout id
  | memberInit object bindings => bindingSlots (slots layout object) bindings
  | navigate receiver _ => slots layout receiver
  | construct _ es => slotsOfAll layout es
  | negate operand => slots layout operand
  | sequence front last => slots (slotsOfAll layout front) last
  | writePrimitive _ receiver value => slots (receiverSlots layout receiver) value

/-- The slots of several expressions. -/
def slotsOfAll (layout : List LocalId) : List Expr → List LocalId
  | [] => layout
  | e :: rest => slotsOfAll (slots layout e) rest

/-- The slots of a receiver. -/
def receiverSlots (layout : List LocalId) : Option Expr → List LocalId
  | none => layout
  | some e => slots layout e

/-- The slots of the values of initialisers. -/
def bindingSlots (layout : List LocalId) : List (AssignTarget × Expr) → List LocalId
  | [] => layout
  | (_, e) :: rest => bindingSlots (slots layout e) rest

end

end Expr

/-- Lay out the local bindings of a lambda. -/
def Lambda.compile (l : Lambda) : CompiledLambda where
  parameters := l.parameters.map (·.type)
  result := l.resultType
  layout := l.body.slots []
  body := l.body

/-- What an expression is evaluated in: the arguments, and the layout of the frame. -/
structure Scope where
  /-- Values of the parameters. -/
  args : List Value
  /-- The numbers of the local bindings, in the order of their slots. -/
  layout : List LocalId
deriving Inhabited

/-- Evaluation: an action that also writes a frame of local bindings. -/
abbrev Evaluation := StateT (List Value) Action

/-- A value as a truth value. -/
def truth (v : Value) : Evaluation Bool :=
  match v with
  | .bool b => pure b
  | v => throw (.expectedBool v.label)

/-- The receiver of a member, which has to be an object. -/
def receiverOf (v : Value) (member : String) : Evaluation ObjectRef :=
  match v with
  | .object ref => pure ref
  | .null => throw (.nullReceiver member)
  | v => throw (.badReceiver member v.label)

/-- The outcome of an operator, as a step of evaluation. -/
def operate (op : Operator) (l r : Value) : Evaluation Value := do
  let s ← (get : Action Store)
  match op.apply s l r with
  | .ok v => pure v
  | .error e => throw e

namespace Machine

variable (m : Machine)

/-- Store a value as an initialiser says. -/
def assign (ref : ObjectRef) (target : AssignTarget) (v : Value) : Action Unit :=
  match target with
  | .field f => m.storeField f (some ref) v
  | .primitive f => m.storeField f (some ref) v
  | .setter s => discard (m.invoke s (some ref) [v])

mutual

/-- Evaluate an expression. -/
def evaluate (scope : Scope) : Expr → Evaluation Value
  | .binary .and lhs rhs => do
    if ← truth (← evaluate scope lhs) then evaluate scope rhs else pure (.bool false)
  | .binary .or lhs rhs => do
    if ← truth (← evaluate scope lhs) then pure (.bool true) else evaluate scope rhs
  | .binary op lhs rhs => do
    let l ← evaluate scope lhs
    let r ← evaluate scope rhs
    operate op l r
  | .call method receiver es => do
    let ref ← evaluateReceiver scope method.method.name receiver
    let args ← evaluateAll scope es
    let v ← m.invoke method ref args
    Action.ofCast (m.types.cast method.method.resultType v)
  | .conditional test thenExpr otherwise => do
    if ← truth (← evaluate scope test) then evaluate scope thenExpr else evaluate scope otherwise
  | .constant v _ => pure v
  | .convert _ operand type => do
    let v ← evaluate scope operand
    Action.ofCast (m.types.cast type v)
  | .zero type => pure type.zero
  | .fieldGet f receiver => do
    let ref ← evaluateReceiver scope f.field.name receiver
    m.loadField f ref
  | .fieldSet f receiver value => do
    let ref ← evaluateReceiver scope f.field.name receiver
    let v ← evaluate scope value
    m.storeField f ref v
    pure .null
  | .index list position => do
    match ← evaluate scope list with
    | .list items =>
      match items[position]? with
      | some v => pure v
      | none => throw (.noElement (Value.list items).label position)
    | v => throw (.noElement v.label position)
  | .letIn id value body => do
    let v ← evaluate scope value
    modify (·.set (scope.layout.idxOf id) v)
    evaluate scope body
  | .readLocal id _ => do
    pure ((← get)[scope.layout.idxOf id]?.getD .null)
  | .memberInit object bindings => do
    match ← evaluate scope object with
    | .object ref =>
      initialise scope ref bindings
      pure (.object ref)
    | _ => throw .initialisedNothing
  | .navigate receiver member => do
    match ← evaluate scope receiver with
    | .null => pure .null
    | .object ref => m.load member (some ref)
    | v => throw (.unreadableFrom member.name v.label)
  | .construct c es => do
    let args ← evaluateAll scope es
    let ref ← m.construct c args
    pure (.object ref)
  | .negate operand => do
    let b ← truth (← evaluate scope operand)
    pure (.bool !b)
  | .parameter index _ =>
    match scope.args[index]? with
    | some v => pure v
    | none => throw (.parameterMissing index)
  | .sequence front last => do
    discard (evaluateAll scope front)
    evaluate scope last
  | .writePrimitive f receiver value => do
    let ref ← evaluateReceiver scope f.field.name receiver
    let v ← evaluate scope value
    m.storeField f ref v
    pure .null

/-- Evaluate several expressions in order. -/
def evaluateAll (scope : Scope) : List Expr → Evaluation (List Value)
  | [] => pure []
  | e :: rest => do
    let v ← evaluate scope e
    pure (v :: (← evaluateAll scope rest))

/-- Evaluate the receiver of a member; static members have none. -/
def evaluateReceiver (scope : Scope) (member : String) :
    Option Expr → Evaluation (Option ObjectRef)
  | none => pure none
  | some e => do
    let v ← evaluate scope e
    pure (some (← receiverOf v member))

/-- Run the initialisers of an object in order. -/
def initialise (scope : Scope) (ref : ObjectRef) :
    List (AssignTarget × Expr) → Evaluation Unit
  | [] => pure ()
  | (target, e) :: rest => do
    let v ← evaluate scope e
    m.assign ref target v
    initialise scope ref rest

end

/-- Check arguments against parameter types. -/
def checkArguments (index : Nat) : List ValueType → List Value → Except Error Unit
  | type :: types, v :: vs =>
    if m.types.conforms type v then checkArguments (index + 1) types vs
    else .error (.wrongArgument index v.label type)
  | _, _ => .ok ()

/-- Run a compiled lambda. -/
def run (l : CompiledLambda) (args : List Value) : Action Value := do
  if args.length ≠ l.parameters.length then
    throw (.invocationArity l.parameters.length args.length)
  match m.checkArguments 0 l.parameters args with
  | .error e => throw e
  | .ok _ =>
    let frame := List.replicate l.layout.length Value.null
    (m.evaluate ⟨args, l.layout⟩ l.body).run' frame

end Machine

/-- A value type as it is written inside the rendering of a compiled lambda. -/
def TypeTable.typeDebug (t : TypeTable) : ValueType → String
  | .any => "Any"
  | .blob => "Blob"
  | .bool => "Bool"
  | .float32 => "Float32"
  | .float64 => "Float64"
  | .int32 => "Int32"
  | .int64 => "Int64"
  | .list element => "List(" ++ t.typeDebug element ++ ")"
  | .nullable inner => "Nullable(" ++ t.typeDebug inner ++ ")"
  | .object type => "Object(TypeHandle(" ++ t.name type ++ "#" ++ count type ++ "))"
  | .text => "Text"
  | .uint32 => "Uint32"
  | .uint64 => "Uint64"

/-- A compiled lambda as it is written. -/
def World.compiledText (w : World) (l : CompiledLambda) : String :=
  "CompiledLambda \x7b params: [" ++ joined ", " (l.parameters.map w.types.typeDebug) ++ "], ret: " ++
    w.types.typeDebug l.result ++ ", locals: " ++ count l.layout.length ++ ", .. \x7d"

end Reshape
