import Reshape.Conversion.Cast
import Reshape.Expr.Basic
import Reshape.Expr.Unify

/-!
# Building expressions

The checked constructors.  Each makes the operand types agree, inserts the conversions that this
needs, and refuses what has no rule: so an expression that was built by them has the type it claims.
Literals are converted when they are built, if they can be.
-/

namespace Reshape

/-- A literal converted to a type. -/
def TypeTable.convertConstant (t : TypeTable) (v : Value) (target : ValueType) :
    Except Error Value :=
  match t.cast target v with
  | .ok w => .ok w
  | .error cause => .error (.badConstant v target cause)

namespace Expr

variable (t : TypeTable)

/-! ## Leaves -/

/-- A literal of its natural type; null is typed `any`. -/
def literal (v : Value) : Expr :=
  constant v ((t.naturalType? v).getD .any)

/-- A literal converted to a type. -/
def typedLiteral (v : Value) (type : ValueType) : Except Error Expr := do
  pure (constant (← t.convertConstant v type) type)

/-! ## Conversions -/

/-- The conversion of an expression by a rule.  A literal is converted at once if it fits. -/
def convertBy (rule : ConversionRule) (e : Expr) (target : ValueType) : Expr :=
  match rule, e with
  | .identity, e => e
  | rule, constant v type =>
    match t.cast target v with
    | .ok w => constant w target
    | .error _ => convert rule (constant v type) target
  | rule, e => convert rule e target

/-- Convert an expression to a type. -/
def convertTo (kind : ConversionKind) (e : Expr) (target : ValueType) : Except Error Expr :=
  match t.classify e.type target kind with
  | some rule => .ok (convertBy t rule e target)
  | none => .error (.notConvertible e.type target kind)

/-- Convert an expression implicitly. -/
def coerce (e : Expr) (target : ValueType) : Except Error Expr :=
  convertTo t .implicit e target

/-- Convert an expression explicitly. -/
def castTo (e : Expr) (target : ValueType) : Except Error Expr :=
  convertTo t .explicit e target

/-! ## Operators -/

/-- A binary operator. -/
def mkBinary (op : Operator) (lhs rhs : Expr) : Except Error Expr := do
  let operand ← t.operandType op lhs.type rhs.type
  let lhs ← lhs.coerce t operand
  let rhs ← rhs.coerce t operand
  pure (binary op lhs rhs)

/-- Refuse an expression that is not a truth value. -/
def expectBool (e : Expr) (what : String) : Except Error Unit :=
  if e.type = .bool then .ok () else .error (.notBool what e.type)

/-- Negation. -/
def mkNegate (operand : Expr) : Except Error Expr := do
  operand.expectBool "operand of '!'"
  pure (negate operand)

/-- One of two expressions, which are converted to their common type. -/
def mkConditional (test thenExpr otherwise : Expr) : Except Error Expr := do
  test.expectBool "condition"
  match t.unify? thenExpr.type otherwise.type with
  | none => throw (.noCommonType thenExpr.type otherwise.type)
  | some type =>
    let thenExpr ← thenExpr.coerce t type
    let otherwise ← otherwise.coerce t type
    pure (conditional test thenExpr otherwise)

/-! ## Scopes -/

/-- Bind a value to a fresh local that is visible inside the body only. -/
def bindIn (value : Expr) (body : Expr → Build Expr) : Build Expr := do
  let id ← Build.fresh
  pure (letIn id value (← body (readLocal id value.type)))

/-- Expressions in order; the last one gives the value. -/
def mkSequence (es : List Expr) : Except Error Expr :=
  match es.getLast? with
  | some last => .ok (sequence es.dropLast last)
  | none => .error .emptySequence

/-- An element of a list. -/
def mkIndex (list : Expr) (position : Nat) : Except Error Expr :=
  match list.type with
  | .list _ => .ok (index list position)
  | type => .error (.notIndexable type)

/-! ## Members -/

/-- An instance converted to the declaring type of a member. -/
def upcastReceiver (receiver : Expr) (owner : TypeId) (member : String) : Except Error Expr :=
  match t.classify receiver.type (.object owner) .implicit with
  | some rule => .ok (convertBy t rule receiver (.object owner))
  | none => .error (.declaredElsewhere member owner receiver.type)

/-- The receiver of a member: none for a static one, and an instance of the declaring type
otherwise. -/
def bindReceiver (receiver : Option Expr) (owner : TypeId) (isStatic : Bool) (member : String) :
    Except Error (Option Expr) :=
  match receiver, isStatic with
  | none, true => .ok none
  | some _, true => .error (.staticThroughInstance member)
  | none, false => .error (.instanceRequired member)
  | some e, false => (upcastReceiver t e owner member).map some

/-- Read a field. -/
def mkFieldGet (receiver : Option Expr) (f : FieldRef) : Except Error Expr := do
  pure (fieldGet f (← bindReceiver t receiver f.owner f.field.isStatic f.field.name))

/-- Assign a field.  Write-once fields are refused. -/
def mkFieldSet (receiver : Option Expr) (f : FieldRef) (value : Expr) : Except Error Expr := do
  if f.field.initOnly then throw (.writeOnce f.owner f.field.name)
  let receiver ← bindReceiver t receiver f.owner f.field.isStatic f.field.name
  pure (fieldSet f receiver (← value.coerce t f.field.type))

/-- Store into a write-once field by its write primitive. -/
def mkWritePrimitive (f : FieldRef) (receiver : Option Expr) (value : Expr) : Except Error Expr := do
  let receiver ← bindReceiver t receiver f.owner f.field.isStatic f.field.name
  pure (writePrimitive f receiver (← value.coerce t f.field.type))

/-- Convert the given arguments to their parameter types. -/
def coerceArguments (callee : String) : List Parameter → List Expr → Except Error (List Expr)
  | p :: ps, e :: es =>
    match e.coerce t p.type with
    | .error cause => .error (.inContext (.argument p.name callee) cause)
    | .ok e => (coerceArguments callee ps es).map (e :: ·)
  | _, _ => .ok []

/-- The defaults of parameters as literals of their types. -/
def defaultArguments : List Parameter → Except Error (List Expr)
  | [] => .ok []
  | p :: ps =>
    match typedLiteral t (p.default?.getD .null) p.type with
    | .error e => .error e
    | .ok e => (defaultArguments ps).map (e :: ·)

/-- One argument per parameter: the given ones converted, then the defaults of the others. -/
def bindArguments (parameters : List Parameter) (args : List Expr) (callee : String) :
    Except Error (List Expr) := do
  let required := parameters.countP (!·.isOptional)
  if args.length < required ∨ parameters.length < args.length then
    throw (.argumentCount callee required parameters.length args.length)
  let given ← coerceArguments t callee parameters args
  let defaults ← defaultArguments t (parameters.drop args.length)
  pure (given ++ defaults)

/-- Call a method.  Arguments that are left out take their defaults. -/
def mkCall (receiver : Option Expr) (m : MethodRef) (args : List Expr) : Except Error Expr := do
  let receiver ← bindReceiver t receiver m.owner m.method.isStatic m.method.name
  pure (call m receiver (← bindArguments t m.method.parameters args m.method.name))

/-- Construct an object. -/
def mkConstruct (c : ConstructorRef) (args : List Expr) : Except Error Expr := do
  pure (construct c (← bindArguments t c.constructor.parameters args (t.name c.owner)))

/-- Read a member of an instance; null gives null. -/
def mkNavigate (receiver : Expr) (m : MemberRef) : Except Error Expr := do
  if m.isStatic then throw (.staticNavigation m.owner m.name)
  if !m.isReadable then throw (.unreadableNavigation m.owner m.name)
  pure (navigate (← upcastReceiver t receiver m.owner m.name) m)

/-! ## Member initialisation -/

/-- The declaring type of what an initialiser stores into, its type and its name. -/
def targetParts : AssignTarget → Except Error (TypeId × ValueType × String)
  | .field f =>
    if f.field.initOnly then .error (.writeOnce f.owner f.field.name)
    else .ok (f.owner, f.field.type, f.field.name)
  | .primitive f => .ok (f.owner, f.field.type, f.field.name)
  | .setter s =>
    match s.method.parameters with
    | [p] => .ok (s.owner, p.type, s.method.name)
    | _ => .error (.notSetter s.owner s.method.name)

/-- Check one initialiser of an object of a type, and convert its value. -/
def bindMember (type : TypeId) (target : AssignTarget) (value : Expr) :
    Except Error (AssignTarget × Expr) := do
  let (owner, memberType, name) ← targetParts target
  if !t.isSubtype type owner then throw (.foreignMember name type)
  pure (target, ← value.coerce t memberType)

/-- Initialise members of an object. -/
def mkMemberInit (object : Expr) (bindings : List (AssignTarget × Expr)) : Except Error Expr :=
  match object.type with
  | .object type => do
    let bound ← bindings.mapM fun (target, value) => bindMember t type target value
    pure (memberInit object bound)
  | type => .error (.notAnObject type)

end Expr
end Reshape
