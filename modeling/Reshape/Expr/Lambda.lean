import Reshape.Expr.Rendering
import Reshape.Expr.Substitution

/-!
# Lambdas

A closed expression over declared parameters.  A lambda is made only if every parameter is
referenced at its declared type and every local is read inside its binding.
-/

namespace Reshape

/-- A declared parameter. -/
structure ParameterDecl where
  /-- Name. -/
  name : String
  /-- Type. -/
  type : ValueType
deriving DecidableEq, Repr, Inhabited

/-- A closed expression over declared parameters; see `Lambda.make`. -/
structure Lambda where
  /-- Parameters. -/
  parameters : List ParameterDecl
  /-- Body. -/
  body : Expr
deriving Inhabited

namespace Expr

/-- Check a node that may be a parameter against the declarations. -/
def checkParameter (parameters : List ParameterDecl) : Expr → Except Error Unit
  | parameter place type =>
    match parameters[place]? with
    | some d => if d.type = type then .ok () else .error (.parameterMismatch d.name d.type type)
    | none => .error (.undeclaredParameter place)
  | _ => .ok ()

mutual

/-- Check that every local is read inside its binding, inside the `bound` bindings. -/
def checkScopes (bound : List LocalId) : Expr → Except Error Unit
  | binary _ lhs rhs => do
    checkScopes bound lhs
    checkScopes bound rhs
  | call _ receiver es => do
    checkReceiverScopes bound receiver
    checkAllScopes bound es
  | conditional test thenExpr otherwise => do
    checkScopes bound test
    checkScopes bound thenExpr
    checkScopes bound otherwise
  | constant _ _ | zero _ | parameter _ _ => pure ()
  | convert _ operand _ => checkScopes bound operand
  | fieldGet _ receiver => checkReceiverScopes bound receiver
  | fieldSet _ receiver value => do
    checkReceiverScopes bound receiver
    checkScopes bound value
  | index list _ => checkScopes bound list
  | letIn id value body => do
    checkScopes bound value
    checkScopes (id :: bound) body
  | readLocal id _ => if bound.contains id then pure () else throw (.unboundLocal id)
  | memberInit object bindings => do
    checkScopes bound object
    checkBindingScopes bound bindings
  | navigate receiver _ => checkScopes bound receiver
  | construct _ es => checkAllScopes bound es
  | negate operand => checkScopes bound operand
  | sequence front last => do
    checkAllScopes bound front
    checkScopes bound last
  | writePrimitive _ receiver value => do
    checkReceiverScopes bound receiver
    checkScopes bound value

/-- Check several expressions. -/
def checkAllScopes (bound : List LocalId) : List Expr → Except Error Unit
  | [] => pure ()
  | e :: rest => do
    checkScopes bound e
    checkAllScopes bound rest

/-- Check a receiver. -/
def checkReceiverScopes (bound : List LocalId) : Option Expr → Except Error Unit
  | none => pure ()
  | some e => checkScopes bound e

/-- Check the values of initialisers. -/
def checkBindingScopes (bound : List LocalId) : List (AssignTarget × Expr) → Except Error Unit
  | [] => pure ()
  | (_, e) :: rest => do
    checkScopes bound e
    checkBindingScopes bound rest

end

end Expr

namespace Lambda

/-- Make a lambda, if parameters are referenced as declared and locals are read inside their
bindings. -/
def make (parameters : List ParameterDecl) (body : Expr) : Except Error Lambda := do
  body.nodes.forM (Expr.checkParameter parameters)
  body.checkScopes []
  pure ⟨parameters, body⟩

/-- A reference to a declared parameter. -/
def parameterExpr (parameters : List ParameterDecl) (index : Nat) : Except Error Expr :=
  match parameters[index]? with
  | some d => .ok (.parameter index d.type)
  | none => .error (.undeclaredParameter index)

/-- The type of the result. -/
def resultType (l : Lambda) : ValueType :=
  l.body.type

/-- Convert each argument to its parameter's type. -/
def coerceAll (t : TypeTable) : List ParameterDecl → List Expr → Except Error (List Expr)
  | p :: ps, e :: es => do
    let e ← e.coerce t p.type
    pure (e :: (← coerceAll t ps es))
  | _, _ => pure []

/-- The body with arguments in place of the parameters. -/
def apply (t : TypeTable) (l : Lambda) (args : List Expr) : Build Expr := do
  if args.length ≠ l.parameters.length then
    throw (.lambdaArity l.parameters.length args.length)
  l.body.rebind t (← Build.ofExcept (coerceAll t l.parameters args))

end Lambda

/-- A lambda as it is written: the types of its parameters, and its body. -/
def World.lambdaText (w : World) (l : Lambda) : String :=
  let one (p : ParameterDecl × Nat) : String := "p" ++ count p.2 ++ ": " ++ w.types.typeText p.1.type
  "|" ++ joined ", " (l.parameters.zipIdx.map one) ++ "| " ++ w.exprText l.body

end Reshape
