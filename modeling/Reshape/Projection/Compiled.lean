import Reshape.Expr.Evaluation
import Reshape.Projection.Configuration

/-!
# Compiled projections

A projection is a lambda that constructs a target object from the source object and then assigns the
members that the constructor did not take.  A reduced projection leaves out columns: members that are
not selected are not assigned, and optional parameters fed by them take their defaults; required
parameters keep their sources.
-/

namespace Reshape

/-- What a constructor argument comes from. -/
inductive ArgumentOrigin where
  /-- The default of the parameter. -/
  | default
  /-- A configured member. -/
  | member (name : String)
  /-- A configured parameter. -/
  | parameter
deriving DecidableEq, Repr, Inhabited

/-- A constructor argument. -/
structure ConstructorArgument where
  /-- Name of the parameter. -/
  parameter : String
  /-- What it comes from. -/
  origin : ArgumentOrigin
  /-- Its value. -/
  value : Expr
  /-- The default of the parameter, if it is optional. -/
  default? : Option Expr
deriving Inhabited

/-- An assignment after construction. -/
structure MemberAssignment where
  /-- The name under which the member was configured. -/
  name : String
  /-- The member. -/
  member : MemberRef
  /-- How it is stored. -/
  target : AssignTarget
  /-- Its value. -/
  value : Expr
deriving Inhabited

/-- An executable projection. -/
structure Projection where
  /-- From the source object to a new target object. -/
  lambda : Lambda
  /-- Type of the objects that are made. -/
  target : TypeId
deriving Inhabited

namespace Projection

/-- Construct an object and initialise its members. -/
def assemble (t : TypeTable) (source : TypeId) (r : ConstructorRef) (args : List Expr)
    (bindings : List (AssignTarget × Expr)) : Except Error Projection := do
  let object ← Expr.mkConstruct t r args
  let body ← Expr.mkMemberInit t object bindings
  let l ← Lambda.make [⟨"source", .object source⟩] body
  pure ⟨l, r.owner⟩

/-- Project a value; null gives null. -/
def apply (m : Machine) (p : Projection) (v : Value) : Action Value :=
  if v.isNull then pure .null else m.run p.lambda.compile [v]

end Projection

/-- A projection with all its parts bound. -/
structure CompiledProjection where
  /-- Source type. -/
  source : TypeId
  /-- The constructor. -/
  constructor : ConstructorRef
  /-- Its arguments, in order of the parameters. -/
  args : List ConstructorArgument
  /-- What is assigned after construction. -/
  assignments : List MemberAssignment
  /-- The projection with all columns. -/
  full : Projection
deriving Inhabited

namespace CompiledProjection

/-- Assemble a compiled projection. -/
def make (t : TypeTable) (source : TypeId) (r : ConstructorRef) (args : List ConstructorArgument)
    (assignments : List MemberAssignment) : Except Error CompiledProjection := do
  let full ← Projection.assemble t source r (args.map (·.value))
    (assignments.map fun a => (a.target, a.value))
  pure ⟨source, r, args, assignments, full⟩

/-- Type of the objects that are made. -/
def target (p : CompiledProjection) : TypeId :=
  p.constructor.owner

/-- The member that an argument comes from. -/
def memberOf? (a : ConstructorArgument) : Option String :=
  match a.origin with
  | .member name => some name
  | _ => none

/-- The names of the projected members, those that the constructor takes first. -/
def columns (p : CompiledProjection) : List String :=
  p.args.filterMap memberOf? ++ p.assignments.map (·.name)

/-- The argument of a reduced projection: a member that is not selected gives way to the default. -/
def reducedArgument (columns : List String) (a : ConstructorArgument) : Expr :=
  match a.origin, a.default? with
  | .member name, some default => if columns.contains name then a.value else default
  | _, _ => a.value

/-- The projection restricted to columns. -/
def reduced (t : TypeTable) (p : CompiledProjection) (columns : List String) :
    Except Error Projection :=
  match columns.find? fun c => !p.columns.contains c with
  | some unknown => .error (.unknownColumn unknown p.target p.columns)
  | none =>
    Projection.assemble t p.source p.constructor (p.args.map (reducedArgument columns))
      ((p.assignments.filter fun a => columns.contains a.name).map fun a => (a.target, a.value))

/-- The full projection, or the one restricted to columns. -/
def project (t : TypeTable) (p : CompiledProjection) : Option (List String) → Except Error Projection
  | none => .ok p.full
  | some columns => p.reduced t columns

end CompiledProjection

namespace World

variable (w : World)

/-- A handle as it is written inside renderings. -/
def handleText (type : TypeId) : String :=
  "TypeHandle(" ++ w.types.name type ++ "#" ++ count type ++ ")"

/-- The target of a configuration as it is written. -/
def targetText : TargetSpec → String
  | .declared type => "Declared(" ++ w.handleText type ++ ")"
  | .synthesized name => "Synthesized(" ++ Text.quoted name ++ ")"

/-- A projection as it is written. -/
def projectionText (p : Projection) : String :=
  "Projection(" ++ w.lambdaText p.lambda ++ ")"

/-- A compiled projection as it is written. -/
def compiledProjectionText (p : CompiledProjection) : String :=
  "CompiledProjection \x7b source: " ++ w.handleText p.source ++ ", target: " ++
    w.handleText p.target ++ ", ctor: " ++
    w.constructorText p.constructor.owner p.constructor.constructor ++ ", columns: [" ++
    joined ", " (p.columns.map Text.quoted) ++ "], .. \x7d"

end World
end Reshape
