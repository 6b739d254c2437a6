import Reshape.Accessor.Synthesis
import Reshape.Projection.Configuration

/-!
# Binding sources

The value of a target member or constructor parameter as an expression over the source object, which
is the only parameter of the projection.
-/

namespace Reshape
namespace Binding

/-- What the name of an inferred source is the name of. -/
inductive Wanted where
  /-- A target member. -/
  | member (name : String)
  /-- A constructor parameter. -/
  | parameter (name : String)
deriving DecidableEq, Repr, Inhabited

variable (t : TypeTable) (source : TypeId)

/-- The source object. -/
def sourceObject : Expr :=
  .parameter 0 (.object source)

/-- One more hop of a path: the first reads the source object, later ones propagate null. -/
def hop (from? : Option Expr) (segment path : String) : Except Error Expr :=
  match from? with
  | none =>
    match t.findMember? source segment with
    | none => .error (.pathNotFound segment path source)
    | some m => Accessor.readMember t (if m.isStatic then none else some (sourceObject source)) m
  | some e =>
    match e.type.underlying.objectType? with
    | none => .error (.pathBeyondObjects segment path e.type)
    | some type =>
      match t.findMember? type segment with
      | none => .error (.pathNotFound segment path type)
      | some m => Expr.mkNavigate t e m

/-- The expression of a path, hop by hop. -/
def follow (path : String) : Option Expr → List String → Except Error (Option Expr)
  | from?, [] => .ok from?
  | from?, segment :: rest => do
    let e ← hop t source from? segment path
    follow path (some e) rest

/-- The expression of a dotted path. -/
def pathExpr (path : String) : Except Error Expr := do
  match ← follow t source path none (path.splitOn ".") with
  | some e => pure e
  | none => throw (.pathNotFound path path source)

/-- The source members that can be read from the object. -/
def readable : List MemberRef :=
  (t.members source).filter fun m => !m.isStatic && m.isReadable

/-- The source members that match a name. -/
def candidates (strategy : NameStrategy) : Wanted → List MemberRef
  | .member name => (readable t source).filter fun m => strategy.memberMatchesSource name m.name
  | .parameter name => (readable t source).filter fun m => strategy.parameterMatchesSource name m.name

/-- The name that is wanted. -/
def Wanted.name : Wanted → String
  | member name => name
  | parameter name => name

/-- The one source member that matches a name. -/
def inferredExpr (strategy : NameStrategy) (wanted : Wanted) : Except Error Expr :=
  match candidates t source strategy wanted with
  | [m] => Accessor.readMember t (some (sourceObject source)) m
  | [] => .error (.noMatchingSource source wanted.name)
  | several => .error (.severalSources wanted.name source (several.map MemberRef.name))

/-- A source as an expression, before value map and conversion. -/
def sourceExpr (strategy : NameStrategy) (wanted : Wanted) : Source → Build Expr
  | .constant v => pure (Expr.literal t v)
  | .expression e => e.rebind t [sourceObject source]
  | .inferred => Build.ofExcept (inferredExpr t source strategy wanted)
  | .lambda l =>
    if l.parameters.length = 1 then l.apply t [sourceObject source]
    else throw (.sourceArity l.parameters.length)
  | .path path => Build.ofExcept (pathExpr t source path)

/-- A bound source with its value map, converted to the type that it is assigned to.  A literal
without map is converted as a literal. -/
def finish (value : Expr) (map? : Option ValueMap) (type : ValueType) : Build Expr :=
  match map? with
  | some map => do
    let mapped ← map.lower t value type
    Build.ofExcept (mapped.coerce t type)
  | none =>
    match value with
    | .constant v _ => Build.ofExcept (Expr.typedLiteral t v type)
    | value => Build.ofExcept (value.coerce t type)

/-- Add what was being done to an error. -/
def within {α : Type} (context : ErrorContext) (a : Build α) : Build α :=
  tryCatch a fun e => throw (.inContext context e)

end Binding
end Reshape
