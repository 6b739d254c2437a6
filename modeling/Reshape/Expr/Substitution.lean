import Reshape.Expr.Build

/-!
# Substitution

`rebind` replaces the parameters of an expression by arguments, each converted to the parameter's
type, and gives every local binding a fresh number: so the result can stand beside other copies of
the same expression, and no argument is captured.
-/

namespace Reshape
namespace Expr

variable (t : TypeTable)

/-- New numbers of local bindings, innermost first. -/
abbrev Renaming := List (LocalId × LocalId)

/-- The new number of a local binding; one from outside keeps its own. -/
def Renaming.apply (r : Renaming) (id : LocalId) : LocalId :=
  match r.find? (·.1 == id) with
  | some (_, renamed) => renamed
  | none => id

mutual

/-- Replace parameters by arguments, under a renaming of the local bindings. -/
def substitute (args : List Expr) (r : Renaming) : Expr → Build Expr
  | binary op lhs rhs => do
    let lhs ← substitute args r lhs
    pure (binary op lhs (← substitute args r rhs))
  | call m receiver es => do
    let receiver ← substituteReceiver args r receiver
    pure (call m receiver (← substituteAll args r es))
  | conditional test thenExpr otherwise => do
    let test ← substitute args r test
    let thenExpr ← substitute args r thenExpr
    pure (conditional test thenExpr (← substitute args r otherwise))
  | constant v type => pure (constant v type)
  | convert rule operand type => do
    pure (convert rule (← substitute args r operand) type)
  | zero type => pure (zero type)
  | fieldGet f receiver => do
    pure (fieldGet f (← substituteReceiver args r receiver))
  | fieldSet f receiver value => do
    let receiver ← substituteReceiver args r receiver
    pure (fieldSet f receiver (← substitute args r value))
  | index list position => do
    pure (index (← substitute args r list) position)
  | letIn id value body => do
    let value ← substitute args r value
    let renamed ← Build.fresh
    pure (letIn renamed value (← substitute args ((id, renamed) :: r) body))
  | readLocal id type => pure (readLocal (r.apply id) type)
  | memberInit object bindings => do
    let object ← substitute args r object
    pure (memberInit object (← substituteBindings args r bindings))
  | navigate receiver m => do
    pure (navigate (← substitute args r receiver) m)
  | construct c es => do
    pure (construct c (← substituteAll args r es))
  | negate operand => do
    pure (negate (← substitute args r operand))
  | parameter place type =>
    match args[place]? with
    | some arg => Build.ofExcept (arg.coerce t type)
    | none => throw (.noArgument place)
  | sequence front last => do
    let front ← substituteAll args r front
    pure (sequence front (← substitute args r last))
  | writePrimitive f receiver value => do
    let receiver ← substituteReceiver args r receiver
    pure (writePrimitive f receiver (← substitute args r value))

/-- Substitute in several expressions. -/
def substituteAll (args : List Expr) (r : Renaming) : List Expr → Build (List Expr)
  | [] => pure []
  | e :: rest => do
    let e ← substitute args r e
    pure (e :: (← substituteAll args r rest))

/-- Substitute in a receiver. -/
def substituteReceiver (args : List Expr) (r : Renaming) : Option Expr → Build (Option Expr)
  | none => pure none
  | some e => do
    pure (some (← substitute args r e))

/-- Substitute in the values of initialisers. -/
def substituteBindings (args : List Expr) (r : Renaming) :
    List (AssignTarget × Expr) → Build (List (AssignTarget × Expr))
  | [] => pure []
  | (target, e) :: rest => do
    let e ← substitute args r e
    pure ((target, e) :: (← substituteBindings args r rest))

end

/-- Replace every parameter by its argument. -/
def rebind (e : Expr) (args : List Expr) : Build Expr :=
  substitute t args [] e

end Expr
end Reshape
