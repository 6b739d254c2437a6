import Reshape.Conversion.Rule
import Reshape.Error.Basic

/-!
# Expressions

Typed expressions over parameters and local bindings.  The type of an expression is computed from its
parts; only where the parts do not determine it (literals, parameters, locals, zero values and
conversions) is it written down.  Expressions are built by the checked constructors of `Expr.Build`,
which make operand types agree and insert conversions.
-/

namespace Reshape

/-- How a member initialiser stores its value. -/
inductive AssignTarget where
  /-- Directly into a field. -/
  | field (f : FieldRef)
  /-- Into a write-once field, by its write primitive. -/
  | primitive (f : FieldRef)
  /-- By a setter. -/
  | setter (s : MethodRef)
deriving DecidableEq, Inhabited

/-- An expression. -/
inductive Expr where
  /-- A binary operator on operands of one type. -/
  | binary (op : Operator) (lhs rhs : Expr)
  /-- A call of a method, on an instance or statically. -/
  | call (method : MethodRef) (receiver : Option Expr) (args : List Expr)
  /-- One of two expressions of one type. -/
  | conditional (test thenExpr otherwise : Expr)
  /-- A literal. -/
  | constant (value : Value) (type : ValueType)
  /-- A conversion by a rule. -/
  | convert (rule : ConversionRule) (operand : Expr) (type : ValueType)
  /-- The zero value of a type. -/
  | zero (type : ValueType)
  /-- A field of an instance, or of a type. -/
  | fieldGet (field : FieldRef) (receiver : Option Expr)
  /-- An assignment to a field. -/
  | fieldSet (field : FieldRef) (receiver : Option Expr) (value : Expr)
  /-- An element of a list. -/
  | index (list : Expr) (position : Nat)
  /-- A local binding. -/
  | letIn (id : LocalId) (value body : Expr)
  /-- The value of a local binding. -/
  | readLocal (id : LocalId) (type : ValueType)
  /-- An object with members assigned, one after the other. -/
  | memberInit (object : Expr) (bindings : List (AssignTarget × Expr))
  /-- A member of an instance, or null if there is no instance. -/
  | navigate (receiver : Expr) (member : MemberRef)
  /-- A new object. -/
  | construct (constructor : ConstructorRef) (args : List Expr)
  /-- Negation. -/
  | negate (operand : Expr)
  /-- A parameter of the enclosing lambda. -/
  | parameter (index : Nat) (type : ValueType)
  /-- Expressions in order; the value is that of the last. -/
  | sequence (front : List Expr) (last : Expr)
  /-- A store into a write-once field, by its write primitive. -/
  | writePrimitive (field : FieldRef) (receiver : Option Expr) (value : Expr)
deriving Inhabited

namespace Expr

/-- The type of an expression. -/
def type : Expr → ValueType
  | binary op lhs _ => if op.isArithmetic then lhs.type else .bool
  | call method _ _ => method.method.resultType
  | conditional _ thenExpr _ => thenExpr.type
  | constant _ type => type
  | convert _ _ type => type
  | zero type => type
  | fieldGet field _ => field.field.type
  | fieldSet _ _ _ => .any
  | index list _ =>
    match list.type with
    | .list element => element
    | _ => .any
  | letIn _ _ body => body.type
  | readLocal _ type => type
  | memberInit object _ => object.type
  | navigate _ member => member.type.orNull
  | construct c _ => .object c.owner
  | negate _ => .bool
  | parameter _ type => type
  | sequence _ last => last.type
  | writePrimitive _ _ _ => .any

/-- The parts of an expression, in the order in which they are evaluated. -/
def children : Expr → List Expr
  | binary _ lhs rhs => [lhs, rhs]
  | call _ receiver args => receiver.toList ++ args
  | conditional test thenExpr otherwise => [test, thenExpr, otherwise]
  | constant _ _ | zero _ | readLocal _ _ | parameter _ _ => []
  | convert _ operand _ => [operand]
  | fieldGet _ receiver => receiver.toList
  | fieldSet _ receiver value => receiver.toList ++ [value]
  | index list _ => [list]
  | letIn _ value body => [value, body]
  | memberInit object bindings => object :: bindings.map (·.2)
  | navigate receiver _ => [receiver]
  | construct _ args => args
  | negate operand => [operand]
  | sequence front last => front ++ [last]
  | writePrimitive _ receiver value => receiver.toList ++ [value]

mutual

/-- Every node of an expression, each before its parts. -/
def nodes : Expr → List Expr
  | e@(binary _ lhs rhs) => e :: (lhs.nodes ++ rhs.nodes)
  | e@(call _ receiver args) => e :: (optionalNodes receiver ++ nodesOfAll args)
  | e@(conditional test thenExpr otherwise) =>
    e :: (test.nodes ++ thenExpr.nodes ++ otherwise.nodes)
  | e@(constant _ _) => [e]
  | e@(convert _ operand _) => e :: operand.nodes
  | e@(zero _) => [e]
  | e@(fieldGet _ receiver) => e :: optionalNodes receiver
  | e@(fieldSet _ receiver value) => e :: (optionalNodes receiver ++ value.nodes)
  | e@(index list _) => e :: list.nodes
  | e@(letIn _ value body) => e :: (value.nodes ++ body.nodes)
  | e@(readLocal _ _) => [e]
  | e@(memberInit object bindings) => e :: (object.nodes ++ bindingNodes bindings)
  | e@(navigate receiver _) => e :: receiver.nodes
  | e@(construct _ args) => e :: nodesOfAll args
  | e@(negate operand) => e :: operand.nodes
  | e@(parameter _ _) => [e]
  | e@(sequence front last) => e :: (nodesOfAll front ++ last.nodes)
  | e@(writePrimitive _ receiver value) => e :: (optionalNodes receiver ++ value.nodes)

/-- Every node of several expressions. -/
def nodesOfAll : List Expr → List Expr
  | [] => []
  | e :: rest => e.nodes ++ nodesOfAll rest

/-- Every node of a receiver. -/
def optionalNodes : Option Expr → List Expr
  | none => []
  | some e => e.nodes

/-- Every node of the values of initialisers. -/
def bindingNodes : List (AssignTarget × Expr) → List Expr
  | [] => []
  | (_, e) :: rest => e.nodes ++ bindingNodes rest

end

end Expr

/-- What builds expressions: it may fail, and it draws fresh numbers for local bindings.  Numbers
drawn before a failure stay used. -/
abbrev Build := ExceptT Error (StateM LocalId)

namespace Build

/-- A number that no local binding has yet. -/
def fresh : Build LocalId := do
  let id ← get
  set (id + 1)
  pure id

/-- The outcome of a check, as a step of building. -/
def ofExcept {α : Type} : Except Error α → Build α
  | .ok a => pure a
  | .error e => throw e

end Build
end Reshape
