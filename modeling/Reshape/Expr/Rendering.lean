import Reshape.Error.Message
import Reshape.Expr.Basic

/-!
# How expressions are written

Parameters are written by their place, locals by their number, and conversions as casts.
-/

namespace Reshape

/-- The name of what an initialiser stores into. -/
def AssignTarget.name : AssignTarget → String
  | .field f => f.field.name
  | .primitive f => f.field.name
  | .setter s => s.method.name

/-- The name of an expression's kind, with the operator of a binary expression and the rule of a
conversion. -/
def Expr.label : Expr → String
  | .binary op _ _ => "Binary" ++ op.text
  | .call _ _ _ => "Call"
  | .conditional _ _ _ => "Conditional"
  | .constant _ _ => "Constant"
  | .convert rule _ _ => "Convert." ++ rule.text
  | .zero _ => "Default"
  | .fieldGet _ _ => "FieldGet"
  | .fieldSet _ _ _ => "FieldSet"
  | .index _ _ => "Index"
  | .letIn _ _ _ => "Let"
  | .readLocal _ _ => "Local"
  | .memberInit _ _ => "MemberInit"
  | .navigate _ _ => "Navigate"
  | .construct _ _ => "New"
  | .negate _ => "Not"
  | .parameter _ _ => "Param"
  | .sequence _ _ => "Sequence"
  | .writePrimitive _ _ _ => "WritePrimitive"

namespace World

variable (w : World)

mutual

/-- An expression as it is written. -/
def exprText : Expr → String
  | .binary op lhs rhs => "(" ++ exprText lhs ++ " " ++ op.text ++ " " ++ exprText rhs ++ ")"
  | .call m receiver args =>
    receiverText receiver "." (w.types.name m.owner ++ "::") ++ m.method.name ++ "(" ++
      joined ", " (exprTexts args) ++ ")"
  | .conditional test thenExpr otherwise =>
    "(" ++ exprText test ++ " ? " ++ exprText thenExpr ++ " : " ++ exprText otherwise ++ ")"
  | .constant v _ => w.valueText v
  | .convert _ operand type => "(" ++ w.types.typeText type ++ ")" ++ exprText operand
  | .zero type => "default(" ++ w.types.typeText type ++ ")"
  | .fieldGet f receiver =>
    receiverText receiver "." (w.types.name f.owner ++ "::") ++ f.field.name
  | .fieldSet f receiver value =>
    receiverText receiver "." (w.types.name f.owner ++ "::") ++ f.field.name ++ " = " ++
      exprText value
  | .index list position => exprText list ++ "[" ++ count position ++ "]"
  | .letIn id value body => "let $" ++ count id ++ " = " ++ exprText value ++ " in " ++ exprText body
  | .readLocal id _ => "$" ++ count id
  | .memberInit object bindings =>
    exprText object ++ " \x7b " ++ joined ", " (bindingTexts bindings) ++ " \x7d"
  | .navigate receiver m => exprText receiver ++ "?." ++ m.name
  | .construct c args =>
    "new " ++ w.types.name c.owner ++ "(" ++ joined ", " (exprTexts args) ++ ")"
  | .negate operand => "!" ++ exprText operand
  | .parameter index _ => "p" ++ count index
  | .sequence front last => "\x7b " ++ joined ", " (exprTexts front ++ [exprText last]) ++ " \x7d"
  | .writePrimitive f receiver value =>
    "write_primitive(" ++ w.memberPath f.owner f.field.name ++ ")(" ++
      receiverText receiver ", " "" ++ exprText value ++ ")"

/-- Several expressions, each as it is written. -/
def exprTexts : List Expr → List String
  | [] => []
  | e :: rest => exprText e :: exprTexts rest

/-- A receiver with what follows it, or what stands in its place. -/
def receiverText : Option Expr → String → String → String
  | some e, after, _ => exprText e ++ after
  | none, _, absent => absent

/-- Initialisers as they are written. -/
def bindingTexts : List (AssignTarget × Expr) → List String
  | [] => []
  | (target, e) :: rest => (target.name ++ " = " ++ exprText e) :: bindingTexts rest

end

end World
end Reshape
