import Reshape.Expr.Lambda
import Reshape.Proofs.Model.Declared

/-!
# Typing of expressions

The type of an expression is computed from its parts, so what has to be said of an expression is said
of its nodes one by one (`Expr.Each`): a node is well typed if its parts have the types that it relies
on (`Expr.NodeTyped`).  Local bindings are numbered, and a context gives every number that was drawn
the type of the value bound to it; later contexts and later tables keep typing
(`Expr.NodeTyped.mono`).
-/

namespace Reshape

/-- An operator is defined on operands of a type. -/
structure Operator.Takes (op : Operator) (type : ValueType) : Prop where
  /-- Logical operators take truth values. -/
  logical : op.isLogical = true → type = .bool
  /-- Arithmetic is for numbers; texts can be added. -/
  arithmetic : op.isArithmetic = true →
    type.underlying.isNumeric = true ∨ type.underlying = .text ∧ op = .add

/-! ## Nodes -/

namespace Expr

attribute [grind =] nodes nodesOfAll optionalNodes bindingNodes

/-- Something holds of every node of an expression. -/
def Each (P : Expr → Prop) (e : Expr) : Prop :=
  ∀ n ∈ e.nodes, P n

section Each

variable {P : Expr → Prop}

theorem mem_nodesOfAll {n : Expr} {es : List Expr} : n ∈ nodesOfAll es ↔ ∃ e ∈ es, n ∈ e.nodes := by
  induction es with
  | nil => simp [nodesOfAll]
  | cons e es ih => simp [nodesOfAll, ih]

theorem mem_bindingNodes {n : Expr} {bindings : List (AssignTarget × Expr)} :
    n ∈ bindingNodes bindings ↔ ∃ b ∈ bindings, n ∈ b.2.nodes := by
  induction bindings with
  | nil => simp [bindingNodes]
  | cons b bindings ih => simp [bindingNodes, ih]

theorem each_nodesOfAll {es : List Expr} : (∀ n ∈ nodesOfAll es, P n) ↔ ∀ e ∈ es, Each P e := by
  simp only [mem_nodesOfAll, Each]
  constructor
  · intro h e he n hn
    exact h n ⟨e, he, hn⟩
  · rintro h n ⟨e, he, hn⟩
    exact h e he n hn

theorem each_bindingNodes {bindings : List (AssignTarget × Expr)} :
    (∀ n ∈ bindingNodes bindings, P n) ↔ ∀ b ∈ bindings, Each P b.2 := by
  simp only [mem_bindingNodes, Each]
  constructor
  · intro h b hb n hn
    exact h n ⟨b, hb, hn⟩
  · rintro h n ⟨b, hb, hn⟩
    exact h b hb n hn

theorem each_optionalNodes {receiver : Option Expr} :
    (∀ n ∈ optionalNodes receiver, P n) ↔ ∀ e, receiver = some e → Each P e := by
  cases receiver <;> simp [optionalNodes, Each]

theorem each_binary {op : Operator} {lhs rhs : Expr} :
    Each P (binary op lhs rhs) ↔ P (binary op lhs rhs) ∧ Each P lhs ∧ Each P rhs := by
  simp [Each, nodes, or_imp, forall_and]

theorem each_call {r : MethodRef} {receiver : Option Expr} {es : List Expr} :
    Each P (call r receiver es) ↔ P (call r receiver es) ∧
      (∀ e, receiver = some e → Each P e) ∧ ∀ e ∈ es, Each P e := by
  rw [← each_optionalNodes, ← each_nodesOfAll]
  simp [Each, nodes, or_imp, forall_and]

theorem each_conditional {test thenExpr otherwise : Expr} :
    Each P (conditional test thenExpr otherwise) ↔ P (conditional test thenExpr otherwise) ∧
      Each P test ∧ Each P thenExpr ∧ Each P otherwise := by
  simp [Each, nodes, or_imp, forall_and]

theorem each_constant {v : Value} {type : ValueType} :
    Each P (constant v type) ↔ P (constant v type) := by
  simp [Each, nodes]

theorem each_convert {rule : ConversionRule} {operand : Expr} {type : ValueType} :
    Each P (convert rule operand type) ↔ P (convert rule operand type) ∧ Each P operand := by
  simp [Each, nodes]

theorem each_zero {type : ValueType} : Each P (zero type) ↔ P (zero type) := by
  simp [Each, nodes]

theorem each_fieldGet {f : FieldRef} {receiver : Option Expr} :
    Each P (fieldGet f receiver) ↔
      P (fieldGet f receiver) ∧ ∀ e, receiver = some e → Each P e := by
  rw [← each_optionalNodes]
  simp [Each, nodes]

theorem each_fieldSet {f : FieldRef} {receiver : Option Expr} {value : Expr} :
    Each P (fieldSet f receiver value) ↔ P (fieldSet f receiver value) ∧
      (∀ e, receiver = some e → Each P e) ∧ Each P value := by
  rw [← each_optionalNodes]
  simp [Each, nodes, or_imp, forall_and]

theorem each_index {list : Expr} {position : Nat} :
    Each P (index list position) ↔ P (index list position) ∧ Each P list := by
  simp [Each, nodes]

theorem each_letIn {id : LocalId} {value body : Expr} :
    Each P (letIn id value body) ↔ P (letIn id value body) ∧ Each P value ∧ Each P body := by
  simp [Each, nodes, or_imp, forall_and]

theorem each_readLocal {id : LocalId} {type : ValueType} :
    Each P (readLocal id type) ↔ P (readLocal id type) := by
  simp [Each, nodes]

theorem each_memberInit {object : Expr} {bindings : List (AssignTarget × Expr)} :
    Each P (memberInit object bindings) ↔ P (memberInit object bindings) ∧ Each P object ∧
      ∀ b ∈ bindings, Each P b.2 := by
  rw [← each_bindingNodes]
  simp [Each, nodes, or_imp, forall_and]

theorem each_navigate {receiver : Expr} {m : MemberRef} :
    Each P (navigate receiver m) ↔ P (navigate receiver m) ∧ Each P receiver := by
  simp [Each, nodes]

theorem each_construct {c : ConstructorRef} {es : List Expr} :
    Each P (construct c es) ↔ P (construct c es) ∧ ∀ e ∈ es, Each P e := by
  rw [← each_nodesOfAll]
  simp [Each, nodes]

theorem each_negate {operand : Expr} :
    Each P (negate operand) ↔ P (negate operand) ∧ Each P operand := by
  simp [Each, nodes]

theorem each_parameter {place : Nat} {type : ValueType} :
    Each P (parameter place type) ↔ P (parameter place type) := by
  simp [Each, nodes]

theorem each_sequence {front : List Expr} {last : Expr} :
    Each P (sequence front last) ↔ P (sequence front last) ∧ (∀ e ∈ front, Each P e) ∧
      Each P last := by
  rw [← each_nodesOfAll]
  simp [Each, nodes, or_imp, forall_and]

theorem each_writePrimitive {f : FieldRef} {receiver : Option Expr} {value : Expr} :
    Each P (writePrimitive f receiver value) ↔ P (writePrimitive f receiver value) ∧
      (∀ e, receiver = some e → Each P e) ∧ Each P value := by
  rw [← each_optionalNodes]
  simp [Each, nodes, or_imp, forall_and]

theorem Each.imp {Q : Expr → Prop} {e : Expr} (h : Each P e) (hPQ : ∀ n, P n → Q n) : Each Q e :=
  fun n hn => hPQ n (h n hn)

theorem Each.and {Q : Expr → Prop} {e : Expr} (h : Each P e) (h' : Each Q e) :
    Each (fun n => P n ∧ Q n) e :=
  fun n hn => ⟨h n hn, h' n hn⟩

end Each

/-! ## Typing -/

/-- What is known of local bindings: the type of the value bound to each number that was drawn, and
the next number. -/
structure Context where
  /-- Types of the bound values. -/
  type : LocalId → ValueType
  /-- The number that is drawn next. -/
  next : LocalId

/-- More numbers were drawn. -/
structure Context.Extends (c c' : Context) : Prop where
  /-- Numbers are drawn upwards. -/
  next_le : c.next ≤ c'.next
  /-- Numbers that were drawn keep their type. -/
  type_eq : ∀ id < c.next, c'.type id = c.type id

theorem Context.Extends.refl (c : Context) : c.Extends c := ⟨Nat.le_refl _, fun _ _ => rfl⟩

theorem Context.Extends.trans {c₁ c₂ c₃ : Context} (h : c₁.Extends c₂) (h' : c₂.Extends c₃) :
    c₁.Extends c₃ := by
  refine ⟨Nat.le_trans h.next_le h'.next_le, fun id hid => ?_⟩
  rw [h'.type_eq id (Nat.lt_of_lt_of_le hid h.next_le), h.type_eq id hid]

/-- A number is drawn for a value of a type. -/
def Context.bind (c : Context) (type : ValueType) : Context :=
  ⟨fun id => if id = c.next then type else c.type id, c.next + 1⟩

theorem Context.extends_bind (c : Context) (type : ValueType) : c.Extends (c.bind type) :=
  ⟨Nat.le_succ _, fun _ hid => if_neg (Nat.ne_of_lt hid)⟩

theorem Context.bind_next (c : Context) (type : ValueType) : (c.bind type).type c.next = type :=
  if_pos rfl

/-- A receiver is there for an instance member only, and is an instance of the declaring type. -/
def ReceiverTyped (owner : TypeId) (isStatic : Bool) : Option Expr → Prop
  | none => isStatic = true
  | some e => isStatic = false ∧ e.type = .object owner

end Expr

/-- The target is a field or a method of a declared type. -/
def TypeTable.HasTarget (t : TypeTable) : AssignTarget → Prop
  | .field f => t.HasField f
  | .primitive f => t.HasField f
  | .setter r => t.HasMethod r

theorem TypeTable.HasTarget.mono {t t' : TypeTable} (he : t.Extends t') {target : AssignTarget}
    (h : t.HasTarget target) : t'.HasTarget target := by
  cases target with
  | field f => exact HasField.mono he h
  | primitive f => exact HasField.mono he h
  | setter r => exact HasMethod.mono he h

namespace Expr

/-- A value of a type can be assigned to a target of an object. -/
structure TargetTyped (t : TypeTable) (object : TypeId) (target : AssignTarget)
    (type : ValueType) : Prop where
  /-- The target is there. -/
  hasTarget : t.HasTarget target
  /-- It is declared on the object's type or on a base, and takes values of the type. -/
  parts : ∃ owner name, targetParts target = .ok (owner, type, name) ∧
    t.isSubtype object owner = true

/-- A field that is a target is not write-once. -/
theorem TargetTyped.field {t : TypeTable} {object : TypeId} {f : FieldRef} {type : ValueType}
    (h : TargetTyped t object (.field f) type) :
    f.field.initOnly = false ∧ t.isSubtype object f.owner = true := by
  obtain ⟨owner, name, hparts, hsub⟩ := h.parts
  by_cases honce : f.field.initOnly = true
  · simp [targetParts, honce] at hparts
  · rw [targetParts, if_neg honce] at hparts
    cases hparts
    exact ⟨Bool.eq_false_iff.2 honce, hsub⟩

theorem TargetTyped.primitive {t : TypeTable} {object : TypeId} {f : FieldRef} {type : ValueType}
    (h : TargetTyped t object (.primitive f) type) : t.isSubtype object f.owner = true := by
  obtain ⟨owner, name, hparts, hsub⟩ := h.parts
  cases hparts
  exact hsub

/-- A setter that is a target takes one value of the type. -/
theorem TargetTyped.setter {t : TypeTable} {object : TypeId} {r : MethodRef} {type : ValueType}
    (h : TargetTyped t object (.setter r) type) :
    (∃ p, r.method.parameters = [p] ∧ p.type = type) ∧ t.isSubtype object r.owner = true := by
  obtain ⟨owner, name, hparts, hsub⟩ := h.parts
  simp only [targetParts] at hparts
  split at hparts
  · rename_i p hp
    cases hparts
    exact ⟨⟨p, hp, rfl⟩, hsub⟩
  · cases hparts

theorem TargetTyped.mono {t t' : TypeTable} (he : t.Extends t') {object : TypeId}
    {target : AssignTarget} {type : ValueType} (h : TargetTyped t object target type) :
    TargetTyped t' object target type := by
  obtain ⟨owner, name, hparts, hsub⟩ := h.parts
  exact ⟨h.hasTarget.mono he, owner, name, hparts, he.isSubtype hsub⟩

/-- The parts of a node have the types that it relies on, and a field that is assigned directly is not
write-once. -/
def NodeTyped (t : TypeTable) (c : Context) : Expr → Prop
  | binary op lhs rhs =>
    lhs.type = rhs.type ∧ op.Takes lhs.type
  | call r receiver es =>
    t.HasMethod r ∧ ReceiverTyped r.owner r.method.isStatic receiver ∧
      es.map type = r.method.parameters.map (·.type)
  | conditional test thenExpr otherwise =>
    test.type = .bool ∧ thenExpr.type = otherwise.type
  | constant v type => t.conforms type v = true
  | convert _ _ _ => True
  | zero _ => True
  | fieldGet f receiver => t.HasField f ∧ ReceiverTyped f.owner f.field.isStatic receiver
  | fieldSet f receiver value =>
    t.HasField f ∧ ReceiverTyped f.owner f.field.isStatic receiver ∧ value.type = f.field.type ∧
      f.field.initOnly = false
  | index list _ => ∃ element, list.type = .list element
  | letIn id value _ => id < c.next ∧ c.type id = value.type
  | readLocal id type => id < c.next ∧ c.type id = type
  | memberInit object bindings =>
    ∃ target, object.type = .object target ∧
      ∀ b ∈ bindings, TargetTyped t target b.1 b.2.type
  | navigate receiver m =>
    t.HasMember m ∧ m.isStatic = false ∧ m.isReadable = true ∧ receiver.type = .object m.owner
  | construct r es => t.HasConstructor r ∧ es.map type = r.constructor.parameters.map (·.type)
  | negate operand => operand.type = .bool
  | parameter _ _ => True
  | sequence _ _ => True
  | writePrimitive f receiver value =>
    t.HasField f ∧ ReceiverTyped f.owner f.field.isStatic receiver ∧ value.type = f.field.type

/-- Every node of an expression is well typed. -/
def Typed (t : TypeTable) (c : Context) (e : Expr) : Prop :=
  e.Each (NodeTyped t c)

variable {t t' : TypeTable} {c c' : Context}

theorem NodeTyped.mono (ht : t.Extends t') (hc : c.Extends c') {e : Expr}
    (h : NodeTyped t c e) : NodeTyped t' c' e := by
  cases e with
  | binary | conditional | convert | zero | index | negate | parameter | sequence => exact h
  | call r receiver es => exact ⟨h.1.mono ht, h.2⟩
  | constant v type => exact TypeTable.conforms_mono ht h
  | fieldGet f receiver => exact ⟨h.1.mono ht, h.2⟩
  | fieldSet f receiver value => exact ⟨h.1.mono ht, h.2⟩
  | letIn id value body =>
    exact ⟨Nat.lt_of_lt_of_le h.1 hc.next_le, (hc.type_eq id h.1).trans h.2⟩
  | readLocal id type =>
    exact ⟨Nat.lt_of_lt_of_le h.1 hc.next_le, (hc.type_eq id h.1).trans h.2⟩
  | memberInit object bindings =>
    obtain ⟨target, hobject, hbindings⟩ := h
    exact ⟨target, hobject, fun b hb => (hbindings b hb).mono ht⟩
  | navigate receiver m => exact ⟨h.1.mono ht, h.2⟩
  | construct r es => exact ⟨h.1.mono ht, h.2⟩
  | writePrimitive f receiver value => exact ⟨h.1.mono ht, h.2⟩

theorem Typed.mono (ht : t.Extends t') (hc : c.Extends c') {e : Expr} (h : Typed t c e) :
    Typed t' c' e :=
  h.imp fun _ hn => hn.mono ht hc

end Expr
end Reshape
