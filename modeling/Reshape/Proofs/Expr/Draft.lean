import Mathlib.Logic.Relation
import Reshape.Proofs.Expr.Substitution

/-!
# What the checked constructors build

A draft is a moment of building expressions: the expressions that were built, the numbers that were
drawn for local bindings, and the type definitions known so far.  A step applies a checked constructor
to expressions of the draft, draws a number, binds it, or substitutes (`Draft.Step`).  Every expression
of a draft that steps lead to is well typed (`Draft.Reached.typed`).
-/

namespace Reshape

/-- A moment of building expressions. -/
structure Draft where
  /-- The type definitions. -/
  types : TypeTable
  /-- The next number of a local binding. -/
  next : LocalId
  /-- The numbers that were drawn, with the values that they are to be bound to. -/
  drawn : List (LocalId × Expr)
  /-- The expressions that were built. -/
  built : List Expr

namespace Draft

open Expr (Context Typed)

/-- One more expression. -/
def add (d : Draft) (e : Expr) : Draft :=
  { d with built := e :: d.built }

/-- The next number is drawn for a value, and can be read. -/
def draw (d : Draft) (value : Expr) : Draft where
  types := d.types
  next := d.next + 1
  drawn := (d.next, value) :: d.drawn
  built := .readLocal d.next value.type :: d.built

/-- A checked constructor makes an expression from expressions of the draft.  References to members
are those of declared types, and so are the objects in literals. -/
inductive Makes (d : Draft) : Expr → Prop
  | literal {v : Value} (hv : d.types.Holds v) : d.Makes (Expr.literal d.types v)
  | typedLiteral {v : Value} {type : ValueType} {e : Expr}
      (h : Expr.typedLiteral d.types v type = .ok e) : d.Makes e
  | zero (type : ValueType) : d.Makes (.zero type)
  | parameter (place : Nat) (type : ValueType) : d.Makes (.parameter place type)
  | convertTo {operand e : Expr} {kind : ConversionKind} {target : ValueType}
      (ho : operand ∈ d.built) (h : operand.convertTo d.types kind target = .ok e) : d.Makes e
  | binary {op : Operator} {lhs rhs e : Expr} (hl : lhs ∈ d.built) (hr : rhs ∈ d.built)
      (h : Expr.mkBinary d.types op lhs rhs = .ok e) : d.Makes e
  | negate {operand e : Expr} (ho : operand ∈ d.built) (h : Expr.mkNegate operand = .ok e) :
      d.Makes e
  | conditional {test thenExpr otherwise e : Expr} (ht : test ∈ d.built) (h₁ : thenExpr ∈ d.built)
      (h₂ : otherwise ∈ d.built) (h : Expr.mkConditional d.types test thenExpr otherwise = .ok e) :
      d.Makes e
  | sequence {es : List Expr} {e : Expr} (hes : es ⊆ d.built) (h : Expr.mkSequence es = .ok e) :
      d.Makes e
  | index {list e : Expr} {position : Nat} (hl : list ∈ d.built)
      (h : Expr.mkIndex list position = .ok e) : d.Makes e
  | fieldGet {receiver : Option Expr} {f : FieldRef} {e : Expr} (hr : receiver.toList ⊆ d.built)
      (hf : d.types.HasField f) (h : Expr.mkFieldGet d.types receiver f = .ok e) : d.Makes e
  | fieldSet {receiver : Option Expr} {f : FieldRef} {value e : Expr}
      (hr : receiver.toList ⊆ d.built) (hf : d.types.HasField f) (hv : value ∈ d.built)
      (h : Expr.mkFieldSet d.types receiver f value = .ok e) : d.Makes e
  | writePrimitive {receiver : Option Expr} {f : FieldRef} {value e : Expr}
      (hr : receiver.toList ⊆ d.built) (hf : d.types.HasField f) (hv : value ∈ d.built)
      (h : Expr.mkWritePrimitive d.types f receiver value = .ok e) : d.Makes e
  | call {receiver : Option Expr} {r : MethodRef} {args : List Expr} {e : Expr}
      (hr : receiver.toList ⊆ d.built) (hm : d.types.HasMethod r) (ha : args ⊆ d.built)
      (h : Expr.mkCall d.types receiver r args = .ok e) : d.Makes e
  | construct {r : ConstructorRef} {args : List Expr} {e : Expr} (hc : d.types.HasConstructor r)
      (ha : args ⊆ d.built) (h : Expr.mkConstruct d.types r args = .ok e) : d.Makes e
  | navigate {receiver e : Expr} {m : MemberRef} (hr : receiver ∈ d.built)
      (hm : d.types.HasMember m) (h : Expr.mkNavigate d.types receiver m = .ok e) : d.Makes e
  | memberInit {object e : Expr} {bindings : List (AssignTarget × Expr)} (ho : object ∈ d.built)
      (ht : ∀ b ∈ bindings, d.types.HasTarget b.1) (hv : bindings.map (·.2) ⊆ d.built)
      (h : Expr.mkMemberInit d.types object bindings = .ok e) : d.Makes e

/-- One step of building. -/
inductive Step : Draft → Draft → Prop
  /-- A checked constructor succeeds. -/
  | make {d : Draft} {e : Expr} (h : d.Makes e) : Step d (d.add e)
  /-- A local binding is begun. -/
  | draw {d : Draft} {value : Expr} (hv : value ∈ d.built) : Step d (d.draw value)
  /-- A local binding gets its body. -/
  | bind {d : Draft} {id : LocalId} {value body : Expr} (hid : (id, value) ∈ d.drawn)
      (hb : body ∈ d.built) : Step d (d.add (.letIn id value body))
  /-- Parameters are replaced by arguments. -/
  | rebind {d : Draft} {e e' : Expr} {args : List Expr} {next : LocalId} (he : e ∈ d.built)
      (ha : args ⊆ d.built) (h : (e.rebind d.types args).run.run d.next = (.ok e', next)) :
      Step d { d.add e' with next }
  /-- A lambda is applied. -/
  | apply {d : Draft} {parameters : List ParameterDecl} {body e : Expr} {l : Lambda}
      {args : List Expr} {next : LocalId} (hb : body ∈ d.built)
      (hl : Lambda.make parameters body = .ok l) (ha : args ⊆ d.built)
      (h : (l.apply d.types args).run.run d.next = (.ok e, next)) : Step d { d.add e with next }
  /-- Building fails elsewhere, and the numbers that were drawn stay used. -/
  | skip {d : Draft} {next : LocalId} (h : d.next ≤ next) : Step d { d with next }
  /-- More types are defined. -/
  | define {d : Draft} {types : TypeTable} (h : d.types.Extends types) : Step d { d with types }

/-- Any number of steps. -/
abbrev Steps : Draft → Draft → Prop := Relation.ReflTransGen Step

/-- A draft that steps lead to, from one with no expressions. -/
def Reached (d : Draft) : Prop :=
  ∃ types next, Steps ⟨types, next, [], []⟩ d

/-! ## Typing -/

/-- Every expression of the draft is well typed, and every number was drawn for a value of its type. -/
structure WellTyped (d : Draft) (c : Context) : Prop where
  /-- The context knows the numbers that were drawn. -/
  next_eq : c.next = d.next
  /-- Expressions are well typed. -/
  built : ∀ e ∈ d.built, Typed d.types c e
  /-- Numbers have the types of the values that they were drawn for, which are well typed. -/
  drawn : ∀ p ∈ d.drawn, p.1 < c.next ∧ c.type p.1 = p.2.type ∧ Typed d.types c p.2

variable {d d' : Draft} {c : Context}

/-- A checked constructor makes a well-typed expression. -/
theorem Makes.typed {e : Expr} (h : d.Makes e) (hd : ∀ e ∈ d.built, Typed d.types c e) :
    Typed d.types c e := by
  have hoptional : ∀ receiver : Option Expr, receiver.toList ⊆ d.built →
      ∀ e, receiver = some e → Typed d.types c e := by
    rintro receiver hr e rfl
    exact hd e (hr (by simp))
  cases h with
  | literal hv => exact Expr.typed_literal hv
  | typedLiteral h => exact (Expr.typed_typedLiteral h).1
  | zero type => exact Expr.typed_zero type
  | parameter place type => exact Expr.typed_parameter place type
  | convertTo ho h => exact (Expr.typed_convertTo (hd _ ho) h).1
  | binary hl hr h => exact Expr.typed_mkBinary (hd _ hl) (hd _ hr) h
  | negate ho h => exact Expr.typed_mkNegate (hd _ ho) h
  | conditional ht h₁ h₂ h => exact Expr.typed_mkConditional (hd _ ht) (hd _ h₁) (hd _ h₂) h
  | sequence hes h => exact Expr.typed_mkSequence (fun e he => hd e (hes he)) h
  | index hl h => exact Expr.typed_mkIndex (hd _ hl) h
  | fieldGet hr hf h => exact Expr.typed_mkFieldGet (hoptional _ hr) hf h
  | fieldSet hr hf hv h => exact Expr.typed_mkFieldSet (hoptional _ hr) hf (hd _ hv) h
  | writePrimitive hr hf hv h => exact Expr.typed_mkWritePrimitive (hoptional _ hr) hf (hd _ hv) h
  | call hr hm ha h => exact Expr.typed_mkCall (hoptional _ hr) hm (fun e he => hd e (ha he)) h
  | construct hc ha h => exact Expr.typed_mkConstruct hc (fun e he => hd e (ha he)) h
  | navigate hr hm h => exact Expr.typed_mkNavigate (hd _ hr) hm h
  | memberInit ho ht hv h =>
    exact Expr.typed_mkMemberInit (hd _ ho) ht
      (fun b hb => hd _ (hv (List.mem_map.2 ⟨b, hb, rfl⟩))) h

theorem WellTyped.add (hd : d.WellTyped c) {e : Expr} (he : Typed d.types c e) :
    (d.add e).WellTyped c :=
  ⟨hd.next_eq, List.forall_mem_cons.2 ⟨he, hd.built⟩, hd.drawn⟩

/-- A draft stays well typed when numbers are drawn and types are defined. -/
theorem WellTyped.later (hd : d.WellTyped c) {c' : Context} (hc : c.Extends c') {types : TypeTable}
    (ht : d.types.Extends types) : WellTyped { d with types, next := c'.next } c' := by
  refine ⟨rfl, fun e he => (hd.built e he).mono ht hc, fun p hp => ?_⟩
  obtain ⟨hlt, htype, htyped⟩ := hd.drawn p hp
  exact ⟨Nat.lt_of_lt_of_le hlt hc.next_le, (hc.type_eq _ hlt).trans htype, htyped.mono ht hc⟩

/-- A step of building keeps the draft well typed, in a later context. -/
theorem Step.wellTyped (h : Step d d') (hd : d.WellTyped c) : ∃ c', d'.WellTyped c' := by
  cases h with
  | make h => exact ⟨c, hd.add (h.typed hd.built)⟩
  | @draw value hv =>
    have hlater := hd.later (c.extends_bind value.type) (.refl d.types)
    have hread : c.next < (c.bind value.type).next ∧
        (c.bind value.type).type c.next = value.type :=
      ⟨Nat.lt_succ_self _, c.bind_next value.type⟩
    refine ⟨c.bind value.type, ?_, ?_, ?_⟩
    · exact congrArg Nat.succ hd.next_eq
    · refine List.forall_mem_cons.2 ⟨Expr.each_readLocal.2 ?_, hlater.built⟩
      exact hd.next_eq ▸ hread
    · refine List.forall_mem_cons.2 ⟨⟨?_, ?_, hlater.built value hv⟩, hlater.drawn⟩
      · exact hd.next_eq ▸ hread.1
      · exact hd.next_eq ▸ hread.2
  | @bind id value body hid hb =>
    obtain ⟨hlt, htype, htyped⟩ := hd.drawn _ hid
    exact ⟨c, hd.add (Expr.each_letIn.2 ⟨⟨hlt, htype⟩, htyped, hd.built _ hb⟩)⟩
  | rebind he ha h =>
    rw [← hd.next_eq] at h
    obtain ⟨c', hc, rfl, htyped, -⟩ := Expr.yields_substitute (fun e he => hd.built e (ha he))
      (by simp [Expr.Renaming.Typed]) _ (hd.built _ he) _ _ h
    exact ⟨c', (hd.later hc (.refl d.types)).add htyped⟩
  | apply hb hl ha h =>
    rw [← hd.next_eq] at h
    obtain ⟨_, -, hl⟩ := bind_eq_ok.1 hl
    obtain ⟨_, -, hl⟩ := bind_eq_ok.1 hl
    cases hl
    obtain ⟨c', hc, rfl, htyped, -⟩ :=
      Lambda.yields_apply (hd.built _ hb) (fun e he => hd.built e (ha he)) _ _ h
    exact ⟨c', (hd.later hc (.refl d.types)).add htyped⟩
  | @skip next h =>
    have hlater : c.Extends ⟨c.type, next⟩ := ⟨hd.next_eq ▸ h, fun _ _ => rfl⟩
    exact ⟨⟨c.type, next⟩, hd.later hlater (.refl d.types)⟩
  | define h => exact ⟨c, hd.next_eq ▸ hd.later (.refl c) h⟩

theorem Steps.wellTyped (h : Steps d d') (hd : ∃ c, d.WellTyped c) : ∃ c, d'.WellTyped c := by
  induction h with
  | refl => exact hd
  | tail _ hstep ih =>
    obtain ⟨c, hc⟩ := ih
    exact hstep.wellTyped hc

/-- Every expression that was built is well typed. -/
theorem Reached.typed (h : d.Reached) : ∃ c, ∀ e ∈ d.built, Typed d.types c e := by
  obtain ⟨types, next, hsteps⟩ := h
  obtain ⟨c, hc⟩ := hsteps.wellTyped ⟨⟨fun _ => .any, next⟩, rfl, by simp, by simp⟩
  exact ⟨c, hc.built⟩

/-! ## Local bindings -/

/-- Numbers that were drawn stay drawn. -/
theorem Steps.drawn_subset (h : Steps d d') : d.drawn ⊆ d'.drawn := by
  induction h with
  | refl => exact List.Subset.refl _
  | tail _ hstep ih =>
    refine List.Subset.trans ih ?_
    cases hstep with
    | draw => exact List.subset_cons_self ..
    | _ => exact List.Subset.refl _

/-- A local binding draws its number before its body is built. -/
theorem run_bindIn {n n' : LocalId} {value e : Expr} {body : Expr → Build Expr}
    (hbody : (body (.readLocal n value.type)).run.run (n + 1) = (.ok e, n')) :
    (Expr.bindIn value body).run.run n = (.ok (.letIn n value e), n') := by
  rw [Expr.bindIn, run_bind_eq_ok]
  refine ⟨n, n + 1, rfl, ?_⟩
  rw [run_bind_eq_ok]
  exact ⟨e, n', hbody, rfl⟩

/-- A local binding whose body is built by steps is built by steps: the number is drawn before the
body is built, and bound after. -/
theorem steps_bindIn {value e : Expr} {body : Expr → Build Expr} (hv : value ∈ d.built)
    (hsteps : Steps (d.draw value) d') (he : e ∈ d'.built)
    (hbody : (body (.readLocal d.next value.type)).run.run (d.next + 1) = (.ok e, d'.next)) :
    (Expr.bindIn value body).run.run d.next = (.ok (.letIn d.next value e), d'.next) ∧
      Steps d (d'.add (.letIn d.next value e)) := by
  have hdrawn : (d.next, value) ∈ d'.drawn := hsteps.drawn_subset (List.mem_cons_self ..)
  exact ⟨run_bindIn hbody, (hsteps.head (.draw hv)).tail (.bind hdrawn he)⟩

end Draft
end Reshape
