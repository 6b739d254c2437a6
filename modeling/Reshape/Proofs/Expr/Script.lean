import Reshape.Proofs.Expr.Arithmetic
import Reshape.Proofs.Expr.Typing
import Reshape.Proofs.Store.Script

/-!
# Lambdas are scripts

Evaluating any expression reaches objects only through the operations on them, well typed or not
(`Expr.scripted_evaluate`), and so does running a compiled lambda (`Machine.scripted_run`).  All that is
asked of the expression is that the objects it constructs are of declared types.
-/

namespace Reshape

/-! ## Evaluations -/

namespace Evaluation

variable {α β : Type} {m : Machine}

/-- Evaluation is a script in every frame. -/
def Scripted (m : Machine) (x : Evaluation α) : Prop :=
  ∀ frame, Action.Scripted m (x.run frame)

theorem Scripted.pure (v : α) : Scripted m (pure v) :=
  fun frame => .pure (v, frame)

theorem Scripted.throw (e : Error) : Scripted m (MonadExcept.throw e : Evaluation α) :=
  fun _ => .throw e

theorem Scripted.bind {x : Evaluation α} {f : α → Evaluation β} (hx : Scripted m x)
    (hf : ∀ v, Scripted m (f v)) : Scripted m (x >>= f) := by
  intro frame
  rw [StateT.run_bind]
  exact (hx frame).bind fun p => hf p.1 p.2

theorem Scripted.lift {a : Action α} (ha : Action.Scripted m a) : Scripted m (liftM a) :=
  fun frame => ha.bind fun v => .pure (v, frame)

theorem Scripted.discard {x : Evaluation α} (hx : Scripted m x) :
    Scripted m (Functor.discard x) := by
  rw [discard_eq_bind]
  exact hx.bind fun _ => .pure PUnit.unit

theorem scripted_frame : Scripted m (get : Evaluation (List Value)) :=
  fun frame => .pure (frame, frame)

theorem scripted_modify (f : List Value → List Value) : Scripted m (modify f : Evaluation PUnit) :=
  fun frame => .pure (PUnit.unit, f frame)

theorem scripted_truth (v : Value) : Scripted m (truth v) := by
  cases v with
  | bool b => exact .pure b
  | _ => exact .throw _

theorem scripted_receiverOf (v : Value) (member : String) : Scripted m (receiverOf v member) := by
  cases v with
  | object ref => exact .pure ref
  | _ => exact .throw _

theorem scripted_operate (op : Operator) (l r : Value) : Scripted m (operate op l r) := by
  refine (Scripted.lift .get).bind fun s => ?_
  cases op.apply s l r with
  | ok v => exact .pure v
  | error e => exact .throw e

end Evaluation

namespace Machine

variable {m : Machine}

/-- An initialiser writes a field, or runs a setter. -/
theorem scripted_assign (hm : m.Scripted) (ref : ObjectRef) (target : AssignTarget) (v : Value) :
    Action.Scripted m (m.assign ref target v) := by
  cases target with
  | field f => exact scripted_storeField f (some ref) v
  | primitive f => exact scripted_storeField f (some ref) v
  | setter g => exact (scripted_invoke hm g (some ref) [v]).discard

end Machine

/-! ## Expressions -/

namespace Expr

/-- If the node constructs an object, the object is of a declared type. -/
def ConstructsDeclared (t : TypeTable) (e : Expr) : Prop :=
  ∀ c es, e = .construct c es → c.owner < t.size

section

open Evaluation

variable {m : Machine} (scope : Scope)

/-- A logical operator decides by its left operand whether the right one is evaluated. -/
theorem scripted_logical {op : Operator} (hop : op.isLogical = true) {lhs rhs : Expr}
    (hl : Evaluation.Scripted m (m.evaluate scope lhs))
    (hr : Evaluation.Scripted m (m.evaluate scope rhs)) :
    Evaluation.Scripted m (m.evaluate scope (.binary op lhs rhs)) := by
  cases op <;> cases hop <;> rw [Machine.evaluate]
  · refine hl.bind fun v => (scripted_truth v).bind fun b => ?_
    cases b
    · exact .pure _
    · exact hr
  · refine hl.bind fun v => (scripted_truth v).bind fun b => ?_
    cases b
    · exact hr
    · exact .pure _

mutual

/-- Evaluating an expression is a script. -/
theorem scripted_evaluate (hm : m.Scripted) : (e : Expr) → e.Each (ConstructsDeclared m.types) →
    Evaluation.Scripted m (m.evaluate scope e)
  | .binary op lhs rhs, he => by
    obtain ⟨-, hlhs, hrhs⟩ := each_binary.1 he
    have hl := scripted_evaluate hm lhs hlhs
    have hr := scripted_evaluate hm rhs hrhs
    cases hop : op.isLogical with
    | true => exact scripted_logical scope hop hl hr
    | false =>
      rw [Machine.evaluate_strict _ _ hop]
      exact hl.bind fun l => hr.bind fun r => scripted_operate op l r
  | .call method receiver es, he => by
    obtain ⟨-, hrec, hes⟩ := each_call.1 he
    rw [Machine.evaluate]
    refine (scripted_evaluateReceiver hm method.method.name receiver hrec).bind fun ref => ?_
    refine (scripted_evaluateAll hm es hes).bind fun vs => ?_
    exact (Scripted.lift (Machine.scripted_invoke hm method ref vs)).bind fun v =>
      .lift (.ofCast _)
  | .conditional test thenExpr otherwise, he => by
    obtain ⟨-, htest, hthen, hotherwise⟩ := each_conditional.1 he
    rw [Machine.evaluate]
    refine (scripted_evaluate hm test htest).bind fun v => (scripted_truth v).bind fun b => ?_
    cases b
    · exact scripted_evaluate hm otherwise hotherwise
    · exact scripted_evaluate hm thenExpr hthen
  | .constant v type, he => by
    rw [Machine.evaluate]
    exact .pure v
  | .convert rule operand type, he => by
    obtain ⟨-, hoperand⟩ := each_convert.1 he
    rw [Machine.evaluate]
    exact (scripted_evaluate hm operand hoperand).bind fun v => .lift (.ofCast _)
  | .zero type, he => by
    rw [Machine.evaluate]
    exact .pure _
  | .fieldGet f receiver, he => by
    obtain ⟨-, hrec⟩ := each_fieldGet.1 he
    rw [Machine.evaluate]
    exact (scripted_evaluateReceiver hm f.field.name receiver hrec).bind fun ref =>
      .lift (Machine.scripted_loadField f ref)
  | .fieldSet f receiver value, he => by
    obtain ⟨-, hrec, hvalue⟩ := each_fieldSet.1 he
    rw [Machine.evaluate]
    refine (scripted_evaluateReceiver hm f.field.name receiver hrec).bind fun ref => ?_
    refine (scripted_evaluate hm value hvalue).bind fun v => ?_
    exact (Scripted.lift (Machine.scripted_storeField f ref v)).bind fun _ => .pure _
  | .index list position, he => by
    obtain ⟨-, hlist⟩ := each_index.1 he
    rw [Machine.evaluate]
    refine (scripted_evaluate hm list hlist).bind fun v => ?_
    cases v with
    | list items =>
      cases hitem : items[position]? with
      | some item =>
        simp only [hitem]
        exact .pure item
      | none =>
        simp only [hitem]
        exact .throw _
    | _ => exact .throw _
  | .letIn id value body, he => by
    obtain ⟨-, hvalue, hbody⟩ := each_letIn.1 he
    rw [Machine.evaluate]
    refine (scripted_evaluate hm value hvalue).bind fun v => ?_
    exact (scripted_modify _).bind fun _ => scripted_evaluate hm body hbody
  | .readLocal id type, he => by
    rw [Machine.evaluate]
    exact scripted_frame.bind fun frame => .pure _
  | .memberInit object bindings, he => by
    obtain ⟨-, hobject, hbindings⟩ := each_memberInit.1 he
    rw [Machine.evaluate]
    refine (scripted_evaluate hm object hobject).bind fun v => ?_
    cases v with
    | object ref => exact (scripted_initialise hm ref bindings hbindings).bind fun _ => .pure _
    | _ => exact .throw _
  | .navigate receiver member, he => by
    obtain ⟨-, hrec⟩ := each_navigate.1 he
    rw [Machine.evaluate]
    refine (scripted_evaluate hm receiver hrec).bind fun v => ?_
    cases v with
    | null => exact .pure _
    | object ref => exact .lift (Machine.scripted_load hm member (some ref))
    | _ => exact .throw _
  | .construct ctor es, he => by
    obtain ⟨hnode, hes⟩ := each_construct.1 he
    rw [Machine.evaluate]
    refine (scripted_evaluateAll hm es hes).bind fun vs => ?_
    have hconstruct := Machine.scripted_construct hm (hnode ctor es rfl) vs
    exact (Scripted.lift hconstruct).bind fun ref => .pure _
  | .negate operand, he => by
    obtain ⟨-, hoperand⟩ := each_negate.1 he
    rw [Machine.evaluate]
    refine (scripted_evaluate hm operand hoperand).bind fun v => ?_
    exact (scripted_truth v).bind fun b => .pure _
  | .parameter place type, he => by
    rw [Machine.evaluate]
    cases hv : scope.args[place]? with
    | some v => exact .pure v
    | none => exact .throw _
  | .sequence front last, he => by
    obtain ⟨-, hfront, hlast⟩ := each_sequence.1 he
    rw [Machine.evaluate]
    exact (scripted_evaluateAll hm front hfront).discard.bind fun _ =>
      scripted_evaluate hm last hlast
  | .writePrimitive f receiver value, he => by
    obtain ⟨-, hrec, hvalue⟩ := each_writePrimitive.1 he
    rw [Machine.evaluate]
    refine (scripted_evaluateReceiver hm f.field.name receiver hrec).bind fun ref => ?_
    refine (scripted_evaluate hm value hvalue).bind fun v => ?_
    exact (Scripted.lift (Machine.scripted_storeField f ref v)).bind fun _ => .pure _

theorem scripted_evaluateAll (hm : m.Scripted) : (es : List Expr) →
    (∀ e ∈ es, e.Each (ConstructsDeclared m.types)) →
      Evaluation.Scripted m (m.evaluateAll scope es)
  | [], _ => by
    rw [Machine.evaluateAll]
    exact .pure _
  | e :: es, hes => by
    rw [Machine.evaluateAll]
    refine (scripted_evaluate hm e (hes e (List.mem_cons_self ..))).bind fun v => ?_
    exact (scripted_evaluateAll hm es fun e he => hes e (List.mem_cons_of_mem _ he)).bind
      fun vs => .pure _

theorem scripted_evaluateReceiver (hm : m.Scripted) (member : String) : (receiver : Option Expr) →
    (∀ e, receiver = some e → e.Each (ConstructsDeclared m.types)) →
      Evaluation.Scripted m (m.evaluateReceiver scope member receiver)
  | none, _ => by
    rw [Machine.evaluateReceiver]
    exact .pure _
  | some e, he => by
    rw [Machine.evaluateReceiver]
    refine (scripted_evaluate hm e (he e rfl)).bind fun v => ?_
    exact (scripted_receiverOf v member).bind fun ref => .pure _

theorem scripted_initialise (hm : m.Scripted) (ref : ObjectRef) :
    (bindings : List (AssignTarget × Expr)) →
    (∀ b ∈ bindings, b.2.Each (ConstructsDeclared m.types)) →
      Evaluation.Scripted m (m.initialise scope ref bindings)
  | [], _ => by
    rw [Machine.initialise]
    exact .pure _
  | (target, e) :: bindings, hb => by
    rw [Machine.initialise]
    refine (scripted_evaluate hm e (hb _ (List.mem_cons_self ..))).bind fun v => ?_
    refine (Scripted.lift (Machine.scripted_assign hm ref target v)).bind fun _ => ?_
    exact scripted_initialise hm ref bindings fun b hb' => hb b (List.mem_cons_of_mem _ hb')

end
end
end Expr

/-- Running a compiled lambda is a script, whatever it is given. -/
theorem Machine.scripted_run {m : Machine} (hm : m.Scripted) {l : CompiledLambda}
    (hl : l.body.Each (Expr.ConstructsDeclared m.types)) (args : List Value) :
    Action.Scripted m (m.run l args) := by
  rw [run]
  split
  · exact .throw _
  · cases m.checkArguments 0 l.parameters args with
    | error e => exact .throw e
    | ok u => exact (Expr.scripted_evaluate ⟨args, l.layout⟩ hm l.body hl _).map _

end Reshape
