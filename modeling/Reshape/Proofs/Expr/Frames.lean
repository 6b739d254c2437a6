import Reshape.Proofs.Expr.Arithmetic
import Reshape.Proofs.Expr.Slots
import Reshape.Proofs.Store.Action

/-!
# One expression in two frames

A frame holds the local bindings of a whole lambda, and where a binding has its slot depends on what else
the lambda contains.  None of that matters to an expression that reads its locals inside their bindings:
from frames that agree on the locals in scope, evaluation has the same outcome and leaves the same store,
whatever the layouts are and whatever else the frames hold (`Expr.parallel_evaluate`).  So each expression
gives what it gives alone (`Machine.alone`), with a frame of its own.
-/

namespace Reshape

/-! ## Frames that agree -/

/-- Two frames have all their slots, and hold the same in the slots of the numbers. -/
structure Matched (layout layout' ids : List LocalId) (frame frame' : List Value) : Prop where
  /-- The first frame has all slots. -/
  left : frame.length = layout.length
  /-- The second frame has all slots. -/
  right : frame'.length = layout'.length
  /-- The numbers have the same values. -/
  value : ∀ id ∈ ids, frame[layout.idxOf id]? = frame'[layout'.idxOf id]?

namespace Matched

variable {layout layout' ids : List LocalId} {frame frame' : List Value}

theorem nil (h : frame.length = layout.length) (h' : frame'.length = layout'.length) :
    Matched layout layout' [] frame frame' :=
  ⟨h, h', fun _ hid => by cases hid⟩

theorem tail {id : LocalId} (h : Matched layout layout' (id :: ids) frame frame') :
    Matched layout layout' ids frame frame' :=
  ⟨h.left, h.right, fun other hother => h.value other (List.mem_cons_of_mem _ hother)⟩

/-- Binding a number to the same value in both frames puts it in scope. -/
theorem set (h : Matched layout layout' ids frame frame') {id : LocalId} (hid : id ∈ layout)
    (hid' : id ∈ layout') (v : Value) : Matched layout layout' (id :: ids)
      (frame.set (layout.idxOf id) v) (frame'.set (layout'.idxOf id) v) := by
  refine ⟨by simpa using h.left, by simpa using h.right, fun other hother => ?_⟩
  rw [Expr.getElem?_set_idxOf h.left hid, Expr.getElem?_set_idxOf h.right hid']
  by_cases heq : other = id
  · rw [if_pos heq, if_pos heq]
  · rw [if_neg heq, if_neg heq]
    exact h.value other (List.mem_of_ne_of_mem heq hother)

end Matched

/-! ## Evaluations that agree -/

section Parallel

variable {α β : Type} {layout layout' ids : List LocalId}

/-- From frames that agree on the numbers, both evaluations have the same outcome and leave the same
store, and the frames agree afterwards. -/
def Parallel (layout layout' ids : List LocalId) (x y : Evaluation α) : Prop :=
  ∀ frame frame' s, Matched layout layout' ids frame frame' →
    (∃ e s', (x.run frame).perform s = (.error e, s') ∧ (y.run frame').perform s = (.error e, s')) ∨
    ∃ v frame₁ frame₁' s', (x.run frame).perform s = (.ok (v, frame₁), s') ∧
      (y.run frame').perform s = (.ok (v, frame₁'), s') ∧ Matched layout layout' ids frame₁ frame₁'

namespace Parallel

theorem pure (v : α) : Parallel layout layout' ids (pure v) (pure v) :=
  fun frame frame' s h => .inr ⟨v, frame, frame', s, rfl, rfl, h⟩

theorem throw (e : Error) : Parallel layout layout' ids (MonadExcept.throw e : Evaluation α)
    (MonadExcept.throw e) :=
  fun _ _ s _ => .inl ⟨e, s, rfl, rfl⟩

theorem bind {x y : Evaluation α} {f g : α → Evaluation β} (hx : Parallel layout layout' ids x y)
    (hf : ∀ v, Parallel layout layout' ids (f v) (g v)) :
    Parallel layout layout' ids (x >>= f) (y >>= g) := by
  intro frame frame' s h
  rw [StateT.run_bind, StateT.run_bind]
  rcases hx frame frame' s h with ⟨e, s', hfail, hfail'⟩ | ⟨v, frame₁, frame₁', s', hok, hok', h₁⟩
  · exact .inl ⟨e, s', Action.perform_bind_error hfail, Action.perform_bind_error hfail'⟩
  · rw [Action.perform_bind_ok hok, Action.perform_bind_ok hok']
    exact hf v frame₁ frame₁' s' h₁

/-- An action does not look at the frame. -/
theorem lift (a : Action α) : Parallel layout layout' ids (liftM a) (liftM a) := by
  intro frame frame' s h
  have hrun : ∀ frame : List Value, ((liftM a : Evaluation α).run frame).perform s =
      Action.perform (a >>= fun v => Pure.pure (v, frame)) s := fun _ => rfl
  rw [hrun, hrun]
  cases ha : a.perform s with
  | mk result s' =>
    cases result with
    | error e => exact .inl ⟨e, s', Action.perform_bind_error ha, Action.perform_bind_error ha⟩
    | ok v =>
      rw [Action.perform_bind_ok ha, Action.perform_bind_ok ha]
      exact .inr ⟨v, frame, frame', s', rfl, rfl, h⟩

theorem discard {x y : Evaluation α} (h : Parallel layout layout' ids x y) :
    Parallel layout layout' ids (Functor.discard x) (Functor.discard y) := by
  rw [discard_eq_bind, discard_eq_bind]
  exact h.bind fun _ => .pure _

/-- A number in scope has the same value in both frames. -/
theorem read {id : LocalId} (hid : id ∈ ids) : Parallel layout layout' ids
    (do Pure.pure ((← get)[layout.idxOf id]?.getD .null))
    (do Pure.pure ((← get)[layout'.idxOf id]?.getD .null)) := by
  intro frame frame' s h
  refine .inr ⟨frame[layout.idxOf id]?.getD .null, frame, frame', s, rfl, ?_, h⟩
  rw [h.value id hid]
  rfl

/-- A number is bound in both frames. -/
theorem bindLocal {id : LocalId} (hid : id ∈ layout) (hid' : id ∈ layout') (v : Value)
    {x y : Evaluation α} (h : Parallel layout layout' (id :: ids) x y) : Parallel layout layout' ids
      (do modify (·.set (layout.idxOf id) v); x) (do modify (·.set (layout'.idxOf id) v); y) := by
  intro frame frame' s hframe
  have hrun : ∀ (place : Nat) (z : Evaluation α) (frame : List Value),
      (do modify (·.set place v); z : Evaluation α).run frame = z.run (frame.set place v) := by
    intro place z frame
    rw [StateT.run_bind, StateT.run_modify, pure_bind]
  rw [hrun, hrun]
  rcases h _ _ s (hframe.set hid hid' v) with hfail | ⟨w, frame₁, frame₁', s', hok, hok', h₁⟩
  · exact .inl hfail
  · exact .inr ⟨w, frame₁, frame₁', s', hok, hok', h₁.tail⟩

end Parallel

theorem parallel_truth (v : Value) : Parallel layout layout' ids (truth v) (truth v) := by
  cases v with
  | bool b => exact .pure b
  | _ => exact .throw _

theorem parallel_receiverOf (v : Value) (member : String) :
    Parallel layout layout' ids (receiverOf v member) (receiverOf v member) := by
  cases v with
  | object ref => exact .pure ref
  | _ => exact .throw _

theorem parallel_operate (op : Operator) (l r : Value) :
    Parallel layout layout' ids (operate op l r) (operate op l r) := by
  refine (Parallel.lift (get : Action Store)).bind fun s => ?_
  cases op.apply s l r with
  | ok v => exact .pure v
  | error e => exact .throw e

end Parallel

/-! ## Expressions -/

namespace Expr

/-- A number that the node binds has a slot in both layouts. -/
def HasSlots (layout layout' : List LocalId) (e : Expr) : Prop :=
  e.HasSlot layout ∧ e.HasSlot layout'

section

variable (m : Machine) (args : List Value) {layout layout' : List LocalId}

/-- A logical operator decides by its left operand whether the right one is evaluated. -/
theorem parallel_logical {ids : List LocalId} {op : Operator} (hop : op.isLogical = true) {lhs rhs : Expr}
    (hl : Parallel layout layout' ids (m.evaluate ⟨args, layout⟩ lhs) (m.evaluate ⟨args, layout'⟩ lhs))
    (hr : Parallel layout layout' ids (m.evaluate ⟨args, layout⟩ rhs) (m.evaluate ⟨args, layout'⟩ rhs)) :
    Parallel layout layout' ids (m.evaluate ⟨args, layout⟩ (.binary op lhs rhs))
      (m.evaluate ⟨args, layout'⟩ (.binary op lhs rhs)) := by
  cases op <;> cases hop <;> rw [Machine.evaluate, Machine.evaluate]
  · refine hl.bind fun v => (parallel_truth v).bind fun b => ?_
    cases b
    · exact .pure _
    · exact hr
  · refine hl.bind fun v => (parallel_truth v).bind fun b => ?_
    cases b
    · exact hr
    · exact .pure _

mutual

/-- **What an expression gives does not depend on the frame**, as long as it reads its locals inside their
bindings. -/
theorem parallel_evaluate {ids : List LocalId} : (e : Expr) → e.Each (HasSlots layout layout') →
    e.checkScopes ids = .ok () →
      Parallel layout layout' ids (m.evaluate ⟨args, layout⟩ e) (m.evaluate ⟨args, layout'⟩ e)
  | .binary op lhs rhs, he, hc => by
    obtain ⟨-, hlhs, hrhs⟩ := each_binary.1 he
    rw [checkScopes] at hc
    obtain ⟨_, hcl, hcr⟩ := bind_eq_ok.1 hc
    have hl := parallel_evaluate lhs hlhs hcl
    have hr := parallel_evaluate rhs hrhs hcr
    cases hop : op.isLogical with
    | true => exact parallel_logical m args hop hl hr
    | false =>
      rw [Machine.evaluate_strict _ _ hop, Machine.evaluate_strict _ _ hop]
      exact hl.bind fun l => hr.bind fun r => parallel_operate op l r
  | .call method receiver es, he, hc => by
    obtain ⟨-, hrec, hes⟩ := each_call.1 he
    rw [checkScopes] at hc
    obtain ⟨_, hcr, hces⟩ := bind_eq_ok.1 hc
    rw [Machine.evaluate, Machine.evaluate]
    refine (parallel_evaluateReceiver method.method.name receiver hrec hcr).bind fun ref => ?_
    refine (parallel_evaluateAll es hes hces).bind fun vs => ?_
    exact (Parallel.lift (m.invoke method ref vs)).bind fun v => .lift _
  | .conditional test thenExpr otherwise, he, hc => by
    obtain ⟨-, htest, hthen, hotherwise⟩ := each_conditional.1 he
    rw [checkScopes] at hc
    obtain ⟨_, hct, hc⟩ := bind_eq_ok.1 hc
    obtain ⟨_, hc₁, hc₂⟩ := bind_eq_ok.1 hc
    rw [Machine.evaluate, Machine.evaluate]
    refine (parallel_evaluate test htest hct).bind fun v => (parallel_truth v).bind fun b => ?_
    cases b
    · exact parallel_evaluate otherwise hotherwise hc₂
    · exact parallel_evaluate thenExpr hthen hc₁
  | .constant v type, he, hc => by
    rw [Machine.evaluate, Machine.evaluate]
    exact .pure v
  | .convert rule operand type, he, hc => by
    obtain ⟨-, hoperand⟩ := each_convert.1 he
    rw [checkScopes] at hc
    rw [Machine.evaluate, Machine.evaluate]
    exact (parallel_evaluate operand hoperand hc).bind fun v => .lift _
  | .zero type, he, hc => by
    rw [Machine.evaluate, Machine.evaluate]
    exact .pure _
  | .fieldGet f receiver, he, hc => by
    obtain ⟨-, hrec⟩ := each_fieldGet.1 he
    rw [checkScopes] at hc
    rw [Machine.evaluate, Machine.evaluate]
    exact (parallel_evaluateReceiver f.field.name receiver hrec hc).bind fun ref => .lift _
  | .fieldSet f receiver value, he, hc => by
    obtain ⟨-, hrec, hvalue⟩ := each_fieldSet.1 he
    rw [checkScopes] at hc
    obtain ⟨_, hcr, hcv⟩ := bind_eq_ok.1 hc
    rw [Machine.evaluate, Machine.evaluate]
    refine (parallel_evaluateReceiver f.field.name receiver hrec hcr).bind fun ref => ?_
    refine (parallel_evaluate value hvalue hcv).bind fun v => ?_
    exact (Parallel.lift (m.storeField f ref v)).bind fun _ => .pure _
  | .index list position, he, hc => by
    obtain ⟨-, hlist⟩ := each_index.1 he
    rw [checkScopes] at hc
    rw [Machine.evaluate, Machine.evaluate]
    refine (parallel_evaluate list hlist hc).bind fun v => ?_
    cases v with
    | list items =>
      cases hitem : items[position]? with
      | some item =>
        simp only [hitem]
        exact .pure item
      | none =>
        simp only [hitem]
        exact .throw _
    | _ => exact .throw _
  | .letIn id value body, he, hc => by
    obtain ⟨hnode, hvalue, hbody⟩ := each_letIn.1 he
    rw [checkScopes] at hc
    obtain ⟨_, hcv, hcb⟩ := bind_eq_ok.1 hc
    rw [Machine.evaluate, Machine.evaluate]
    refine (parallel_evaluate value hvalue hcv).bind fun v => ?_
    exact .bindLocal hnode.1 hnode.2 v (parallel_evaluate body hbody hcb)
  | .readLocal id type, he, hc => by
    rw [checkScopes] at hc
    have hid : id ∈ ids := by
      by_contra hid
      simp [hid] at hc
    rw [Machine.evaluate, Machine.evaluate]
    exact .read hid
  | .memberInit object bindings, he, hc => by
    obtain ⟨-, hobject, hbindings⟩ := each_memberInit.1 he
    rw [checkScopes] at hc
    obtain ⟨_, hco, hcb⟩ := bind_eq_ok.1 hc
    rw [Machine.evaluate, Machine.evaluate]
    refine (parallel_evaluate object hobject hco).bind fun v => ?_
    cases v with
    | object ref =>
      exact (parallel_initialise ref bindings hbindings hcb).bind fun _ => .pure _
    | _ => exact .throw _
  | .navigate receiver member, he, hc => by
    obtain ⟨-, hrec⟩ := each_navigate.1 he
    rw [checkScopes] at hc
    rw [Machine.evaluate, Machine.evaluate]
    refine (parallel_evaluate receiver hrec hc).bind fun v => ?_
    cases v with
    | null => exact .pure _
    | object ref => exact .lift _
    | _ => exact .throw _
  | .construct ctor es, he, hc => by
    obtain ⟨-, hes⟩ := each_construct.1 he
    rw [checkScopes] at hc
    rw [Machine.evaluate, Machine.evaluate]
    refine (parallel_evaluateAll es hes hc).bind fun vs => ?_
    exact (Parallel.lift (m.construct ctor vs)).bind fun ref => .pure _
  | .negate operand, he, hc => by
    obtain ⟨-, hoperand⟩ := each_negate.1 he
    rw [checkScopes] at hc
    rw [Machine.evaluate, Machine.evaluate]
    refine (parallel_evaluate operand hoperand hc).bind fun v => ?_
    exact (parallel_truth v).bind fun b => .pure _
  | .parameter place type, he, hc => by
    rw [Machine.evaluate, Machine.evaluate]
    cases hv : args[place]? with
    | some v => exact .pure v
    | none => exact .throw _
  | .sequence front last, he, hc => by
    obtain ⟨-, hfront, hlast⟩ := each_sequence.1 he
    rw [checkScopes] at hc
    obtain ⟨_, hcf, hcl⟩ := bind_eq_ok.1 hc
    rw [Machine.evaluate, Machine.evaluate]
    exact (parallel_evaluateAll front hfront hcf).discard.bind fun _ =>
      parallel_evaluate last hlast hcl
  | .writePrimitive f receiver value, he, hc => by
    obtain ⟨-, hrec, hvalue⟩ := each_writePrimitive.1 he
    rw [checkScopes] at hc
    obtain ⟨_, hcr, hcv⟩ := bind_eq_ok.1 hc
    rw [Machine.evaluate, Machine.evaluate]
    refine (parallel_evaluateReceiver f.field.name receiver hrec hcr).bind fun ref => ?_
    refine (parallel_evaluate value hvalue hcv).bind fun v => ?_
    exact (Parallel.lift (m.storeField f ref v)).bind fun _ => .pure _

theorem parallel_evaluateAll {ids : List LocalId} : (es : List Expr) →
    (∀ e ∈ es, e.Each (HasSlots layout layout')) → checkAllScopes ids es = .ok () →
      Parallel layout layout' ids (m.evaluateAll ⟨args, layout⟩ es) (m.evaluateAll ⟨args, layout'⟩ es)
  | [], _, _ => by
    rw [Machine.evaluateAll, Machine.evaluateAll]
    exact .pure _
  | e :: es, hes, hc => by
    rw [checkAllScopes] at hc
    obtain ⟨_, hce, hces⟩ := bind_eq_ok.1 hc
    rw [Machine.evaluateAll, Machine.evaluateAll]
    refine (parallel_evaluate e (hes e (List.mem_cons_self ..)) hce).bind fun v => ?_
    exact (parallel_evaluateAll es (fun e he => hes e (List.mem_cons_of_mem _ he)) hces).bind
      fun vs => .pure _

theorem parallel_evaluateReceiver {ids : List LocalId} (member : String) :
    (receiver : Option Expr) → (∀ e, receiver = some e → e.Each (HasSlots layout layout')) →
    checkReceiverScopes ids receiver = .ok () →
      Parallel layout layout' ids (m.evaluateReceiver ⟨args, layout⟩ member receiver)
        (m.evaluateReceiver ⟨args, layout'⟩ member receiver)
  | none, _, _ => by
    rw [Machine.evaluateReceiver, Machine.evaluateReceiver]
    exact .pure _
  | some e, he, hc => by
    rw [checkReceiverScopes] at hc
    rw [Machine.evaluateReceiver, Machine.evaluateReceiver]
    refine (parallel_evaluate e (he e rfl) hc).bind fun v => ?_
    exact (parallel_receiverOf v member).bind fun ref => .pure _

theorem parallel_initialise {ids : List LocalId} (ref : ObjectRef) :
    (bindings : List (AssignTarget × Expr)) → (∀ b ∈ bindings, b.2.Each (HasSlots layout layout')) →
    checkBindingScopes ids bindings = .ok () →
      Parallel layout layout' ids (m.initialise ⟨args, layout⟩ ref bindings)
        (m.initialise ⟨args, layout'⟩ ref bindings)
  | [], _, _ => by
    rw [Machine.initialise, Machine.initialise]
    exact .pure _
  | (target, e) :: bindings, hb, hc => by
    rw [checkBindingScopes] at hc
    obtain ⟨_, hce, hcb⟩ := bind_eq_ok.1 hc
    rw [Machine.initialise, Machine.initialise]
    refine (parallel_evaluate e (hb _ (List.mem_cons_self ..)) hce).bind fun v => ?_
    refine (Parallel.lift (m.assign ref target v)).bind fun _ => ?_
    exact parallel_initialise ref bindings (fun b hb' => hb b (List.mem_cons_of_mem _ hb')) hcb

end
end
end Expr

/-! ## Alone -/

namespace Machine

variable {m : Machine} {s s' : Store} {layout : List LocalId} {e : Expr}

/-- Evaluate an expression over the arguments alone, with a frame of its own. -/
def alone (m : Machine) (args : List Value) (e : Expr) : Action Value :=
  (m.evaluate ⟨args, e.slots []⟩ e).run' (List.replicate (e.slots []).length .null)

/-- In any frame that has its slots, an expression gives what it gives alone. -/
theorem perform_alone (args : List Value) (hslot : e.Each (Expr.HasSlot layout))
    (hscopes : e.checkScopes [] = .ok ()) {frame : List Value} (hframe : frame.length = layout.length)
    (s : Store) :
    (∃ err s', ((m.evaluate ⟨args, layout⟩ e).run frame).perform s = (.error err, s') ∧
      (m.alone args e).perform s = (.error err, s')) ∨
    ∃ v frame' s', frame'.length = layout.length ∧
      ((m.evaluate ⟨args, layout⟩ e).run frame).perform s = (.ok (v, frame'), s') ∧
      (m.alone args e).perform s = (.ok v, s') := by
  have hown : e.Each (Expr.HasSlot (e.slots [])) := Expr.each_hasSlot_compile ⟨[], e⟩
  have hslots : e.Each (Expr.HasSlots layout (e.slots [])) := fun n hn => ⟨hslot n hn, hown n hn⟩
  have halone : m.alone args e = Prod.fst <$> (m.evaluate ⟨args, e.slots []⟩ e).run
      (List.replicate (e.slots []).length .null) := rfl
  rw [halone, Action.perform_map]
  rcases Expr.parallel_evaluate m args e hslots hscopes frame _ s
    (.nil hframe List.length_replicate) with
    ⟨err, s', hfail, hfail'⟩ | ⟨v, frame₁, frame₁', s', hok, hok', h⟩
  · rw [hfail']
    exact .inl ⟨err, s', hfail, rfl⟩
  · rw [hok']
    exact .inr ⟨v, frame₁, s', h.left, hok, rfl⟩

end Machine
end Reshape
