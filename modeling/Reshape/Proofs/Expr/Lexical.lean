import Reshape.Proofs.Expr.Arithmetic
import Reshape.Proofs.Expr.Slots
import Reshape.Proofs.Store.Action

/-!
# Lexical scoping

The evaluator keeps local bindings in a frame, in one slot for each number, and a slot is written over
and never restored.  Here is the evaluator that it stands for: the locals in scope are handed down and
never change (`Machine.evaluateIn`), so a local has the value that its nearest binding gave it.  Both
agree on every expression in which no number is bound again inside its own body
(`Expr.follows_evaluate`): then a slot is written over only when nothing in scope reads it.
-/

namespace Reshape

/-- The locals in scope with their values, innermost first. -/
abbrev Locals := List (LocalId × Value)

namespace Action

/-- Actions with the same outcome from every store are the same. -/
theorem ext {α : Type} {a b : Action α} (h : ∀ s, a.perform s = b.perform s) : a = b :=
  funext h

/-- A value as a truth value. -/
def truth (v : Value) : Action Bool :=
  match v with
  | .bool b => pure b
  | v => throw (.expectedBool v.label)

/-- The receiver of a member, which has to be an object. -/
def receiver (v : Value) (member : String) : Action ObjectRef :=
  match v with
  | .object ref => pure ref
  | .null => throw (.nullReceiver member)
  | v => throw (.badReceiver member v.label)

/-- The outcome of an operator in the present store. -/
def operate (op : Operator) (l r : Value) : Action Value := do
  match op.apply (← get) l r with
  | .ok v => pure v
  | .error e => throw e

end Action

namespace Machine

variable (m : Machine)

mutual

/-- Evaluate an expression with the given locals in scope. -/
def evaluateIn (args : List Value) (locals : Locals) : Expr → Action Value
  | .binary .and lhs rhs => do
    if ← Action.truth (← evaluateIn args locals lhs) then evaluateIn args locals rhs
    else pure (.bool false)
  | .binary .or lhs rhs => do
    if ← Action.truth (← evaluateIn args locals lhs) then pure (.bool true)
    else evaluateIn args locals rhs
  | .binary op lhs rhs => do
    let l ← evaluateIn args locals lhs
    let r ← evaluateIn args locals rhs
    Action.operate op l r
  | .call method receiver es => do
    let ref ← evaluateReceiverIn args locals method.method.name receiver
    let vs ← evaluateAllIn args locals es
    let v ← m.invoke method ref vs
    Action.ofCast (m.types.cast method.method.resultType v)
  | .conditional test thenExpr otherwise => do
    if ← Action.truth (← evaluateIn args locals test) then evaluateIn args locals thenExpr
    else evaluateIn args locals otherwise
  | .constant v _ => pure v
  | .convert _ operand type => do
    let v ← evaluateIn args locals operand
    Action.ofCast (m.types.cast type v)
  | .zero type => pure type.zero
  | .fieldGet f receiver => do
    let ref ← evaluateReceiverIn args locals f.field.name receiver
    m.loadField f ref
  | .fieldSet f receiver value => do
    let ref ← evaluateReceiverIn args locals f.field.name receiver
    let v ← evaluateIn args locals value
    m.storeField f ref v
    pure .null
  | .index list position => do
    match ← evaluateIn args locals list with
    | .list items =>
      match items[position]? with
      | some v => pure v
      | none => throw (.noElement (Value.list items).label position)
    | v => throw (.noElement v.label position)
  | .letIn id value body => do
    let v ← evaluateIn args locals value
    evaluateIn args ((id, v) :: locals) body
  | .readLocal id _ =>
    match locals.lookup id with
    | some v => pure v
    | none => throw (.unboundLocal id)
  | .memberInit object bindings => do
    match ← evaluateIn args locals object with
    | .object ref =>
      initialiseIn args locals ref bindings
      pure (.object ref)
    | _ => throw .initialisedNothing
  | .navigate receiver member => do
    match ← evaluateIn args locals receiver with
    | .null => pure .null
    | .object ref => m.load member (some ref)
    | v => throw (.unreadableFrom member.name v.label)
  | .construct c es => do
    let vs ← evaluateAllIn args locals es
    let ref ← m.construct c vs
    pure (.object ref)
  | .negate operand => do
    let b ← Action.truth (← evaluateIn args locals operand)
    pure (.bool !b)
  | .parameter index _ =>
    match args[index]? with
    | some v => pure v
    | none => throw (.parameterMissing index)
  | .sequence front last => do
    discard (evaluateAllIn args locals front)
    evaluateIn args locals last
  | .writePrimitive f receiver value => do
    let ref ← evaluateReceiverIn args locals f.field.name receiver
    let v ← evaluateIn args locals value
    m.storeField f ref v
    pure .null

/-- Evaluate several expressions in order. -/
def evaluateAllIn (args : List Value) (locals : Locals) : List Expr → Action (List Value)
  | [] => pure []
  | e :: rest => do
    let v ← evaluateIn args locals e
    pure (v :: (← evaluateAllIn args locals rest))

/-- Evaluate the receiver of a member; static members have none. -/
def evaluateReceiverIn (args : List Value) (locals : Locals) (member : String) :
    Option Expr → Action (Option ObjectRef)
  | none => pure none
  | some e => do
    let v ← evaluateIn args locals e
    pure (some (← Action.receiver v member))

/-- Run the initialisers of an object in order. -/
def initialiseIn (args : List Value) (locals : Locals) (ref : ObjectRef) :
    List (AssignTarget × Expr) → Action Unit
  | [] => pure ()
  | (target, e) :: rest => do
    let v ← evaluateIn args locals e
    m.assign ref target v
    initialiseIn args locals ref rest

end

/-- Run a lambda: check the arguments, and evaluate the body with no locals in scope. -/
def runIn (l : Lambda) (args : List Value) : Action Value := do
  if args.length ≠ l.parameters.length then
    throw (.invocationArity l.parameters.length args.length)
  match m.checkArguments 0 (l.parameters.map (·.type)) args with
  | .error e => throw e
  | .ok _ => m.evaluateIn args [] l.body

/-- An operator that is not logical evaluates both operands. -/
theorem evaluateIn_strict {op : Operator} (args : List Value) (locals : Locals)
    (h : op.isLogical = false) (lhs rhs : Expr) :
    m.evaluateIn args locals (.binary op lhs rhs) = (do
      let l ← m.evaluateIn args locals lhs
      let r ← m.evaluateIn args locals rhs
      Action.operate op l r) := by
  cases op with
  | and | or => cases h
  | _ => rw [evaluateIn] <;> simp

end Machine

/-! ## Frames -/

/-- The frame has all slots, and those of the locals in scope hold their values. -/
structure Locals.HeldBy (locals : Locals) (layout : List LocalId) (frame : List Value) : Prop where
  /-- The frame has all slots. -/
  length : frame.length = layout.length
  /-- What is in scope is in its slot. -/
  value : ∀ id v, locals.lookup id = some v → frame[layout.idxOf id]? = some v

namespace Locals

variable {locals : Locals} {layout : List LocalId} {frame : List Value}

/-- The numbers in scope. -/
abbrev ids (locals : Locals) : List LocalId := locals.map Prod.fst

theorem mem_ids_of_lookup {id : LocalId} {v : Value} (h : locals.lookup id = some v) :
    id ∈ locals.ids := by
  obtain ⟨l₁, l₂, rfl, -⟩ := List.lookup_eq_some_iff.1 h
  simp [ids]

theorem exists_lookup {id : LocalId} (h : id ∈ locals.ids) : ∃ v, locals.lookup id = some v := by
  cases hv : locals.lookup id with
  | some v => exact ⟨v, rfl⟩
  | none =>
    obtain ⟨p, hp, rfl⟩ := List.mem_map.1 h
    simpa using List.lookup_eq_none_iff.1 hv p hp

/-- With nothing in scope, a frame only has to be of the right length. -/
theorem HeldBy.nulls (layout : List LocalId) :
    HeldBy [] layout (List.replicate layout.length .null) :=
  ⟨List.length_replicate, fun id v h => by cases h⟩

/-- Writing the slot of a number puts it in scope; the slots of other numbers stay. -/
theorem HeldBy.set (h : locals.HeldBy layout frame) {id : LocalId} (hid : id ∈ layout) (v : Value) :
    HeldBy ((id, v) :: locals) layout (frame.set (layout.idxOf id) v) := by
  refine ⟨by simpa using h.length, fun other w hw => ?_⟩
  rw [Expr.getElem?_set_idxOf h.length hid]
  by_cases heq : other = id
  · subst heq
    rw [List.lookup_cons_self] at hw
    rw [if_pos rfl, hw]
  · rw [List.lookup_cons, beq_false_of_ne heq] at hw
    rw [if_neg heq]
    exact h.value other w hw

/-- What was in scope outside is still in its slot, if the number was another one. -/
theorem HeldBy.tail {id : LocalId} {v : Value} (h : HeldBy ((id, v) :: locals) layout frame)
    (hid : id ∉ locals.ids) : locals.HeldBy layout frame := by
  refine ⟨h.length, fun other w hw => h.value other w ?_⟩
  have hne : other ≠ id := by
    rintro rfl
    exact hid (mem_ids_of_lookup hw)
  rwa [List.lookup_cons, beq_false_of_ne hne]

end Locals

/-! ## Evaluation over a frame follows evaluation with locals in scope -/

section Follows

variable {α β : Type} {locals : Locals} {layout : List LocalId}

/-- From every frame that holds the locals in scope, evaluation has the outcome of the action and leaves
the same store; if it succeeds, the frame still holds them. -/
def Follows (layout : List LocalId) (locals : Locals) (x : Evaluation α) (a : Action α) : Prop :=
  ∀ frame s, locals.HeldBy layout frame → ∃ result s',
    (x.run frame).perform s = (result, s') ∧ a.perform s = (result.map Prod.fst, s') ∧
      ∀ v frame', result = .ok (v, frame') → locals.HeldBy layout frame'

theorem Follows.pure (v : α) : Follows layout locals (pure v) (pure v) := by
  intro frame s hf
  refine ⟨.ok (v, frame), s, rfl, rfl, fun w frame' heq => ?_⟩
  cases heq
  exact hf

theorem Follows.throw (e : Error) :
    Follows layout locals (MonadExcept.throw e : Evaluation α) (MonadExcept.throw e) :=
  fun _ s _ => ⟨.error e, s, rfl, rfl, fun _ _ heq => by cases heq⟩

theorem Follows.bind {x : Evaluation α} {a : Action α} {f : α → Evaluation β} {g : α → Action β}
    (hx : Follows layout locals x a) (hf : ∀ v, Follows layout locals (f v) (g v)) :
    Follows layout locals (x >>= f) (a >>= g) := by
  intro frame s hframe
  obtain ⟨result, s₁, hrun, ha, hheld⟩ := hx frame s hframe
  rw [StateT.run_bind]
  cases result with
  | error e =>
    refine ⟨.error e, s₁, Action.perform_bind_error hrun, Action.perform_bind_error ha, ?_⟩
    exact fun _ _ heq => by cases heq
  | ok p =>
    obtain ⟨v, frame₁⟩ := p
    rw [Action.perform_bind_ok hrun, Action.perform_bind_ok ha]
    exact hf v frame₁ s₁ (hheld v frame₁ rfl)

/-- An action leaves the frame as it is. -/
theorem Follows.lift (a : Action α) : Follows layout locals (liftM a) a := by
  intro frame s hframe
  have hrun : ((liftM a : Evaluation α).run frame).perform s =
      Action.perform (a >>= fun v => Pure.pure (v, frame)) s := rfl
  cases ha : a.perform s with
  | mk result s' =>
    cases result with
    | error e =>
      rw [Action.perform_bind_error ha] at hrun
      exact ⟨.error e, s', hrun, rfl, fun _ _ heq => by cases heq⟩
    | ok v =>
      rw [Action.perform_bind_ok ha] at hrun
      refine ⟨.ok (v, frame), s', hrun, rfl, fun w frame' heq => ?_⟩
      cases heq
      exact hframe

theorem Follows.discard {x : Evaluation α} {a : Action α} (h : Follows layout locals x a) :
    Follows layout locals (Functor.discard x) (Functor.discard a) := by
  rw [discard_eq_bind, discard_eq_bind]
  exact h.bind fun _ => .pure _

theorem follows_truth (v : Value) : Follows layout locals (truth v) (Action.truth v) := by
  cases v with
  | bool b => exact .pure b
  | _ => exact .throw _

theorem follows_receiver (v : Value) (member : String) :
    Follows layout locals (receiverOf v member) (Action.receiver v member) := by
  cases v with
  | object ref => exact .pure ref
  | _ => exact .throw _

theorem follows_operate (op : Operator) (l r : Value) :
    Follows layout locals (operate op l r) (Action.operate op l r) := by
  refine (Follows.lift (get : Action Store)).bind fun s => ?_
  cases op.apply s l r with
  | ok v => exact .pure v
  | error e => exact .throw e

/-- The value of a local in scope is read from its slot. -/
theorem follows_read {id : LocalId} {v : Value} (h : locals.lookup id = some v) :
    Follows layout locals (do Pure.pure ((← get)[layout.idxOf id]?.getD .null)) (Pure.pure v) := by
  intro frame s hf
  refine ⟨.ok (v, frame), s, ?_, rfl, fun w frame' heq => ?_⟩
  · have hrun : (((do Pure.pure ((← get)[layout.idxOf id]?.getD .null)) : Evaluation Value).run
        frame).perform s = (.ok (frame[layout.idxOf id]?.getD .null, frame), s) := rfl
    rw [hrun, hf.value id v h]
    rfl
  · cases heq
    exact hf

/-- A number that is not in scope yet is bound by writing its slot. -/
theorem Follows.bindLocal {id : LocalId} (hid : id ∈ layout) (hfree : id ∉ locals.ids) {v : Value}
    {x : Evaluation α} {a : Action α} (h : Follows layout ((id, v) :: locals) x a) :
    Follows layout locals (do modify (·.set (layout.idxOf id) v); x) a := by
  intro frame s hf
  have hrun : (do modify (·.set (layout.idxOf id) v); x : Evaluation α).run frame =
      x.run (frame.set (layout.idxOf id) v) := by
    rw [StateT.run_bind, StateT.run_modify, pure_bind]
  obtain ⟨result, s', hx, ha, hheld⟩ := h _ s (hf.set hid v)
  refine ⟨result, s', by rw [hrun, hx], ha, fun w frame' heq => ?_⟩
  exact (hheld w frame' heq).tail hfree

end Follows

/-! ## Numbers that are bound once on every path -/

namespace Expr

/-- The node binds the number. -/
def Binds (id : LocalId) : Expr → Prop
  | letIn other _ _ => other = id
  | _ => False

/-- A number is not bound again inside its own body. -/
def BindsOnce : Expr → Prop
  | letIn id _ body => body.Each fun n => ¬n.Binds id
  | _ => True

/-- What evaluation over a frame relies on: a number that the node binds has a slot, is not bound again
inside the body, and is not in scope outside. -/
structure Placed (layout bound : List LocalId) (e : Expr) : Prop where
  /-- There is a slot. -/
  hasSlot : e.HasSlot layout
  /-- The number is bound once. -/
  bindsOnce : e.BindsOnce
  /-- The number is not in scope outside. -/
  free : ∀ id ∈ bound, ¬e.Binds id

theorem Placed.cons {layout bound : List LocalId} {e : Expr} (h : e.Placed layout bound) {id : LocalId}
    (hid : ¬e.Binds id) : e.Placed layout (id :: bound) :=
  ⟨h.hasSlot, h.bindsOnce, List.forall_mem_cons.2 ⟨hid, h.free⟩⟩

section

variable (m : Machine) (args : List Value) {layout : List LocalId}

/-- A logical operator looks at its left operand first. -/
theorem follows_logical {locals : Locals} {op : Operator} (hop : op.isLogical = true) {lhs rhs : Expr}
    (hl : Follows layout locals (m.evaluate ⟨args, layout⟩ lhs) (m.evaluateIn args locals lhs))
    (hr : Follows layout locals (m.evaluate ⟨args, layout⟩ rhs) (m.evaluateIn args locals rhs)) :
    Follows layout locals (m.evaluate ⟨args, layout⟩ (.binary op lhs rhs))
      (m.evaluateIn args locals (.binary op lhs rhs)) := by
  cases op <;> cases hop <;> rw [Machine.evaluate, Machine.evaluateIn]
  · refine hl.bind fun v => (follows_truth v).bind fun b => ?_
    cases b
    · exact .pure _
    · exact hr
  · refine hl.bind fun v => (follows_truth v).bind fun b => ?_
    cases b
    · exact hr
    · exact .pure _

mutual

/-- Evaluation over a frame gives what evaluation with the locals in scope gives. -/
theorem follows_evaluate {locals : Locals} : (e : Expr) → e.Each (Placed layout locals.ids) →
    e.checkScopes locals.ids = .ok () →
      Follows layout locals (m.evaluate ⟨args, layout⟩ e) (m.evaluateIn args locals e)
  | .binary op lhs rhs, he, hc => by
    obtain ⟨-, hlhs, hrhs⟩ := each_binary.1 he
    rw [checkScopes] at hc
    obtain ⟨_, hcl, hcr⟩ := bind_eq_ok.1 hc
    have hl := follows_evaluate lhs hlhs hcl
    have hr := follows_evaluate rhs hrhs hcr
    cases hop : op.isLogical with
    | true => exact follows_logical m args hop hl hr
    | false =>
      rw [Machine.evaluate_strict _ _ hop, Machine.evaluateIn_strict _ _ _ hop]
      exact hl.bind fun l => hr.bind fun r => follows_operate op l r
  | .call method receiver es, he, hc => by
    obtain ⟨-, hrec, hes⟩ := each_call.1 he
    rw [checkScopes] at hc
    obtain ⟨_, hcr, hces⟩ := bind_eq_ok.1 hc
    rw [Machine.evaluate, Machine.evaluateIn]
    refine (follows_evaluateReceiver method.method.name receiver hrec hcr).bind fun ref => ?_
    refine (follows_evaluateAll es hes hces).bind fun vs => ?_
    exact (Follows.lift (m.invoke method ref vs)).bind fun v => .lift _
  | .conditional test thenExpr otherwise, he, hc => by
    obtain ⟨-, htest, hthen, hotherwise⟩ := each_conditional.1 he
    rw [checkScopes] at hc
    obtain ⟨_, hct, hc⟩ := bind_eq_ok.1 hc
    obtain ⟨_, hc₁, hc₂⟩ := bind_eq_ok.1 hc
    rw [Machine.evaluate, Machine.evaluateIn]
    refine (follows_evaluate test htest hct).bind fun v => (follows_truth v).bind fun b => ?_
    cases b
    · exact follows_evaluate otherwise hotherwise hc₂
    · exact follows_evaluate thenExpr hthen hc₁
  | .constant v type, he, hc => by
    rw [Machine.evaluate, Machine.evaluateIn]
    exact .pure v
  | .convert rule operand type, he, hc => by
    obtain ⟨-, hoperand⟩ := each_convert.1 he
    rw [checkScopes] at hc
    rw [Machine.evaluate, Machine.evaluateIn]
    exact (follows_evaluate operand hoperand hc).bind fun v => .lift _
  | .zero type, he, hc => by
    rw [Machine.evaluate, Machine.evaluateIn]
    exact .pure _
  | .fieldGet f receiver, he, hc => by
    obtain ⟨-, hrec⟩ := each_fieldGet.1 he
    rw [checkScopes] at hc
    rw [Machine.evaluate, Machine.evaluateIn]
    exact (follows_evaluateReceiver f.field.name receiver hrec hc).bind fun ref => .lift _
  | .fieldSet f receiver value, he, hc => by
    obtain ⟨-, hrec, hvalue⟩ := each_fieldSet.1 he
    rw [checkScopes] at hc
    obtain ⟨_, hcr, hcv⟩ := bind_eq_ok.1 hc
    rw [Machine.evaluate, Machine.evaluateIn]
    refine (follows_evaluateReceiver f.field.name receiver hrec hcr).bind fun ref => ?_
    refine (follows_evaluate value hvalue hcv).bind fun v => ?_
    exact (Follows.lift (m.storeField f ref v)).bind fun _ => .pure _
  | .index list position, he, hc => by
    obtain ⟨-, hlist⟩ := each_index.1 he
    rw [checkScopes] at hc
    rw [Machine.evaluate, Machine.evaluateIn]
    refine (follows_evaluate list hlist hc).bind fun v => ?_
    cases v with
    | list items =>
      cases hitem : items[position]? with
      | some item =>
        simp only [hitem]
        exact .pure item
      | none =>
        simp only [hitem]
        exact .throw _
    | _ => exact .throw _
  | .letIn id value body, he, hc => by
    obtain ⟨hnode, hvalue, hbody⟩ := each_letIn.1 he
    rw [checkScopes] at hc
    obtain ⟨_, hcv, hcb⟩ := bind_eq_ok.1 hc
    rw [Machine.evaluate, Machine.evaluateIn]
    refine (follows_evaluate value hvalue hcv).bind fun v => ?_
    -- no other binding in scope, and none inside the body, has this number
    have hfree : id ∉ locals.ids := fun hid => hnode.free id hid rfl
    have hinner : body.Each (Placed layout (Locals.ids ((id, v) :: locals))) := fun n hn =>
      (hbody n hn).cons (hnode.bindsOnce n hn)
    exact .bindLocal hnode.hasSlot hfree (follows_evaluate body hinner hcb)
  | .readLocal id type, he, hc => by
    rw [checkScopes] at hc
    have hid : id ∈ locals.ids := by
      by_contra hid
      simp [hid] at hc
    obtain ⟨v, hv⟩ := Locals.exists_lookup hid
    rw [Machine.evaluate, Machine.evaluateIn]
    simp only [hv]
    exact follows_read hv
  | .memberInit object bindings, he, hc => by
    obtain ⟨-, hobject, hbindings⟩ := each_memberInit.1 he
    rw [checkScopes] at hc
    obtain ⟨_, hco, hcb⟩ := bind_eq_ok.1 hc
    rw [Machine.evaluate, Machine.evaluateIn]
    refine (follows_evaluate object hobject hco).bind fun v => ?_
    cases v with
    | object ref =>
      exact (follows_initialise ref bindings hbindings hcb).bind fun _ => .pure _
    | _ => exact .throw _
  | .navigate receiver member, he, hc => by
    obtain ⟨-, hrec⟩ := each_navigate.1 he
    rw [checkScopes] at hc
    rw [Machine.evaluate, Machine.evaluateIn]
    refine (follows_evaluate receiver hrec hc).bind fun v => ?_
    cases v with
    | null => exact .pure _
    | object ref => exact .lift _
    | _ => exact .throw _
  | .construct ctor es, he, hc => by
    obtain ⟨-, hes⟩ := each_construct.1 he
    rw [checkScopes] at hc
    rw [Machine.evaluate, Machine.evaluateIn]
    refine (follows_evaluateAll es hes hc).bind fun vs => ?_
    exact (Follows.lift (m.construct ctor vs)).bind fun ref => .pure _
  | .negate operand, he, hc => by
    obtain ⟨-, hoperand⟩ := each_negate.1 he
    rw [checkScopes] at hc
    rw [Machine.evaluate, Machine.evaluateIn]
    refine (follows_evaluate operand hoperand hc).bind fun v => ?_
    exact (follows_truth v).bind fun b => .pure _
  | .parameter place type, he, hc => by
    rw [Machine.evaluate, Machine.evaluateIn]
    cases hv : args[place]? with
    | some v => exact .pure v
    | none => exact .throw _
  | .sequence front last, he, hc => by
    obtain ⟨-, hfront, hlast⟩ := each_sequence.1 he
    rw [checkScopes] at hc
    obtain ⟨_, hcf, hcl⟩ := bind_eq_ok.1 hc
    rw [Machine.evaluate, Machine.evaluateIn]
    exact (follows_evaluateAll front hfront hcf).discard.bind fun _ =>
      follows_evaluate last hlast hcl
  | .writePrimitive f receiver value, he, hc => by
    obtain ⟨-, hrec, hvalue⟩ := each_writePrimitive.1 he
    rw [checkScopes] at hc
    obtain ⟨_, hcr, hcv⟩ := bind_eq_ok.1 hc
    rw [Machine.evaluate, Machine.evaluateIn]
    refine (follows_evaluateReceiver f.field.name receiver hrec hcr).bind fun ref => ?_
    refine (follows_evaluate value hvalue hcv).bind fun v => ?_
    exact (Follows.lift (m.storeField f ref v)).bind fun _ => .pure _

theorem follows_evaluateAll {locals : Locals} : (es : List Expr) →
    (∀ e ∈ es, e.Each (Placed layout locals.ids)) → checkAllScopes locals.ids es = .ok () →
      Follows layout locals (m.evaluateAll ⟨args, layout⟩ es) (m.evaluateAllIn args locals es)
  | [], _, _ => by
    rw [Machine.evaluateAll, Machine.evaluateAllIn]
    exact .pure _
  | e :: es, hes, hc => by
    rw [checkAllScopes] at hc
    obtain ⟨_, hce, hces⟩ := bind_eq_ok.1 hc
    rw [Machine.evaluateAll, Machine.evaluateAllIn]
    refine (follows_evaluate e (hes e (List.mem_cons_self ..)) hce).bind fun v => ?_
    refine (follows_evaluateAll es (fun e he => hes e (List.mem_cons_of_mem _ he)) hces).bind
      fun vs => .pure _

theorem follows_evaluateReceiver {locals : Locals} (member : String) : (receiver : Option Expr) →
    (∀ e, receiver = some e → e.Each (Placed layout locals.ids)) →
    checkReceiverScopes locals.ids receiver = .ok () →
      Follows layout locals (m.evaluateReceiver ⟨args, layout⟩ member receiver)
        (m.evaluateReceiverIn args locals member receiver)
  | none, _, _ => by
    rw [Machine.evaluateReceiver, Machine.evaluateReceiverIn]
    exact .pure _
  | some e, he, hc => by
    rw [checkReceiverScopes] at hc
    rw [Machine.evaluateReceiver, Machine.evaluateReceiverIn]
    refine (follows_evaluate e (he e rfl) hc).bind fun v => ?_
    exact (follows_receiver v member).bind fun ref => .pure _

theorem follows_initialise {locals : Locals} (ref : ObjectRef) :
    (bindings : List (AssignTarget × Expr)) →
    (∀ b ∈ bindings, b.2.Each (Placed layout locals.ids)) →
    checkBindingScopes locals.ids bindings = .ok () →
      Follows layout locals (m.initialise ⟨args, layout⟩ ref bindings)
        (m.initialiseIn args locals ref bindings)
  | [], _, _ => by
    rw [Machine.initialise, Machine.initialiseIn]
    exact .pure _
  | (target, e) :: bindings, hb, hc => by
    rw [checkBindingScopes] at hc
    obtain ⟨_, hce, hcb⟩ := bind_eq_ok.1 hc
    rw [Machine.initialise, Machine.initialiseIn]
    refine (follows_evaluate e (hb _ (List.mem_cons_self ..)) hce).bind fun v => ?_
    refine (Follows.lift (m.assign ref target v)).bind fun _ => ?_
    exact follows_initialise ref bindings (fun b hb' => hb b (List.mem_cons_of_mem _ hb')) hcb

end
end
end Expr

/-! ## Running lambdas -/

/-- What follows an action has the action's outcome, the frame apart. -/
theorem Follows.run' {α : Type} {layout : List LocalId} {locals : Locals} {x : Evaluation α}
    {a : Action α} (h : Follows layout locals x a) {frame : List Value}
    (hf : locals.HeldBy layout frame) : x.run' frame = a := by
  refine Action.ext fun s => ?_
  obtain ⟨result, s', hx, ha, -⟩ := h frame s hf
  have hmap : x.run' frame = Prod.fst <$> x.run frame := rfl
  rw [hmap, Action.perform_map, hx, ha]
  cases result <;> rfl

/-- A lambda that binds every number once runs as it does with the locals in scope handed down. -/
theorem Machine.run_eq_runIn (m : Machine) {l : Lambda} (hbinds : l.body.Each Expr.BindsOnce)
    (hscopes : l.body.checkScopes [] = .ok ()) (args : List Value) :
    m.run l.compile args = m.runIn l args := by
  have hplaced : l.body.Each (Expr.Placed l.compile.layout (Locals.ids [])) := fun n hn =>
    ⟨Expr.each_hasSlot_compile l n hn, hbinds n hn, by simp⟩
  have hbody := (Expr.follows_evaluate m args l.body hplaced hscopes).run' (.nulls l.compile.layout)
  have hlength : l.compile.parameters.length = l.parameters.length := List.length_map ..
  rw [runIn, ← hbody, ← hlength]
  rfl

end Reshape
