import Reshape.Proofs.Expr.Computation
import Reshape.Proofs.Expr.Frames
import Reshape.Proofs.Expr.Purity

/-!
# Expressions without side effects

An expression is free of side effects if evaluating it leaves everything as it is, and has the same outcome
when there are more objects (`Machine.SideEffectFree`).  Supplied code may be part of it, if that keeps to
this.  What such an expression gives alone it gives wherever it is evaluated (`Machine.Harmless.settles`).
Pure expressions, which run generated getters only, are free of side effects over all that is in a store
(`Expr.sideEffectFree_of_isPure`).
-/

namespace Reshape

namespace Machine

variable {m : Machine} {s s₁ s₂ : Store} {args : List Value} {e : Expr} {layout : List LocalId}

/-- Alone, the expression leaves the store as it is, and so it does with more objects, where it has the same
outcome. -/
def SideEffectFree (m : Machine) (s : Store) (args : List Value) (e : Expr) : Prop :=
  ∀ s', s.Widens s' → (m.alone args e).perform s' = (((m.alone args e).perform s).1, s')

/-- An expression without side effects that reads its locals inside their bindings. -/
structure Harmless (m : Machine) (s : Store) (args : List Value) (e : Expr) : Prop where
  /-- It has no side effects. -/
  free : m.SideEffectFree s args e
  /-- Locals are read inside their bindings. -/
  scopes : e.checkScopes [] = .ok ()

/-- Alone, the expression gives the value and leaves the store as it is. -/
def Returns (m : Machine) (s : Store) (args : List Value) (e : Expr) (v : Value) : Prop :=
  (m.alone args e).perform s = (.ok v, s)

theorem Returns.unique {v w : Value} (hv : m.Returns s args e v) (hw : m.Returns s args e w) : v = w :=
  Except.ok.inj (Prod.mk.inj (hv.symm.trans hw)).1

/-- What an expression without side effects gives alone, it gives in any frame. -/
theorem Harmless.settles (h : m.Harmless s args e) (hslot : e.Each (Expr.HasSlot layout)) {v : Value}
    (hv : m.Returns s args e v) :
    Evaluation.Settles s (Scope.Frame ⟨args, layout⟩) (m.evaluate ⟨args, layout⟩ e) v := by
  intro s' hs' frame hframe
  have halone := h.free s' hs'
  rw [hv] at halone
  rcases perform_alone args hslot h.scopes hframe s' with
    ⟨err, s₂, -, hfail⟩ | ⟨w, frame', s₂, hframe', hok, hw⟩
  · cases hfail.symm.trans halone
  · cases hw.symm.trans halone
    exact ⟨frame', hframe', hok⟩

/-- What an expression without side effects has given in some frame, it gives alone. -/
theorem Harmless.returns (h : m.Harmless s args e) (hslot : e.Each (Expr.HasSlot layout))
    (hs : s.Widens s₁) {frame frame' : List Value} (hframe : frame.length = layout.length) {v : Value}
    (hrun : ((m.evaluate ⟨args, layout⟩ e).run frame).perform s₁ = (.ok (v, frame'), s₂)) :
    m.Returns s args e v ∧ s₂ = s₁ ∧ frame'.length = layout.length := by
  have hself := h.free s (.refl s)
  rcases perform_alone (m := m) args hslot h.scopes hframe s₁ with
    ⟨err, s', hfail, -⟩ | ⟨w, frame₁, s', hframe₁, hok, hw⟩
  · cases hfail.symm.trans hrun
  · cases hok.symm.trans hrun
    obtain ⟨hfst, hsnd⟩ := Prod.mk.inj (hw.symm.trans (h.free s₁ hs))
    rw [← hfst] at hself
    exact ⟨hself, hsnd, hframe₁⟩

/-- A literal gives its value. -/
theorem returns_constant (v : Value) (type : ValueType) : m.Returns s args (.constant v type) v := by
  rw [Returns, alone, evaluate]
  rfl

/-- A literal has no side effects. -/
theorem harmless_constant (v : Value) (type : ValueType) : m.Harmless s args (.constant v type) := by
  refine ⟨fun s' _ => ?_, rfl⟩
  have hreturns : ∀ s : Store, (m.alone args (.constant v type)).perform s = (.ok v, s) :=
    fun s => returns_constant v type
  rw [hreturns, hreturns]

end Machine

/-! ## Steady actions -/

namespace Action

variable {α β : Type} {s : Store} {live : α → Prop} {live' : β → Prop}

/-- In the store and in all wider ones, the action has one outcome and leaves the store as it is; a result is
as described. -/
def Steady (s : Store) (live : α → Prop) (a : Action α) : Prop :=
  ∃ result, (∀ s', s.Widens s' → a.perform s' = (result, s')) ∧ ∀ v, result = .ok v → live v

theorem Steady.pure {v : α} (h : live v) : Steady s live (pure v) :=
  ⟨.ok v, fun _ _ => rfl, fun _ hv => Except.ok.inj hv ▸ h⟩

theorem Steady.throw (e : Error) : Steady s live (MonadExcept.throw e : Action α) :=
  ⟨.error e, fun _ _ => rfl, fun _ hv => by cases hv⟩

theorem Steady.bind {a : Action α} {f : α → Action β} (ha : Steady s live a)
    (hf : ∀ v, live v → Steady s live' (f v)) : Steady s live' (a >>= f) := by
  obtain ⟨result, hrun, hlive⟩ := ha
  cases result with
  | error e => exact ⟨.error e, fun s' hs' => perform_bind_error (hrun s' hs'), fun _ hv => by cases hv⟩
  | ok v =>
    obtain ⟨result', hrun', hlive'⟩ := hf v (hlive v rfl)
    exact ⟨result', fun s' hs' => (perform_bind_ok (hrun s' hs')).trans (hrun' s' hs'), hlive'⟩

/-- What one sees of the store is the same in all wider ones. -/
theorem Steady.get_bind {f : Store → Action α} (hf : ∀ s', s.Widens s' → f s' = f s)
    (h : Steady s live (f s)) : Steady s live (get >>= f) := by
  obtain ⟨result, hrun, hlive⟩ := h
  refine ⟨result, fun s' hs' => ?_, hlive⟩
  rw [perform_bind_ok (perform_get s'), hf s' hs']
  exact hrun s' hs'

theorem steady_ofCast {t : TypeTable} {type : ValueType} {v : Value} (hv : s.Live v) :
    Steady s s.Live (ofCast (t.cast type v)) := by
  cases hcast : t.cast type v with
  | ok w => exact .pure (hv.cast hcast)
  | error e => exact .throw _

end Action

/-! ## Reading members -/

namespace Machine

open Action (Steady)

variable {m : Machine} {s : Store} {receiver : Option ObjectRef}

theorem steady_loadSlot (hs : s.WellTyped m.types) {ref : ObjectRef} (href : s.Live (.object ref))
    (slot : Nat) : Steady s s.Live (loadSlot ref slot) := by
  refine .get_bind (fun s' hs' => by rw [hs'.includes.slots href]) ?_
  obtain ⟨r, hr, -⟩ := Store.live_object.1 href
  simp only [Store.slots, hr]
  cases hv : r.slots[slot]? with
  | none => exact .throw _
  | some v => exact .pure (hs.slotsLive _ r hr v (List.mem_of_getElem? hv))

theorem steady_loadStatic (hs : s.WellTyped m.types) (owner : TypeId) (slot : Nat) :
    Steady s s.Live (m.loadStatic owner slot) := by
  rw [loadStatic]
  split
  · exact .throw _
  · rename_i type htype
    refine .get_bind (fun s' hs' => by rw [Store.static?, hs'.statics, Store.static?]) (.pure ?_)
    cases hv : s.static? ⟨owner, slot⟩ with
    | none => exact Store.live_zero s type
    | some v => exact hs.staticsLive _ v hv

theorem steady_requireInstance (member : String) :
    Steady s (fun ref => receiver = some ref) (requireInstance receiver member) := by
  cases receiver with
  | none => exact .throw _
  | some ref => exact .pure rfl

theorem steady_loadField (hs : s.WellTyped m.types) (f : FieldRef)
    (hreceiver : ∀ ref, receiver = some ref → s.Live (.object ref)) :
    Steady s s.Live (m.loadField f receiver) := by
  rw [loadField]
  split
  · exact steady_loadStatic hs f.owner f.field.slot
  · exact (steady_requireInstance f.field.name).bind fun ref href =>
      steady_loadSlot hs (hreceiver ref href) f.field.slot

/-- A getter that was made for a slot reads the same in all wider stores. -/
theorem steady_invoke (hs : s.WellTyped m.types) {r : MethodRef} (hr : r.OnlyReads)
    (hreceiver : ∀ ref, receiver = some ref → s.Live (.object ref)) (args : List Value) :
    Steady s s.Live (m.invoke r receiver args) := by
  have hused : Steady s (fun used => ∀ ref, used = some ref → s.Live (.object ref))
      (receiverFor r receiver) := by
    rw [receiverFor]
    split
    · exact .pure fun _ h => by cases h
    · rw [← bind_pure_comp]
      refine (steady_requireInstance r.method.name).bind fun ref href => .pure ?_
      rintro _ ⟨⟩
      exact hreceiver ref href
  rw [invoke_eq]
  refine hused.bind fun used hlive => ?_
  obtain ⟨slot, hbody⟩ | ⟨slot, hbody⟩ := hr
  · rw [runBody, hbody]
    exact (steady_requireInstance r.method.name).bind fun ref href =>
      steady_loadSlot hs (hlive ref href) slot
  · rw [runBody, hbody]
    exact steady_loadStatic hs r.owner slot

theorem steady_load (hs : s.WellTyped m.types) {member : MemberRef} (hm : member.OnlyReads)
    (hreceiver : ∀ ref, receiver = some ref → s.Live (.object ref)) :
    Steady s s.Live (m.load member receiver) := by
  cases member with
  | field f => exact steady_loadField hs f hreceiver
  | property p =>
    simp only [load]
    split
    · rename_i getter hgetter
      exact steady_invoke hs (hm getter hgetter) hreceiver []
    · exact .throw _

end Machine

/-! ## Steady evaluation -/

namespace Evaluation

variable {α β : Type} {t : TypeTable} {s : Store} {live : α → Prop} {live' : β → Prop}

/-- With a frame of values in the store, evaluation is steady, and leaves such a frame. -/
def Steady (s : Store) (live : α → Prop) (x : Evaluation α) : Prop :=
  ∀ frame : List Value, (∀ v ∈ frame, s.Live v) →
    Action.Steady s (fun p => live p.1 ∧ ∀ v ∈ p.2, s.Live v) (x.run frame)

theorem Steady.pure {v : α} (h : live v) : Steady s live (pure v) :=
  fun _ hframe => .pure ⟨h, hframe⟩

theorem Steady.throw (e : Error) : Steady s live (MonadExcept.throw e : Evaluation α) :=
  fun _ _ => Action.Steady.throw e

theorem Steady.bind {x : Evaluation α} {f : α → Evaluation β} (hx : Steady s live x)
    (hf : ∀ v, live v → Steady s live' (f v)) : Steady s live' (x >>= f) := by
  intro frame hframe
  rw [StateT.run_bind]
  exact (hx frame hframe).bind fun p hp => hf p.1 hp.1 p.2 hp.2

theorem Steady.lift {a : Action α} (h : Action.Steady s live a) :
    Steady s live (liftM a : Evaluation α) :=
  fun frame hframe => h.bind (f := fun v => Pure.pure (v, frame)) fun _ hv => .pure ⟨hv, hframe⟩

/-- As for actions, with the frame at hand. -/
theorem Steady.get_bind {f : Store → Evaluation α} (hf : ∀ s', s.Widens s' → f s' = f s)
    (h : Steady s live (f s)) : Steady s live ((liftM (get : Action Store) : Evaluation Store) >>= f) :=
  fun frame hframe => Action.Steady.get_bind (f := fun seen => (f seen).run frame)
    (fun s' hs' => congrArg (StateT.run · frame) (hf s' hs')) (h frame hframe)

theorem Steady.discard {x : Evaluation α} (h : Steady s live x) :
    Steady s (fun _ => True) (Functor.discard x) := by
  rw [discard_eq_bind]
  exact h.bind fun _ _ => .pure trivial

theorem steady_read (place : Nat) :
    Steady s s.Live (do Pure.pure ((← get)[place]?.getD .null) : Evaluation Value) := by
  intro frame hframe
  refine Action.Steady.pure (v := (frame[place]?.getD .null, frame)) ⟨?_, hframe⟩
  cases hv : frame[place]? with
  | none => exact Store.live_null s
  | some v => exact hframe v (List.mem_of_getElem? hv)

theorem Steady.bindLocal {place : Nat} {v : Value} (hv : s.Live v) {x : Evaluation α}
    (h : Steady s live x) : Steady s live (do modify (·.set place v); x) := by
  intro frame hframe
  rw [StateT.run_bind, StateT.run_modify, pure_bind]
  refine h (frame.set place v) fun w hw => ?_
  rcases List.mem_or_eq_of_mem_set hw with hw | rfl
  · exact hframe w hw
  · exact hv

theorem steady_truth (v : Value) : Steady s (fun _ => True) (truth v) := by
  cases v with
  | bool b => exact .pure trivial
  | _ => exact .throw _

theorem steady_receiverOf {v : Value} (hv : s.Live v) (member : String) :
    Steady s (fun ref => s.Live (.object ref)) (receiverOf v member) := by
  cases v with
  | object ref => exact .pure hv
  | _ => exact .throw _

/-- What an operator yields refers to no object. -/
theorem steady_operate (hs : s.WellTyped t) (op : Operator) {l r : Value} (hl : s.Live l)
    (hr : s.Live r) : Steady s s.Live (operate op l r) := by
  have hget : ∀ s', s.Widens s' → op.apply s' l r = op.apply s l r := by
    intro s' hs'
    cases op <;> simp only [Operator.apply, hs'.includes.sameValue hs hl hr]
  refine Steady.get_bind (fun s' hs' => by rw [hget s' hs']) ?_
  cases hv : op.apply s l r with
  | error e => exact .throw e
  | ok v =>
    refine .pure fun ref href => ?_
    cases hop : op.isArithmetic with
    | true =>
      rcases Operator.apply_arithmetic hop hv with ⟨rfl, -⟩ | hkind
      · simp [Value.refs] at href
      · simp [hkind.refs] at href
    | false =>
      obtain ⟨b, rfl⟩ := Operator.apply_comparison hop hv
      simp [Value.refs] at href

end Evaluation

/-! ## Pure expressions -/

namespace Expr

open Evaluation (Steady)

/-- The node is pure, and a literal is in the store. -/
structure ReadsIn (s : Store) (e : Expr) : Prop where
  /-- It assigns nothing, makes no object and runs no supplied code. -/
  isPure : e.IsPure
  /-- A literal refers to objects of the store only. -/
  live : ∀ v type, e = .constant v type → s.Live v

section

variable {m : Machine} {s : Store} {scope : Scope}

theorem steady_logical {op : Operator} (hop : op.isLogical = true) {lhs rhs : Expr}
    (hl : Steady s s.Live (m.evaluate scope lhs)) (hr : Steady s s.Live (m.evaluate scope rhs)) :
    Steady s s.Live (m.evaluate scope (.binary op lhs rhs)) := by
  cases op <;> cases hop <;> rw [Machine.evaluate]
  · refine hl.bind fun v _ => (Evaluation.steady_truth v).bind fun b _ => ?_
    cases b
    · exact .pure (Store.live_bool s false)
    · exact hr
  · refine hl.bind fun v _ => (Evaluation.steady_truth v).bind fun b _ => ?_
    cases b
    · exact hr
    · exact .pure (Store.live_bool s true)

mutual

/-- Over arguments in the store, pure expressions are steady. -/
theorem steady_evaluate (hs : s.WellTyped m.types) (hargs : ∀ v ∈ scope.args, s.Live v) :
    (e : Expr) → e.Each (ReadsIn s) → Steady s s.Live (m.evaluate scope e)
  | .binary op lhs rhs, he => by
    obtain ⟨-, hlhs, hrhs⟩ := each_binary.1 he
    have hl := steady_evaluate hs hargs lhs hlhs
    have hr := steady_evaluate hs hargs rhs hrhs
    cases hop : op.isLogical with
    | true => exact steady_logical hop hl hr
    | false =>
      rw [Machine.evaluate_strict _ _ hop]
      exact hl.bind fun l hl => hr.bind fun r hr => Evaluation.steady_operate hs op hl hr
  | .call method receiver es, he => by
    obtain ⟨hnode, hrec, hes⟩ := each_call.1 he
    rw [Machine.evaluate]
    refine (steady_evaluateReceiver hs hargs method.method.name receiver hrec).bind fun ref href => ?_
    refine (steady_evaluateAll hs hargs es hes).bind fun vs _ => ?_
    exact (Steady.lift (Machine.steady_invoke hs hnode.isPure href vs)).bind fun v hv =>
      .lift (Action.steady_ofCast hv)
  | .conditional test thenExpr otherwise, he => by
    obtain ⟨-, htest, hthen, hotherwise⟩ := each_conditional.1 he
    rw [Machine.evaluate]
    refine (steady_evaluate hs hargs test htest).bind fun v _ =>
      (Evaluation.steady_truth v).bind fun b _ => ?_
    cases b
    · exact steady_evaluate hs hargs otherwise hotherwise
    · exact steady_evaluate hs hargs thenExpr hthen
  | .constant v type, he => by
    rw [Machine.evaluate]
    exact .pure ((each_constant.1 he).live v type rfl)
  | .convert rule operand type, he => by
    obtain ⟨-, hoperand⟩ := each_convert.1 he
    rw [Machine.evaluate]
    exact (steady_evaluate hs hargs operand hoperand).bind fun v hv => .lift (Action.steady_ofCast hv)
  | .zero type, he => by
    rw [Machine.evaluate]
    exact .pure (Store.live_zero s type)
  | .fieldGet f receiver, he => by
    obtain ⟨-, hrec⟩ := each_fieldGet.1 he
    rw [Machine.evaluate]
    exact (steady_evaluateReceiver hs hargs f.field.name receiver hrec).bind fun ref href =>
      .lift (Machine.steady_loadField hs f href)
  | .fieldSet f receiver value, he => (each_fieldSet.1 he).1.isPure.elim
  | .index list position, he => by
    obtain ⟨-, hlist⟩ := each_index.1 he
    rw [Machine.evaluate]
    refine (steady_evaluate hs hargs list hlist).bind fun v hv => ?_
    cases v with
    | list items =>
      cases hitem : items[position]? with
      | some item =>
        simp only [hitem]
        exact .pure (Store.live_item hv (List.mem_of_getElem? hitem))
      | none =>
        simp only [hitem]
        exact .throw _
    | _ => exact .throw _
  | .letIn id value body, he => by
    obtain ⟨-, hvalue, hbody⟩ := each_letIn.1 he
    rw [Machine.evaluate]
    exact (steady_evaluate hs hargs value hvalue).bind fun v hv =>
      (steady_evaluate hs hargs body hbody).bindLocal hv
  | .readLocal id type, he => by
    rw [Machine.evaluate]
    exact Evaluation.steady_read _
  | .memberInit object bindings, he => by
    obtain ⟨hnode, hobject, -⟩ := each_memberInit.1 he
    obtain rfl : bindings = [] := hnode.isPure
    rw [Machine.evaluate]
    refine (steady_evaluate hs hargs object hobject).bind fun v hv => ?_
    cases v with
    | object ref =>
      have hnone : m.initialise scope ref [] = Pure.pure () := by rw [Machine.initialise]
      simp only [hnone, pure_bind]
      exact .pure hv
    | _ => exact .throw _
  | .navigate receiver member, he => by
    obtain ⟨hnode, hrec⟩ := each_navigate.1 he
    rw [Machine.evaluate]
    refine (steady_evaluate hs hargs receiver hrec).bind fun v hv => ?_
    cases v with
    | null => exact .pure (Store.live_null s)
    | object ref =>
      refine .lift (Machine.steady_load hs hnode.isPure ?_)
      rintro _ ⟨⟩
      exact hv
    | _ => exact .throw _
  | .construct ctor es, he => (each_construct.1 he).1.isPure.elim
  | .negate operand, he => by
    obtain ⟨-, hoperand⟩ := each_negate.1 he
    rw [Machine.evaluate]
    refine (steady_evaluate hs hargs operand hoperand).bind fun v _ => ?_
    exact (Evaluation.steady_truth v).bind fun b _ => .pure (Store.live_bool s _)
  | .parameter place type, he => by
    rw [Machine.evaluate]
    cases hv : scope.args[place]? with
    | some v => exact .pure (hargs v (List.mem_of_getElem? hv))
    | none => exact .throw _
  | .sequence front last, he => by
    obtain ⟨-, hfront, hlast⟩ := each_sequence.1 he
    rw [Machine.evaluate]
    exact (steady_evaluateAll hs hargs front hfront).discard.bind fun _ _ =>
      steady_evaluate hs hargs last hlast
  | .writePrimitive f receiver value, he => (each_writePrimitive.1 he).1.isPure.elim

theorem steady_evaluateAll (hs : s.WellTyped m.types) (hargs : ∀ v ∈ scope.args, s.Live v) :
    (es : List Expr) → (∀ e ∈ es, e.Each (ReadsIn s)) →
      Steady s (fun _ => True) (m.evaluateAll scope es)
  | [], _ => by
    rw [Machine.evaluateAll]
    exact .pure trivial
  | e :: es, hes => by
    rw [Machine.evaluateAll]
    refine (steady_evaluate hs hargs e (hes e (List.mem_cons_self ..))).bind fun v _ => ?_
    exact (steady_evaluateAll hs hargs es fun e he => hes e (List.mem_cons_of_mem _ he)).bind
      fun vs _ => .pure trivial

theorem steady_evaluateReceiver (hs : s.WellTyped m.types) (hargs : ∀ v ∈ scope.args, s.Live v)
    (member : String) : (receiver : Option Expr) →
    (∀ e, receiver = some e → e.Each (ReadsIn s)) →
      Steady s (fun receiver => ∀ ref, receiver = some ref → s.Live (.object ref))
        (m.evaluateReceiver scope member receiver)
  | none, _ => by
    rw [Machine.evaluateReceiver]
    exact .pure fun _ h => by cases h
  | some e, he => by
    rw [Machine.evaluateReceiver]
    refine (steady_evaluate hs hargs e (he e rfl)).bind fun v hv => ?_
    refine (Evaluation.steady_receiverOf hv member).bind fun ref href => .pure ?_
    rintro _ ⟨⟩
    exact href

end
end

/-- **Pure expressions are free of side effects.** -/
theorem sideEffectFree_of_isPure {m : Machine} {s : Store} (hs : s.WellTyped m.types)
    {args : List Value} (hargs : ∀ v ∈ args, s.Live v) {e : Expr} (he : e.Each (ReadsIn s)) :
    m.SideEffectFree s args e := by
  have hnulls : ∀ v ∈ List.replicate (e.slots []).length Value.null, s.Live v := fun v hv =>
    List.eq_of_mem_replicate hv ▸ Store.live_null s
  have hsteady : Steady s s.Live (m.evaluate ⟨args, e.slots []⟩ e) := steady_evaluate hs hargs e he
  obtain ⟨result, hrun, -⟩ := hsteady _ hnulls
  have halone : ∀ s', s.Widens s' → (m.alone args e).perform s' = (result.map Prod.fst, s') := by
    intro s' hs'
    have hmap : m.alone args e = Prod.fst <$> (m.evaluate ⟨args, e.slots []⟩ e).run
      (List.replicate (e.slots []).length .null) := rfl
    rw [hmap, Action.perform_map, hrun s' hs']
    cases result <;> rfl
  intro s' hs'
  rw [halone s' hs', halone s (.refl s)]

end Expr
end Reshape
