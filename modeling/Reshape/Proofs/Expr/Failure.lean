import Reshape.Proofs.Expr.Preservation
import Reshape.Proofs.Store.Failure

/-!
# How evaluation fails

A well-typed expression fails for reasons that the values bring about: a conversion, a null receiver,
arithmetic without result.  What checked construction rules out (a condition that is no truth value, a
parameter without argument, operands of the wrong kinds, a slot that is not there) does not happen when
a well-typed expression is evaluated.  One failure of class internal is within reach all the same:
members that are initialised on null (`Draft.Reached.internal_failures`).  The induction therefore carries
a set of errors that holds all others, and holds this one unless every object that is initialised is
there for certain (`Expr.YieldsObject`).
-/

namespace Reshape

/-! ## Operators -/

theorem TypeTable.conforms_underlying {t : TypeTable} {type : ValueType} {v : Value}
    (h : t.conforms type v = true) (hv : v ≠ .null) : t.conforms type.underlying v = true := by
  cases type with
  | nullable inner => rwa [conforms_nullable hv] at h
  | _ => exact h

namespace Operator

variable {t : TypeTable} {s : Store}

/-- Arithmetic on two values of a type that it is for fails only where there is no result. -/
theorem error_arithmetic {op : Operator} {type : ValueType}
    (htype : type.isNumeric = true ∨ type = .text ∧ op = .add) {l r : Value} (hl : l ≠ .null)
    (hr : r ≠ .null) (hlt : t.conforms type l = true) (hrt : t.conforms type r = true) {e : Error}
    (h : op.arithmetic l r = .error e) : e = .arithmetic op l r := by
  -- a type leaves one kind of values, apart from null
  rcases htype with hnumeric | ⟨rfl, rfl⟩
  · cases type <;> try cases hnumeric
    all_goals
      cases l <;> first | exact absurd rfl hl | cases hlt
      cases r <;> first | exact absurd rfl hr | cases hrt
      try cases h
    -- what is left is the arithmetic of integers
    all_goals
      simp only [arithmetic] at h
      split at h <;> cases h
      rfl
  · cases l <;> first | exact absurd rfl hl | cases hlt
    cases r <;> first | exact absurd rfl hr | cases hrt
    cases h

/-- An operator on operands of a type that it takes fails only where arithmetic has no result. -/
theorem error_apply {op : Operator} {operand : ValueType} (htakes : op.Takes operand)
    (hop : op.isLogical = false) {l r : Value} (hl : t.conforms operand l = true)
    (hr : t.conforms operand r = true) {e : Error} (h : op.apply s l r = .error e) :
    e = .arithmetic op l r := by
  cases harith : op.isArithmetic with
  | false => cases op <;> first | cases hop; done | cases harith; done | cases h
  | true =>
    have hrule : op.apply s l r = if l.isNull || r.isNull then .ok .null else op.arithmetic l r := by
      cases op <;> first | rfl | cases harith
    rw [hrule] at h
    split at h
    · cases h
    · rename_i hnull
      have hlnull : l ≠ .null := by
        rintro rfl
        exact hnull rfl
      have hrnull : r ≠ .null := by
        rintro rfl
        exact hnull (Bool.or_true _)
      exact error_arithmetic (htakes.arithmetic harith) hlnull hrnull
        (TypeTable.conforms_underlying hl hlnull) (TypeTable.conforms_underlying hr hrnull) h

end Operator

/-! ## Expressions that yield objects -/

namespace Expr

/-- An expression that yields an object whenever it yields anything: one is made there, or members of
one were initialised. -/
inductive YieldsObject : Expr → Prop
  /-- An object is made. -/
  | construct (c : ConstructorRef) (es : List Expr) : YieldsObject (construct c es)
  /-- Members of an object were initialised. -/
  | memberInit (object : Expr) (bindings : List (AssignTarget × Expr)) :
    YieldsObject (memberInit object bindings)
  /-- Both branches yield one. -/
  | conditional {test thenExpr otherwise : Expr} (hthen : thenExpr.YieldsObject)
    (hotherwise : otherwise.YieldsObject) : YieldsObject (conditional test thenExpr otherwise)
  /-- The body of a binding does. -/
  | letIn {id : LocalId} {value body : Expr} (hbody : body.YieldsObject) :
    YieldsObject (letIn id value body)
  /-- The last of a sequence does. -/
  | sequence {front : List Expr} {last : Expr} (hlast : last.YieldsObject) :
    YieldsObject (sequence front last)

/-- Members are initialised on what is an object for certain. -/
def InitialisesObject : Expr → Prop
  | memberInit object _ => object.YieldsObject
  | _ => True

/-- The receiver of a call, or of reading or writing a field. -/
def receiver? : Expr → Option Expr
  | call _ receiver _ | fieldGet _ receiver | fieldSet _ receiver _ | writePrimitive _ receiver _ =>
    receiver
  | _ => none

end Expr

/-- What is evaluated is an object. -/
def Evaluation.Makes (x : Evaluation Value) : Prop :=
  ∀ frame s p s', (x.run frame).perform s = (.ok p, s') → ∃ ref, p.1 = .object ref

namespace Evaluation

theorem Makes.pure (ref : ObjectRef) : Makes (pure (.object ref)) := by
  intro frame s p s' h
  cases h
  exact ⟨ref, rfl⟩

theorem Makes.throw (e : Error) : Makes (MonadExcept.throw e) := by
  intro frame s p s' h
  cases h

/-- It is the last step that counts. -/
theorem Makes.bind {α : Type} (x : Evaluation α) {f : α → Evaluation Value} (h : ∀ v, Makes (f v)) :
    Makes (x >>= f) := by
  intro frame s p s' hrun
  rw [StateT.run_bind] at hrun
  obtain ⟨q, s₁, -, hrest⟩ := run_bind_eq_ok.1 hrun
  exact h q.1 q.2 s₁ p s' hrest

end Evaluation

open Evaluation in
theorem Expr.YieldsObject.makes {e : Expr} (h : e.YieldsObject) (m : Machine) (scope : Scope) :
    Makes (m.evaluate scope e) := by
  induction h with
  | construct c es =>
    rw [Machine.evaluate]
    exact .bind _ fun args => .bind _ fun ref => .pure ref
  | memberInit object bindings =>
    rw [Machine.evaluate]
    refine .bind _ fun v => ?_
    split
    · exact .bind _ fun _ => .pure _
    · exact .throw _
  | conditional _ _ hthen hotherwise =>
    rw [Machine.evaluate]
    refine .bind _ fun v => .bind _ fun b => ?_
    split
    · exact hthen
    · exact hotherwise
  | letIn _ hbody =>
    rw [Machine.evaluate]
    exact .bind _ fun v => .bind _ fun _ => hbody
  | sequence _ hlast =>
    rw [Machine.evaluate]
    exact .bind _ fun _ => hlast

namespace Setting

variable {k : Setting} {s s' : Store} {frame : List Value} {α β : Type} {E : Error → Prop}
  {post : α → Store → Prop}

/-! ## Steps of evaluation -/

/-- If a step of evaluation fails, then with such an error. -/
def Raises (s : Store) (frame : List Value) (x : Evaluation α) (E : Error → Prop) : Prop :=
  Action.Raises s (x.run frame) E

theorem Raises.pure (v : α) : Raises s frame (pure v) E := Action.Raises.pure _

theorem Raises.throw {e : Error} (h : E e) :
    Raises s frame (MonadExcept.throw e : Evaluation α) E := by
  intro e' he
  cases he
  exact h

theorem Raises.bind {x : Evaluation α} {f : α → Evaluation β} (hx : Raises s frame x E)
    (hk : k.Evaluates s frame x post)
    (hf : ∀ v s' frame', s'.WellTyped k.machine.types → s.Grows s' → k.Fits s' frame' → post v s' →
      Raises s' frame' (f v) E) : Raises s frame (x >>= f) E := by
  unfold Raises
  rw [StateT.run_bind]
  exact Action.Raises.bind hx hk fun p s' hs' hg hp => hf p.1 s' p.2 hs' hg hp.2 hp.1

theorem Raises.bind_pure {x : Evaluation α} (hx : Raises s frame x E) (f : α → β) :
    Raises s frame (x >>= fun v => Pure.pure (f v)) E := by
  unfold Raises
  rw [StateT.run_bind]
  exact Action.Raises.bind_pure hx fun p => (f p.1, p.2)

theorem Raises.discard {x : Evaluation α} (hx : Raises s frame x E) :
    Raises s frame (Functor.discard x) E := by
  rw [discard_eq_bind]
  exact hx.bind_pure _

/-- An action fails as it does by itself. -/
theorem Raises.lift {a : Action α} (hE : ∀ e : Error, e.Reported → E e)
    (ha : Action.Raises s a Error.Reported) : Raises s frame (liftM a) E :=
  Action.Raises.bind_pure (ha.imp hE) fun v => (v, frame)

/-- An evaluation that yields an object for certain, or need not. -/
theorem Evaluates.makes {x : Evaluation Value} {post : Value → Store → Prop} {p : Prop}
    (hx : k.Evaluates s frame x post) (h : p ∨ x.Makes) :
    k.Evaluates s frame x fun v s' => post v s' ∧ (p ∨ ∃ ref, v = .object ref) := by
  refine ⟨hx.wellTyped, hx.grows, fun q hq => ⟨⟨(hx.result q hq).1, ?_⟩, (hx.result q hq).2⟩⟩
  exact h.imp id fun hmakes => hmakes frame s q _ (Prod.ext hq rfl)

theorem raises_truth {v : Value} (hv : k.machine.types.conforms .bool v = true) :
    Raises s frame (truth v) E := by
  obtain ⟨b, rfl⟩ := TypeTable.conforms_bool hv
  exact .pure b

/-- A receiver that belongs to an object type is an object or null. -/
theorem raises_receiverOf (hE : ∀ e : Error, e.Reported → E e) {v : Value} {owner : TypeId}
    (hv : k.machine.types.conforms (.object owner) v = true) (member : String) :
    Raises s frame (receiverOf v member) E := by
  rcases TypeTable.conforms_object hv with rfl | ⟨ref, rfl, -⟩
  · exact .throw (hE _ ErrorClass.noConfusion)
  · exact .pure ref

theorem raises_operate (hs : s.WellTyped k.machine.types) (hf : k.Fits s frame)
    (hE : ∀ e : Error, e.Reported → E e) {op : Operator} {operand : ValueType}
    (htakes : op.Takes operand) (hop : op.isLogical = false) {l r : Value}
    (hl : k.machine.types.conforms operand l = true)
    (hr : k.machine.types.conforms operand r = true) : Raises s frame (operate op l r) E := by
  have hget : Action.Keeps k.machine.types s (get : Action Store) fun _ _ => True :=
    ⟨hs, Store.Grows.refl s, fun _ _ => trivial⟩
  have hgets : Action.Raises s (get : Action Store) Error.Reported := fun _ he => by cases he
  refine (Raises.lift hE hgets).bind (Evaluates.lift hf hget) fun seen s' frame' _ _ _ _ => ?_
  split
  · exact .pure _
  · rename_i e he
    rw [Operator.error_apply htakes hop hl hr he]
    exact .throw (hE _ ErrorClass.noConfusion)

/-- Writing a field fails as evaluating its receiver and its value does, and where the value does not
convert. -/
theorem raises_write (hm : k.machine.types.Declared) (hE : ∀ e : Error, e.Reported → E e)
    {f : FieldRef} (hfield : k.machine.types.HasField f) {x : Evaluation (Option ObjectRef)}
    {y : Evaluation Value}
    (hx : k.Evaluates s frame x fun ref s' => s'.Receives k.machine.types f.owner ref)
    (hxe : Raises s frame x E) {post : Value → Store → Prop}
    (hy : ∀ s' frame', s'.WellTyped k.machine.types → s.Grows s' → k.Fits s' frame' →
      k.Evaluates s' frame' y post ∧ Raises s' frame' y E) :
    Raises s frame (do
      let ref ← x
      let v ← y
      liftM (k.machine.storeField f ref v)
      Pure.pure Value.null) E := by
  refine hxe.bind hx fun ref s₁ f₁ hs₁ hg₁ hf₁ href => ?_
  obtain ⟨hyk, hye⟩ := hy s₁ f₁ hs₁ hg₁ hf₁
  refine hye.bind hyk fun v s₂ f₂ hs₂ hg₂ _ _ => ?_
  exact (Raises.lift hE (Machine.raises_storeField hm hs₂ hfield (href.mono hg₂) v)).bind_pure _

/-- An initialiser stores into a slot that the object has. -/
theorem raises_assign {m : Machine} (hm : m.types.Declared) (hn : m.Reporting)
    (hs : s.WellTyped m.types) {object : TypeId} {target : AssignTarget} {type : ValueType}
    (ht : Expr.TargetTyped m.types object target type) {ref : ObjectRef}
    (href : s.Live (.object ref)) (hsub : m.types.isSubtype ref.type object = true) {v : Value}
    (hv : s.Live v) : Action.Raises s (m.assign ref target v) Error.Reported := by
  cases target with
  | field f =>
    have hreceives := Store.receives_of_isSubtype href hsub ht.field.2
    exact Machine.raises_storeField hm hs ht.hasTarget hreceives v
  | primitive f =>
    have hreceives := Store.receives_of_isSubtype href hsub ht.primitive
    exact Machine.raises_storeField hm hs ht.hasTarget hreceives v
  | setter r =>
    obtain ⟨⟨p, hp, -⟩, howner⟩ := ht.setter
    have hreceives := Store.receives_of_isSubtype href hsub howner
    exact Action.Raises.map (Machine.raises_invoke hm hn hs ht.hasTarget hreceives
      (by simpa using hv) (by simp [hp])) _

/-- A logical operator fails as its operands do. -/
theorem raises_logical {op : Operator} (hop : op.isLogical = true) {lhs rhs : Expr}
    (hl : k.Evaluates s frame (k.machine.evaluate k.scope lhs) (k.Has .bool))
    (hle : Raises s frame (k.machine.evaluate k.scope lhs) E)
    (hr : ∀ s' frame', s'.WellTyped k.machine.types → s.Grows s' → k.Fits s' frame' →
      Raises s' frame' (k.machine.evaluate k.scope rhs) E) :
    Raises s frame (k.machine.evaluate k.scope (.binary op lhs rhs)) E := by
  cases op <;> cases hop <;> rw [Machine.evaluate]
  · refine hle.bind hl fun v s₁ f₁ hs₁ hg₁ hf₁ hv => ?_
    refine (raises_truth hv.conforms).bind (evaluates_truth hs₁ hf₁ hv.conforms)
      fun b s₂ f₂ hs₂ hg₂ hf₂ _ => ?_
    split
    · exact hr s₂ f₂ hs₂ (hg₁.trans hg₂) hf₂
    · exact .pure _
  · refine hle.bind hl fun v s₁ f₁ hs₁ hg₁ hf₁ hv => ?_
    refine (raises_truth hv.conforms).bind (evaluates_truth hs₁ hf₁ hv.conforms)
      fun b s₂ f₂ hs₂ hg₂ hf₂ _ => ?_
    split
    · exact .pure _
    · exact hr s₂ f₂ hs₂ (hg₁.trans hg₂) hf₂

/-! ## The evaluator -/

/-- Every failure of class internal is in the set, if the expression has a node that can bring it about. -/
def Covers (E : Error → Prop) (e : Expr) : Prop :=
  e.Each fun n => E .initialisedNothing ∨ n.InitialisesObject

open Expr in
mutual

/-- Evaluating an expression fails with reported errors, or because members are initialised on null. -/
theorem raises_evaluate {k : Setting} (hm : k.machine.types.Declared)
    (hw : k.machine.WellBehaved) (hn : k.machine.Reporting) {E : Error → Prop}
    (hE : ∀ e : Error, e.Reported → E e) {s : Store} {frame : List Value}
    (hs : s.WellTyped k.machine.types) (hf : k.Fits s frame) :
    (e : Expr) → k.Ready s e → e.checkScopes k.bound = .ok () → Covers E e →
      Raises s frame (k.machine.evaluate k.scope e) E
  | .binary op lhs rhs, he, hc, hi => by
    obtain ⟨hnode, hlhs, hrhs⟩ := each_binary.1 he
    obtain ⟨-, hil, hir⟩ := each_binary.1 hi
    obtain ⟨htype, htakes⟩ := hnode.typed
    rw [checkScopes] at hc
    obtain ⟨_, hcl, hcr⟩ := bind_eq_ok.1 hc
    have hl := evaluates_evaluate hm hw hs hf lhs hlhs hcl
    have hle := raises_evaluate hm hw hn hE hs hf lhs hlhs hcl hil
    cases hop : op.isLogical with
    | true =>
      rw [htakes.logical hop] at hl
      exact raises_logical hop hl hle fun s' frame' hs' hg hf' =>
        raises_evaluate hm hw hn hE hs' hf' rhs (Ready.mono hrhs hg) hcr hir
    | false =>
      rw [Machine.evaluate_strict _ _ hop]
      refine hle.bind hl fun l s₁ f₁ hs₁ hg₁ hf₁ hlv => ?_
      have hrhs₁ := Ready.mono hrhs hg₁
      refine (raises_evaluate hm hw hn hE hs₁ hf₁ rhs hrhs₁ hcr hir).bind
        (evaluates_evaluate hm hw hs₁ hf₁ rhs hrhs₁ hcr) fun r s₂ f₂ hs₂ hg₂ hf₂ hrv => ?_
      have hr := hrv.conforms
      rw [← htype] at hr
      exact raises_operate hs₂ hf₂ hE htakes hop hlv.conforms hr
  | .call method receiver es, he, hc, hi => by
    obtain ⟨hnode, hrec, hes⟩ := each_call.1 he
    obtain ⟨-, hirec, hies⟩ := each_call.1 hi
    obtain ⟨hmethod, hreceiver, htypes⟩ := hnode.typed
    rw [checkScopes] at hc
    obtain ⟨_, hcr, hces⟩ := bind_eq_ok.1 hc
    rw [Machine.evaluate]
    refine (raises_evaluateReceiver hm hw hn hE hs hf _ receiver hreceiver hrec hcr hirec).bind
      (evaluates_evaluateReceiver hm hw hs hf method.method.name receiver hreceiver hrec hcr)
      fun ref s₁ f₁ hs₁ hg₁ hf₁ href => ?_
    have hes₁ : ∀ e ∈ es, k.Ready s₁ e := fun e he => Ready.mono (hes e he) hg₁
    refine (raises_evaluateAll hm hw hn hE hs₁ hf₁ es hes₁ hces hies).bind
      (evaluates_evaluateAll hm hw hs₁ hf₁ es hes₁ hces) fun args s₂ f₂ hs₂ hg₂ hf₂ hargs => ?_
    have hconf := TypeTable.forall₂_conforms_parameters htypes hargs.2
    have hlength := hconf.length_eq.symm
    refine (Raises.lift hE (Machine.raises_invoke hm hn hs₂ hmethod (href.mono hg₂) hargs.1
      hlength)).bind (Evaluates.lift hf₂ (Machine.keeps_invoke hm hw hs₂ hmethod (href.mono hg₂)
      hargs.1 hconf)) fun v s₃ f₃ _ _ _ _ => ?_
    exact .lift hE (.ofCast _)
  | .conditional test thenExpr otherwise, he, hc, hi => by
    obtain ⟨hnode, htest, hthen, hotherwise⟩ := each_conditional.1 he
    obtain ⟨-, hitest, hithen, hiotherwise⟩ := each_conditional.1 hi
    obtain ⟨hbool, -⟩ := hnode.typed
    rw [checkScopes] at hc
    obtain ⟨_, hct, hc⟩ := bind_eq_ok.1 hc
    obtain ⟨_, hc₁, hc₂⟩ := bind_eq_ok.1 hc
    rw [Machine.evaluate]
    refine (raises_evaluate hm hw hn hE hs hf test htest hct hitest).bind
      (evaluates_evaluate hm hw hs hf test htest hct) fun v s₁ f₁ hs₁ hg₁ hf₁ hv => ?_
    have hvbool := hv.conforms
    rw [hbool] at hvbool
    refine (raises_truth hvbool).bind (evaluates_truth hs₁ hf₁ hvbool)
      fun b s₂ f₂ hs₂ hg₂ hf₂ _ => ?_
    have hg := hg₁.trans hg₂
    split
    · exact raises_evaluate hm hw hn hE hs₂ hf₂ thenExpr (Ready.mono hthen hg) hc₁ hithen
    · exact raises_evaluate hm hw hn hE hs₂ hf₂ otherwise (Ready.mono hotherwise hg) hc₂ hiotherwise
  | .constant v type, _, _, _ => by
    rw [Machine.evaluate]
    exact .pure v
  | .convert rule operand type, he, hc, hi => by
    obtain ⟨-, hoperand⟩ := each_convert.1 he
    rw [checkScopes] at hc
    rw [Machine.evaluate]
    refine (raises_evaluate hm hw hn hE hs hf operand hoperand hc (each_convert.1 hi).2).bind
      (evaluates_evaluate hm hw hs hf operand hoperand hc) fun v s₁ f₁ _ _ _ _ => ?_
    exact .lift hE (.ofCast _)
  | .zero type, _, _, _ => by
    rw [Machine.evaluate]
    exact .pure _
  | .fieldGet f receiver, he, hc, hi => by
    obtain ⟨hnode, hrec⟩ := each_fieldGet.1 he
    obtain ⟨hfield, hreceiver⟩ := hnode.typed
    rw [checkScopes] at hc
    rw [Machine.evaluate]
    refine (raises_evaluateReceiver hm hw hn hE hs hf _ receiver hreceiver hrec hc
      (each_fieldGet.1 hi).2).bind
      (evaluates_evaluateReceiver hm hw hs hf f.field.name receiver hreceiver hrec hc)
      fun ref s₁ f₁ hs₁ hg₁ hf₁ href => ?_
    exact .lift hE (Machine.raises_loadField hm hs₁ hfield href)
  | .fieldSet f receiver value, he, hc, hi => by
    obtain ⟨hnode, hrec, hvalue⟩ := each_fieldSet.1 he
    obtain ⟨-, hirec, hivalue⟩ := each_fieldSet.1 hi
    obtain ⟨hfield, hreceiver, -⟩ := hnode.typed
    rw [checkScopes] at hc
    obtain ⟨_, hcr, hcv⟩ := bind_eq_ok.1 hc
    rw [Machine.evaluate]
    exact raises_write hm hE hfield
      (evaluates_evaluateReceiver hm hw hs hf f.field.name receiver hreceiver hrec hcr)
      (raises_evaluateReceiver hm hw hn hE hs hf _ receiver hreceiver hrec hcr hirec)
      fun s₁ f₁ hs₁ hg₁ hf₁ =>
        ⟨evaluates_evaluate hm hw hs₁ hf₁ value (Ready.mono hvalue hg₁) hcv,
          raises_evaluate hm hw hn hE hs₁ hf₁ value (Ready.mono hvalue hg₁) hcv hivalue⟩
  | .index list position, he, hc, hi => by
    obtain ⟨hnode, hlist⟩ := each_index.1 he
    rw [checkScopes] at hc
    rw [Machine.evaluate]
    refine (raises_evaluate hm hw hn hE hs hf list hlist hc (each_index.1 hi).2).bind
      (evaluates_evaluate hm hw hs hf list hlist hc) fun v s₁ f₁ _ _ _ _ => ?_
    split
    · split
      · exact .pure _
      · exact .throw (hE _ ErrorClass.noConfusion)
    · exact .throw (hE _ ErrorClass.noConfusion)
  | .letIn id value body, he, hc, hi => by
    obtain ⟨hnode, hvalue, hbody⟩ := each_letIn.1 he
    obtain ⟨-, hivalue, hibody⟩ := each_letIn.1 hi
    obtain ⟨-, htype⟩ := hnode.typed
    rw [checkScopes] at hc
    obtain ⟨_, hcv, hcb⟩ := bind_eq_ok.1 hc
    rw [Machine.evaluate]
    refine (raises_evaluate hm hw hn hE hs hf value hvalue hcv hivalue).bind
      (evaluates_evaluate hm hw hs hf value hvalue hcv) fun v s₁ f₁ hs₁ hg₁ hf₁ hv => ?_
    have hconf := hv.conforms
    rw [← htype] at hconf
    have hf₁' := hf₁.set hnode.hasSlot hv.live hconf
    exact raises_evaluate (k := k.bind id) hm hw hn hE hs₁ hf₁' body
      (Each.imp (Ready.mono hbody hg₁) fun _ hn => hn.bind id) hcb hibody
  | .readLocal id type, _, _, _ => by
    rw [Machine.evaluate]
    exact fun e he => by cases he
  | .memberInit object bindings, he, hc, hi => by
    obtain ⟨hnode, hobject, hbindings⟩ := each_memberInit.1 he
    obtain ⟨hthere, hiobject, hibindings⟩ := each_memberInit.1 hi
    obtain ⟨target, htarget, htargets⟩ := hnode.typed
    rw [checkScopes] at hc
    obtain ⟨_, hco, hcb⟩ := bind_eq_ok.1 hc
    rw [Machine.evaluate]
    have hmakes := hthere.imp id fun h => h.makes k.machine k.scope
    refine (raises_evaluate hm hw hn hE hs hf object hobject hco hiobject).bind
      ((evaluates_evaluate hm hw hs hf object hobject hco).makes hmakes)
      fun v s₁ f₁ hs₁ hg₁ hf₁ hv => ?_
    obtain ⟨hv, hobjectOr⟩ := hv
    have hconf := hv.conforms
    rw [htarget] at hconf
    rcases TypeTable.conforms_object hconf with rfl | ⟨ref, rfl, hsub⟩
    · rcases hobjectOr with hnothing | ⟨ref, href⟩
      · exact .throw hnothing
      · cases href
    · exact (raises_initialise hm hw hn hE hs₁ hf₁ hv.live hsub bindings
        (fun b hb => Ready.mono (hbindings b hb) hg₁) htargets hcb hibindings).bind_pure _
  | .navigate receiver member, he, hc, hi => by
    obtain ⟨hnode, hrec⟩ := each_navigate.1 he
    obtain ⟨hmember, -, -, htype⟩ := hnode.typed
    rw [checkScopes] at hc
    rw [Machine.evaluate]
    refine (raises_evaluate hm hw hn hE hs hf receiver hrec hc (each_navigate.1 hi).2).bind
      (evaluates_evaluate hm hw hs hf receiver hrec hc) fun v s₁ f₁ hs₁ hg₁ hf₁ hv => ?_
    have hconf := hv.conforms
    rw [htype] at hconf
    rcases TypeTable.conforms_object hconf with rfl | ⟨ref, rfl, hsub⟩
    · exact .pure _
    · have hreceives : s₁.Receives k.machine.types member.owner (some ref) := by
        rintro _ ⟨⟩
        exact ⟨hv.live, hsub⟩
      exact .lift hE (Machine.raises_load hm hn hs₁ hmember hreceives)
  | .construct ctor es, he, hc, hi => by
    obtain ⟨hnode, hes⟩ := each_construct.1 he
    obtain ⟨hctor, htypes⟩ := hnode.typed
    rw [checkScopes] at hc
    rw [Machine.evaluate]
    refine (raises_evaluateAll hm hw hn hE hs hf es hes hc (each_construct.1 hi).2).bind
      (evaluates_evaluateAll hm hw hs hf es hes hc) fun args s₁ f₁ hs₁ hg₁ hf₁ hargs => ?_
    have hlength : args.length = ctor.constructor.parameters.length := by
      have := congrArg List.length htypes
      simpa [hargs.2.length_eq] using this
    exact (Raises.lift hE (Machine.raises_construct hm hn hs₁ hctor hargs.1 hlength)).bind_pure _
  | .negate operand, he, hc, hi => by
    obtain ⟨hnode, hoperand⟩ := each_negate.1 he
    rw [checkScopes] at hc
    rw [Machine.evaluate]
    refine (raises_evaluate hm hw hn hE hs hf operand hoperand hc (each_negate.1 hi).2).bind
      (evaluates_evaluate hm hw hs hf operand hoperand hc) fun v s₁ f₁ hs₁ hg₁ hf₁ hv => ?_
    have hconf := hv.conforms
    rw [show operand.type = .bool from hnode.typed] at hconf
    exact (raises_truth hconf).bind_pure _
  | .parameter place type, he, _, _ => by
    obtain ⟨v, hv, -⟩ := exists_argument hf (each_parameter.1 he).declared
    rw [Machine.evaluate, hv]
    exact .pure v
  | .sequence front last, he, hc, hi => by
    obtain ⟨-, hfront, hlast⟩ := each_sequence.1 he
    obtain ⟨-, hifront, hilast⟩ := each_sequence.1 hi
    rw [checkScopes] at hc
    obtain ⟨_, hcf, hcl⟩ := bind_eq_ok.1 hc
    rw [Machine.evaluate]
    refine (raises_evaluateAll hm hw hn hE hs hf front hfront hcf hifront).discard.bind
      (evaluates_evaluateAll hm hw hs hf front hfront hcf).discard
      fun _ s₁ f₁ hs₁ hg₁ hf₁ _ => ?_
    exact raises_evaluate hm hw hn hE hs₁ hf₁ last (Ready.mono hlast hg₁) hcl hilast
  | .writePrimitive f receiver value, he, hc, hi => by
    obtain ⟨hnode, hrec, hvalue⟩ := each_writePrimitive.1 he
    obtain ⟨-, hirec, hivalue⟩ := each_writePrimitive.1 hi
    obtain ⟨hfield, hreceiver, -⟩ := hnode.typed
    rw [checkScopes] at hc
    obtain ⟨_, hcr, hcv⟩ := bind_eq_ok.1 hc
    rw [Machine.evaluate]
    exact raises_write hm hE hfield
      (evaluates_evaluateReceiver hm hw hs hf f.field.name receiver hreceiver hrec hcr)
      (raises_evaluateReceiver hm hw hn hE hs hf _ receiver hreceiver hrec hcr hirec)
      fun s₁ f₁ hs₁ hg₁ hf₁ =>
        ⟨evaluates_evaluate hm hw hs₁ hf₁ value (Ready.mono hvalue hg₁) hcv,
          raises_evaluate hm hw hn hE hs₁ hf₁ value (Ready.mono hvalue hg₁) hcv hivalue⟩

theorem raises_evaluateAll {k : Setting} (hm : k.machine.types.Declared)
    (hw : k.machine.WellBehaved) (hn : k.machine.Reporting) {E : Error → Prop}
    (hE : ∀ e : Error, e.Reported → E e) {s : Store} {frame : List Value}
    (hs : s.WellTyped k.machine.types) (hf : k.Fits s frame) :
    (es : List Expr) → (∀ e ∈ es, k.Ready s e) → checkAllScopes k.bound es = .ok () →
      (∀ e ∈ es, Covers E e) → Raises s frame (k.machine.evaluateAll k.scope es) E
  | [], _, _, _ => by
    rw [Machine.evaluateAll]
    exact .pure []
  | e :: es, hes, hc, hi => by
    rw [checkAllScopes] at hc
    obtain ⟨_, hce, hces⟩ := bind_eq_ok.1 hc
    have he := hes e (List.mem_cons_self ..)
    rw [Machine.evaluateAll]
    refine (raises_evaluate hm hw hn hE hs hf e he hce (hi e (List.mem_cons_self ..))).bind
      (evaluates_evaluate hm hw hs hf e he hce) fun v s₁ f₁ hs₁ hg₁ hf₁ _ => ?_
    exact (raises_evaluateAll hm hw hn hE hs₁ hf₁ es
      (fun e he => Ready.mono (hes e (List.mem_cons_of_mem _ he)) hg₁) hces
      fun e he => hi e (List.mem_cons_of_mem _ he)).bind_pure _

theorem raises_evaluateReceiver {k : Setting} (hm : k.machine.types.Declared)
    (hw : k.machine.WellBehaved) (hn : k.machine.Reporting) {E : Error → Prop}
    (hE : ∀ e : Error, e.Reported → E e) {s : Store} {frame : List Value}
    (hs : s.WellTyped k.machine.types) (hf : k.Fits s frame) (member : String) {owner : TypeId}
    {isStatic : Bool} :
    (receiver : Option Expr) → ReceiverTyped owner isStatic receiver →
      (∀ e, receiver = some e → k.Ready s e) → checkReceiverScopes k.bound receiver = .ok () →
      (∀ e, receiver = some e → Covers E e) →
      Raises s frame (k.machine.evaluateReceiver k.scope member receiver) E
  | none, _, _, _, _ => by
    rw [Machine.evaluateReceiver]
    exact .pure none
  | some e, htyped, he, hc, hi => by
    rw [checkReceiverScopes] at hc
    rw [Machine.evaluateReceiver]
    refine (raises_evaluate hm hw hn hE hs hf e (he e rfl) hc (hi e rfl)).bind
      (evaluates_evaluate hm hw hs hf e (he e rfl) hc) fun v s₁ f₁ _ _ _ hv => ?_
    have hconf := hv.conforms
    rw [htyped.2] at hconf
    exact (raises_receiverOf hE hconf member).bind_pure _

theorem raises_initialise {k : Setting} (hm : k.machine.types.Declared)
    (hw : k.machine.WellBehaved) (hn : k.machine.Reporting) {E : Error → Prop}
    (hE : ∀ e : Error, e.Reported → E e) {s : Store} {frame : List Value}
    (hs : s.WellTyped k.machine.types) (hf : k.Fits s frame) {ref : ObjectRef} {object : TypeId}
    (href : s.Live (.object ref)) (hsub : k.machine.types.isSubtype ref.type object = true) :
    (bindings : List (AssignTarget × Expr)) → (∀ b ∈ bindings, k.Ready s b.2) →
      (∀ b ∈ bindings, TargetTyped k.machine.types object b.1 b.2.type) →
      checkBindingScopes k.bound bindings = .ok () → (∀ b ∈ bindings, Covers E b.2) →
      Raises s frame (k.machine.initialise k.scope ref bindings) E
  | [], _, _, _, _ => by
    rw [Machine.initialise]
    exact .pure ()
  | (target, e) :: bindings, hb, ht, hc, hi => by
    rw [checkBindingScopes] at hc
    obtain ⟨_, hce, hcb⟩ := bind_eq_ok.1 hc
    have he := hb _ (List.mem_cons_self ..)
    have htarget := ht _ (List.mem_cons_self ..)
    rw [Machine.initialise]
    refine (raises_evaluate hm hw hn hE hs hf e he hce (hi _ (List.mem_cons_self ..))).bind
      (evaluates_evaluate hm hw hs hf e he hce) fun v s₁ f₁ hs₁ hg₁ hf₁ hv => ?_
    refine (Raises.lift hE (raises_assign hm hn hs₁ htarget (href.mono hg₁) hsub hv.live)).bind
      (Evaluates.lift hf₁ (Machine.keeps_assign hm hw hs₁ htarget (href.mono hg₁) hsub hv.live hv.conforms))
      fun _ s₂ f₂ hs₂ hg₂ hf₂ _ => ?_
    have hg := hg₁.trans hg₂
    exact raises_initialise hm hw hn hE hs₂ hf₂ (href.mono hg) hsub bindings
      (fun b hb' => Ready.mono (hb b (List.mem_cons_of_mem _ hb')) hg)
      (fun b hb' => ht b (List.mem_cons_of_mem _ hb')) hcb
      fun b hb' => hi b (List.mem_cons_of_mem _ hb')

end

end Setting

/-! ## Null receivers -/

namespace Machine

variable {m : Machine} {scope : Scope} {frame frame' : List Value} {s s' : Store}

theorem perform_evaluateReceiver_of_null (member : String) {e : Expr}
    (he : ((m.evaluate scope e).run frame).perform s = (.ok (.null, frame'), s')) :
    ((m.evaluateReceiver scope member (some e)).run frame).perform s =
      (.error (.nullReceiver member), s') := by
  rw [evaluateReceiver, StateT.run_bind, Action.perform_bind_ok he]
  rfl

/-- A call, and reading or writing a field, reports that its receiver is null. -/
theorem perform_evaluate_of_null {e receiver : Expr} (hreceiver : e.receiver? = some receiver)
    (hnull : ((m.evaluate scope receiver).run frame).perform s = (.ok (.null, frame'), s')) :
    ∃ member, ((m.evaluate scope e).run frame).perform s = (.error (.nullReceiver member), s') := by
  cases e <;> cases hreceiver
  all_goals
    rw [evaluate, StateT.run_bind]
    exact ⟨_, Action.perform_bind_error (perform_evaluateReceiver_of_null _ hnull)⟩

/-! ## Running lambdas -/

/-- Arguments of other types are reported. -/
theorem error_checkArguments {types : List ValueType} {args : List Value} {i : Nat} {e : Error}
    (h : m.checkArguments i types args = .error e) :
    ∃ i label type, e = .wrongArgument i label type := by
  induction types generalizing args i with
  | nil => cases h
  | cons type types ih =>
    cases args with
    | nil => cases h
    | cons v args =>
      simp only [checkArguments] at h
      split at h
      · exact ih h
      · cases h
        exact ⟨_, _, _, rfl⟩

/-- Running a lambda with a well-typed body fails with reported errors, or because members are
initialised on null. -/
theorem raises_run (hm : m.types.Declared) (hw : m.WellBehaved) (hn : m.Reporting)
    {E : Error → Prop} (hE : ∀ e : Error, e.Reported → E e) {c : Expr.Context}
    {parameters : List ParameterDecl} {body : Expr} {l : Lambda}
    (hl : Lambda.make parameters body = .ok l) (htyped : body.Typed m.types c)
    (hcovers : Setting.Covers E body) (hs : s.WellTyped m.types)
    (hliterals : ∀ v type, .constant v type ∈ body.nodes → s.Live v) {args : List Value}
    (hargs : ∀ v ∈ args, s.Live v) : Action.Raises s (m.run l.compile args) E := by
  obtain ⟨rfl, hparameters, hscopes⟩ := Lambda.of_make hl
  simp only [run]
  by_cases hlength : args.length ≠ (Lambda.compile ⟨parameters, body⟩).parameters.length
  · rw [if_pos hlength]
    exact .throw (hE _ ErrorClass.noConfusion)
  · rw [if_neg hlength]
    simp only [ne_eq, Classical.not_not] at hlength
    split
    · rename_i e he
      obtain ⟨i, label, type, rfl⟩ := error_checkArguments he
      exact .throw (hE _ ErrorClass.noConfusion)
    · rename_i hcheck
      have hfits := Setting.fits_ofLambda c parameters body
        (forall₂_of_checkArguments hcheck hlength) hargs
      have hready := Setting.ready_ofLambda args htyped hparameters hliterals
      exact (Setting.raises_evaluate hm hw hn hE hs hfits body hready hscopes hcovers).map _

end Machine

namespace Draft

/-- Sets the size of a box. -/
def setSize : MethodRef :=
  ⟨0, 1, ⟨"set_Size", [⟨"value", .int32, none⟩], none, false, .open, .storeSlot 0⟩⟩

/-- Boxes have a size. -/
def boxes : TypeTable :=
  TypeTable.empty.push ⟨"Box", .declared, none, [], [], [],
    [⟨"Size", .int32, .open, .open, false, some 0, some 0, some 1⟩],
    [⟨"get_Size", [], some .int32, false, .open, .loadSlot 0⟩, setSize.method],
    [⟨[], .open, .assign []⟩], [.int32], []⟩

/-- A machine with boxes and without supplied bodies. -/
def boxMachine : Machine := ⟨boxes, fun _ _ _ => pure .null, fun _ _ _ => pure ()⟩

/-- The size of null is to become one. -/
def resized : Expr :=
  .memberInit (.zero (.object 0)) [(.setter setSize, .constant (.int32 1) .int32)]

/-- What leads to `resized`. -/
def resizing : Draft where
  types := boxes
  next := 0
  drawn := []
  built := [resized, .constant (.int32 1) .int32, .zero (.object 0)]

theorem declared_boxes : boxes.Declared :=
  .declare (d := ⟨"Box", .declared, none, [], [], [], [⟨"Size", .int32, .open, .open, false, .slot⟩], [],
    []⟩) .empty (by simp) rfl

theorem reached_resizing : resizing.Reached := by
  have h₀ : Steps ⟨boxes, 0, [], []⟩ ⟨boxes, 0, [], []⟩ := .refl
  have h₁ := h₀.tail (.make (.zero (.object 0)))
  have hone : boxes.Holds (.int32 1) := by simp [TypeTable.Holds, Value.refs]
  have h₂ := h₁.tail (.make (.literal hone))
  have hinit : Expr.mkMemberInit boxes (.zero (.object 0))
      [(.setter setSize, .constant (.int32 1) .int32)] = .ok resized := rfl
  have htarget : ∀ b ∈ [(AssignTarget.setter setSize, Expr.constant (.int32 1) .int32)],
      boxes.HasTarget b.1 := by
    intro b hb
    rw [List.mem_singleton.1 hb]
    exact rfl
  have h₃ := h₂.tail (.make (.memberInit (List.mem_cons_of_mem _ (List.mem_cons_self ..)) htarget
    (by simp [add, Expr.literal, TypeTable.naturalType?]) hinit))
  exact ⟨_, _, h₃⟩

theorem wellBehaved_boxMachine : boxMachine.WellBehaved := by
  refine ⟨fun _ _ _ s hs _ _ => .pure hs (Store.live_null s), fun _ _ _ _ hs _ _ => .pure hs trivial,
    fun p g body _ _ hp hg hbody => ?_⟩
  have howner : p.owner = 0 := Nat.lt_one_iff.1 hp.owner_lt
  obtain ⟨hmethod, hgowner, -⟩ := hp.getter (declared_boxes.sound _ hp.owner_lt) hg
  have hmem : g.method ∈ (boxes.model 0).methods := howner ▸ hgowner ▸ hmethod.mem
  have hgenerated : ∀ g ∈ (boxes.model 0).methods, g.body = .loadSlot 0 ∨ g.body = .storeSlot 0 := by
    decide
  rcases hgenerated _ hmem with h | h <;> cases hbody.symm.trans h

theorem reporting_boxMachine : boxMachine.Reporting :=
  ⟨fun _ _ _ _ _ _ _ => .pure _, fun _ _ _ _ _ _ _ => .pure _⟩

theorem run_resized : (boxMachine.run (Lambda.compile ⟨[], resized⟩) []).perform .empty =
    (.error .initialisedNothing, .empty) := by
  have hbody : boxMachine.evaluate ⟨[], []⟩ resized = throw .initialisedNothing := by
    rw [resized, Machine.evaluate, Machine.evaluate]
    rfl
  have hrun : boxMachine.run (Lambda.compile ⟨[], resized⟩) [] =
      (boxMachine.evaluate ⟨[], []⟩ resized).run' [] := rfl
  rw [hrun, hbody]
  rfl

theorem live_resized : ∀ v type, Expr.constant v type ∈ resized.nodes → Store.empty.Live v := by
  intro v type hv
  simp only [resized, Expr.nodes, Expr.bindingNodes, List.append_nil, List.cons_append,
    List.nil_append, List.mem_cons, reduceCtorEq, List.not_mem_nil, or_false, false_or,
    Expr.constant.injEq] at hv
  rw [hv.1]
  exact fun _ h => by simp [Value.refs] at h

end Draft
end Reshape
