import Reshape.Proofs.Expr.Arithmetic
import Reshape.Proofs.Expr.Slots
import Reshape.Proofs.Store.Access

/-!
# Evaluation under a discipline

A well-typed expression yields a value of its type, and keeps what the operations of its nodes keep.  Of
each node it is asked that its operation, used on what typing promises, leaves the store as the discipline
asks and yields what the node says (`Discipline.Allows`).  During evaluation every local that is in scope
has a slot in the frame, and the slot holds a value of the type that the number was drawn for
(`Setting.Fits`).
-/

namespace Reshape

/-- What evaluation takes place in, apart from the store and the frame. -/
structure Setting where
  /-- The code that expressions run. -/
  machine : Machine
  /-- Types of the local bindings. -/
  context : Expr.Context
  /-- The parameters of the enclosing lambda. -/
  parameters : List ParameterDecl
  /-- Arguments and layout. -/
  scope : Scope
  /-- The local bindings that are in scope. -/
  bound : List LocalId

namespace Setting

variable {k : Setting} {s s' : Store} {frame : List Value}

/-- The local binding is in scope too. -/
def bind (k : Setting) (id : LocalId) : Setting :=
  { k with bound := id :: k.bound }

/-- Frame and arguments hold what their types say. -/
structure Fits (k : Setting) (s : Store) (frame : List Value) : Prop where
  /-- The frame has all slots. -/
  length : frame.length = k.scope.layout.length
  /-- What is in scope holds a value of its type. -/
  bound : ∀ id ∈ k.bound, ∃ v, frame[k.scope.layout.idxOf id]? = some v ∧ s.Live v ∧
    k.machine.types.conforms (k.context.type id) v = true
  /-- Arguments belong to the types of their parameters. -/
  args : List.Forall₂ (fun p v => k.machine.types.conforms p.type v = true) k.parameters
    k.scope.args
  /-- Arguments are in the store. -/
  live : ∀ v ∈ k.scope.args, s.Live v

theorem Fits.mono (h : k.Fits s frame) (hg : s.Grows s') : k.Fits s' frame := by
  refine ⟨h.length, fun id hid => ?_, h.args, fun v hv => (h.live v hv).mono hg⟩
  obtain ⟨v, hv, hlive, hconf⟩ := h.bound id hid
  exact ⟨v, hv, hlive.mono hg, hconf⟩

/-- Binding a local puts its value into its slot, and leaves the slots of the others. -/
theorem Fits.set (h : k.Fits s frame) {id : LocalId} (hid : id ∈ k.scope.layout) {v : Value}
    (hlive : s.Live v) (hconf : k.machine.types.conforms (k.context.type id) v = true) :
    (k.bind id).Fits s (frame.set (k.scope.layout.idxOf id) v) := by
  refine ⟨by simpa [bind] using h.length, fun other hother => ?_, h.args, h.live⟩
  have hslot := Expr.getElem?_set_idxOf h.length hid v other
  by_cases heq : other = id
  · rw [if_pos heq] at hslot
    exact ⟨v, hslot, hlive, heq ▸ hconf⟩
  · rw [if_neg heq] at hslot
    obtain ⟨w, hw, hwlive, hwconf⟩ := h.bound other ((List.mem_cons.1 hother).resolve_left heq)
    exact ⟨w, hslot.trans hw, hwlive, hwconf⟩

theorem Fits.unbind {id : LocalId} (h : (k.bind id).Fits s frame) : k.Fits s frame :=
  ⟨h.length, fun other hother => h.bound other (List.mem_cons_of_mem _ hother), h.args, h.live⟩

/-! ## Expressions that can be evaluated -/

/-- A node is well typed, refers to a declared parameter, has a slot for what it binds, and refers to
objects that are in the store. -/
structure NodeReady (k : Setting) (s : Store) (e : Expr) : Prop where
  /-- It is well typed. -/
  typed : e.NodeTyped k.machine.types k.context
  /-- A parameter is declared. -/
  declared : e.checkParameter k.parameters = .ok ()
  /-- A local binding has a slot. -/
  hasSlot : e.HasSlot k.scope.layout
  /-- Objects in literals are in the store. -/
  live : ∀ v type, e = .constant v type → s.Live v

theorem NodeReady.mono {e : Expr} (h : k.NodeReady s e) (hg : s.Grows s') : k.NodeReady s' e :=
  ⟨h.typed, h.declared, h.hasSlot, fun v type he => (h.live v type he).mono hg⟩

theorem NodeReady.bind {e : Expr} (h : k.NodeReady s e) (id : LocalId) :
    (k.bind id).NodeReady s e :=
  ⟨h.typed, h.declared, h.hasSlot, h.live⟩

/-- Every node of an expression can be evaluated. -/
def Ready (k : Setting) (s : Store) (e : Expr) : Prop :=
  e.Each (k.NodeReady s)

theorem Ready.mono {e : Expr} (h : k.Ready s e) (hg : s.Grows s') : k.Ready s' e :=
  h.imp fun _ hn => hn.mono hg

/-- A value belongs to a type, and is in the store. -/
structure Has (k : Setting) (type : ValueType) (v : Value) (s : Store) : Prop where
  /-- It is in the store. -/
  live : s.Live v
  /-- It belongs to the type. -/
  conforms : k.machine.types.conforms type v = true

theorem Has.mono {type : ValueType} {v : Value} (h : k.Has type v s) (hg : s.Grows s') :
    k.Has type v s' :=
  ⟨h.live.mono hg, h.conforms⟩

/-! ## What is in scope -/

/-- What is read from the frame is of the type that the number was drawn for. -/
theorem has_readLocal (hf : k.Fits s frame) {id : LocalId} (hid : id ∈ k.bound) :
    k.Has (k.context.type id) (frame[k.scope.layout.idxOf id]?.getD .null) s := by
  obtain ⟨v, hv, hlive, hconf⟩ := hf.bound id hid
  rw [hv]
  exact ⟨hlive, hconf⟩

/-- An argument is of the type that its parameter is declared with. -/
theorem exists_argument (hf : k.Fits s frame) {place : Nat} {type : ValueType}
    (h : (Expr.parameter place type).checkParameter k.parameters = .ok ()) :
    ∃ v, k.scope.args[place]? = some v ∧ k.Has type v s := by
  unfold Expr.checkParameter at h
  simp only at h
  split at h
  · rename_i d hd
    split at h
    · rename_i htype
      obtain ⟨v, hv, hconf⟩ := exists_getElem?_of_forall₂ hf.args hd
      exact ⟨v, hv, hf.live v (List.mem_of_getElem? hv), htype ▸ hconf⟩
    · cases h
  · cases h

end Setting

/-- Values that conform to the types of expressions conform to parameters of these types. -/
theorem TypeTable.forall₂_conforms_parameters {t : TypeTable} {es : List Expr} {parameters : List Parameter}
    {args : List Value} (htypes : es.map Expr.type = parameters.map (·.type))
    (h : List.Forall₂ (fun e v => t.conforms e.type v = true) es args) :
    List.Forall₂ (fun p v => t.conforms p.type v = true) parameters args := by
  rw [← List.forall₂_map_left_iff (f := Parameter.type) (R := fun type v => t.conforms type v = true), ← htypes,
    List.forall₂_map_left_iff]
  exact h

namespace Discipline

open Setting

variable {d : Discipline} {k : Setting} {s s' : Store} {frame : List Value}

/-! ## Steps of evaluation -/

variable {α β : Type} {post : α → Store → Prop}

/-- Every outcome of evaluation leaves a store as the discipline asks and a frame that fits, and a result is
as `post` says. -/
def Evaluates (d : Discipline) (k : Setting) (s : Store) (frame : List Value) (x : Evaluation α)
    (post : α → Store → Prop) : Prop :=
  d.Keeps s (x.run frame) fun p s' => post p.1 s' ∧ k.Fits s' p.2

theorem Evaluates.pure {v : α} (hs : d.Holds s) (hf : k.Fits s frame) (h : post v s) :
    d.Evaluates k s frame (pure v) post :=
  Keeps.pure hs ⟨h, hf⟩

theorem Evaluates.throw {e : Error} (hs : d.Holds s) :
    d.Evaluates k s frame (MonadExcept.throw e : Evaluation α) post := by
  refine ⟨hs, d.refl s, fun _ hv => ?_⟩
  cases hv

theorem Evaluates.bind {x : Evaluation α} {f : α → Evaluation β} {post' : β → Store → Prop}
    (hx : d.Evaluates k s frame x post)
    (hf : ∀ v s' frame', d.Holds s' → s.Grows s' → k.Fits s' frame' → post v s' →
      d.Evaluates k s' frame' (f v) post') :
    d.Evaluates k s frame (x >>= f) post' := by
  unfold Evaluates
  rw [StateT.run_bind]
  exact Keeps.bind hx fun p s' hs' hg hp => hf p.1 s' p.2 hs' hg hp.2 hp.1

theorem Evaluates.imp {x : Evaluation α} {post' : α → Store → Prop}
    (hx : d.Evaluates k s frame x post)
    (h : ∀ v s', s.Grows s' → post v s' → post' v s') : d.Evaluates k s frame x post' :=
  Keeps.imp hx fun p s' _ hg hp => ⟨h p.1 s' hg hp.1, hp.2⟩

theorem Evaluates.discard {x : Evaluation α} (hx : d.Evaluates k s frame x post) :
    d.Evaluates k s frame (Functor.discard x) fun _ _ => True := by
  rw [discard_eq_bind]
  exact hx.bind fun _ _ _ hs' _ hf' _ => .pure hs' hf' trivial

/-- An action leaves the frame as it is. -/
theorem Evaluates.lift {a : Action α} (hf : k.Fits s frame) (ha : d.Keeps s a post) :
    d.Evaluates k s frame (liftM a) post := by
  refine Keeps.bind (f := fun v => Pure.pure (v, frame)) ha fun v s' hs' hg hv => ?_
  exact .pure hs' ⟨hv, hf.mono hg⟩

/-- A step that writes the frame first. -/
theorem Evaluates.modify_frame {f : List Value → List Value} {x : Evaluation α}
    (h : d.Evaluates k s (f frame) x post) : d.Evaluates k s frame (do modify f; x) post := by
  have heq : (do modify f; x : Evaluation α).run frame = x.run (f frame) := by
    rw [StateT.run_bind, StateT.run_modify, pure_bind]
  unfold Evaluates
  rw [heq]
  exact h

theorem Evaluates.unbind {id : LocalId} {x : Evaluation α}
    (h : d.Evaluates (k.bind id) s frame x post) : d.Evaluates k s frame x post :=
  Keeps.imp h fun _ _ _ _ hp => ⟨hp.1, hp.2.unbind⟩

/-- A store into a slot, then null. -/
theorem evaluates_store (hf : k.Fits s frame) {a : Action Unit}
    (ha : d.Keeps s a fun _ _ => True) :
    d.Evaluates k s frame (do liftM a; Pure.pure Value.null) fun v s' => k.Has .any v s' :=
  (Evaluates.lift hf ha).bind fun _ s' _ hs' _ hf' _ =>
    .pure hs' hf' ⟨Store.live_null s', TypeTable.conforms_any _⟩

theorem evaluates_truth (hs : d.Holds s) (hf : k.Fits s frame) {v : Value}
    (hv : k.machine.types.conforms .bool v = true) :
    d.Evaluates k s frame (truth v) fun _ _ => True := by
  obtain ⟨b, rfl⟩ := TypeTable.conforms_bool hv
  exact .pure hs hf trivial

/-- A receiver that belongs to an object type is an instance. -/
theorem evaluates_receiverOf (hs : d.Holds s) (hf : k.Fits s frame) {v : Value}
    {owner : TypeId} (hv : k.machine.types.conforms (.object owner) v = true) (hlive : s.Live v)
    (member : String) : d.Evaluates k s frame (receiverOf v member) fun ref s' =>
      s'.Live (.object ref) ∧ k.machine.types.isSubtype ref.type owner = true := by
  rcases TypeTable.conforms_object hv with rfl | ⟨ref, rfl, hsub⟩
  · exact .throw hs
  · exact .pure hs hf ⟨hlive, hsub⟩

theorem evaluates_operate (hs : d.Holds s) (hf : k.Fits s frame) {op : Operator}
    {operand : ValueType} {l r : Value} (hl : k.machine.types.conforms operand l = true)
    (hr : k.machine.types.conforms operand r = true) :
    d.Evaluates k s frame (operate op l r) fun v s' => s'.Live v ∧
      k.machine.types.conforms (if op.isArithmetic then operand else .bool) v = true := by
  have hget : d.Keeps s (get : Action Store) fun _ _ => True :=
    ⟨hs, d.refl s, fun _ _ => trivial⟩
  refine (Evaluates.lift hf hget).bind fun seen s' frame' hs' _ hf' _ => ?_
  split
  · rename_i v hv
    obtain ⟨hconf, hrefs⟩ := Operator.conforms_apply hv hl hr
    exact .pure hs' hf' ⟨fun ref href => by simp [hrefs] at href, hconf⟩
  · exact .throw hs'

/-! ## Operations of nodes -/

/-- What is asked of an initialiser of an object: on an instance of the type and a value of the type of the
expression, every outcome is as the discipline asks. -/
def Assigns (d : Discipline) (m : Machine) (object : TypeId) (b : AssignTarget × Expr) : Prop :=
  ∀ s ref v, d.Holds s → s.Live (.object ref) → m.types.isSubtype ref.type object = true →
    s.Live v → m.types.conforms b.2.type v = true →
      d.Keeps s (m.assign ref b.1 v) fun _ _ => True

/-- What is asked of the operation of a node: on a receiver and on values as typing promises them, every
outcome is as the discipline asks, and a result is what the node says. -/
def Allows (d : Discipline) (m : Machine) : Expr → Prop
  | .call r _ _ => ∀ s receiver args, d.Holds s → s.Receives m.types r.owner receiver →
      (∀ v ∈ args, s.Live v) →
      List.Forall₂ (fun p v => m.types.conforms p.type v = true) r.method.parameters args →
        d.Keeps s (m.invoke r receiver args) fun v s' => s'.Live v
  | .fieldGet f _ => ∀ s receiver, d.Holds s → s.Receives m.types f.owner receiver →
      d.Keeps s (m.loadField f receiver) fun v s' => s'.Live v ∧
        m.types.conforms f.field.type v = true
  | .fieldSet f _ _ | .writePrimitive f _ _ => ∀ s receiver v, d.Holds s →
      s.Receives m.types f.owner receiver → s.Live v →
        d.Keeps s (m.storeField f receiver v) fun _ _ => True
  | .memberInit object bindings => ∀ owner, object.type = .object owner →
      ∀ b ∈ bindings, d.Assigns m owner b
  | .navigate _ member => ∀ s receiver, d.Holds s → s.Receives m.types member.owner receiver →
      d.Keeps s (m.load member receiver) fun v s' => s'.Live v ∧
        m.types.conforms member.type v = true
  | .construct c _ => ∀ s args, d.Holds s → (∀ v ∈ args, s.Live v) →
      d.Keeps s (m.construct c args) fun ref s' => ref.type = c.owner ∧ s'.Live (.object ref)
  | _ => True

/-- A node can be evaluated, and its operation keeps the discipline. -/
structure NodeReady (d : Discipline) (k : Setting) (s : Store) (e : Expr) : Prop
    extends Setting.NodeReady k s e where
  /-- Its operation keeps the discipline. -/
  allowed : d.Allows k.machine e

/-- Every node of an expression can be evaluated under the discipline. -/
def Ready (d : Discipline) (k : Setting) (s : Store) (e : Expr) : Prop :=
  e.Each (d.NodeReady k s)

theorem Ready.mono {e : Expr} (h : d.Ready k s e) (hg : s.Grows s') : d.Ready k s' e :=
  h.imp fun _ hn => ⟨hn.toNodeReady.mono hg, hn.allowed⟩

theorem Ready.bind {e : Expr} (h : d.Ready k s e) (id : LocalId) : d.Ready (k.bind id) s e :=
  h.imp fun _ hn => ⟨hn.toNodeReady.bind id, hn.allowed⟩

/-! ## The evaluator -/

/-- A logical operator yields a Boolean.  Its right operand is evaluated only if the left one leaves the
outcome open, and then in the store and the frame that the left one leaves. -/
theorem evaluates_logical {op : Operator} (hop : op.isLogical = true) {lhs rhs : Expr}
    (hl : d.Evaluates k s frame (k.machine.evaluate k.scope lhs) (k.Has .bool))
    (hr : ∀ s' frame', d.Holds s' → s.Grows s' → k.Fits s' frame' →
      d.Evaluates k s' frame' (k.machine.evaluate k.scope rhs) (k.Has .bool)) :
    d.Evaluates k s frame (k.machine.evaluate k.scope (.binary op lhs rhs)) (k.Has .bool) := by
  cases op <;> cases hop <;> rw [Machine.evaluate]
  · refine hl.bind fun v s₁ f₁ hs₁ hg₁ hf₁ hv => ?_
    refine (evaluates_truth hs₁ hf₁ hv.conforms).bind fun b s₂ f₂ hs₂ hg₂ hf₂ _ => ?_
    split
    · exact hr s₂ f₂ hs₂ (hg₁.trans hg₂) hf₂
    · exact .pure hs₂ hf₂ ⟨Store.live_bool s₂ false, rfl⟩
  · refine hl.bind fun v s₁ f₁ hs₁ hg₁ hf₁ hv => ?_
    refine (evaluates_truth hs₁ hf₁ hv.conforms).bind fun b s₂ f₂ hs₂ hg₂ hf₂ _ => ?_
    split
    · exact .pure hs₂ hf₂ ⟨Store.live_bool s₂ true, rfl⟩
    · exact hr s₂ f₂ hs₂ (hg₁.trans hg₂) hf₂

open Expr in
mutual

/-- Evaluating an expression yields a value of its type. -/
theorem evaluates_evaluate {k : Setting} {d : Discipline} {s : Store}
    {frame : List Value} (hs : d.Holds s) (hf : k.Fits s frame) :
    (e : Expr) → d.Ready k s e → e.checkScopes k.bound = .ok () →
      d.Evaluates k s frame (k.machine.evaluate k.scope e) (k.Has e.type)
  | .binary op lhs rhs, he, hc => by
    obtain ⟨hnode, hlhs, hrhs⟩ := each_binary.1 he
    obtain ⟨htype, htakes⟩ := hnode.typed
    rw [checkScopes] at hc
    obtain ⟨_, hcl, hcr⟩ := bind_eq_ok.1 hc
    have hl := evaluates_evaluate hs hf lhs hlhs hcl
    cases hop : op.isLogical with
    | true =>
      have hbool := htakes.logical hop
      have hresult : (Expr.binary op lhs rhs).type = .bool := by
        cases op <;> first | rfl | cases hop
      rw [hresult]
      rw [hbool] at hl
      refine evaluates_logical hop hl fun s' frame' hs' hg hf' => ?_
      have hr := evaluates_evaluate hs' hf' rhs (Ready.mono hrhs hg) hcr
      rwa [← htype, hbool] at hr
    | false =>
      rw [Machine.evaluate_strict _ _ hop]
      refine hl.bind fun l s₁ f₁ hs₁ hg₁ hf₁ hlv => ?_
      refine (evaluates_evaluate hs₁ hf₁ rhs (Ready.mono hrhs hg₁) hcr).bind
        fun r s₂ f₂ hs₂ hg₂ hf₂ hrv => ?_
      have hr := hrv.conforms
      rw [← htype] at hr
      exact (evaluates_operate hs₂ hf₂ hlv.conforms hr).imp fun v _ _ hv => ⟨hv.1, hv.2⟩
  | .call method receiver es, he, hc => by
    obtain ⟨hnode, hrec, hes⟩ := each_call.1 he
    obtain ⟨-, hreceiver, htypes⟩ := hnode.typed
    rw [checkScopes] at hc
    obtain ⟨_, hcr, hces⟩ := bind_eq_ok.1 hc
    rw [Machine.evaluate]
    refine (evaluates_evaluateReceiver hs hf method.method.name receiver hreceiver hrec
      hcr).bind fun ref s₁ f₁ hs₁ hg₁ hf₁ href => ?_
    refine (evaluates_evaluateAll hs₁ hf₁ es (fun e he => Ready.mono (hes e he) hg₁) hces).bind
      fun args s₂ f₂ hs₂ hg₂ hf₂ hargs => ?_
    have hconf := TypeTable.forall₂_conforms_parameters htypes hargs.2
    refine (Evaluates.lift hf₂ (hnode.allowed s₂ ref args hs₂ (href.mono hg₂)
      hargs.1 hconf)).bind fun v s₃ f₃ hs₃ hg₃ hf₃ hv => ?_
    refine Evaluates.lift hf₃ (Keeps.ofCast hs₃ fun w hw => ?_)
    exact ⟨hv.cast hw, TypeTable.conforms_of_cast hw⟩
  | .conditional test thenExpr otherwise, he, hc => by
    obtain ⟨hnode, htest, hthen, hotherwise⟩ := each_conditional.1 he
    obtain ⟨hbool, hsame⟩ := hnode.typed
    rw [checkScopes] at hc
    obtain ⟨_, hct, hc⟩ := bind_eq_ok.1 hc
    obtain ⟨_, hc₁, hc₂⟩ := bind_eq_ok.1 hc
    rw [Machine.evaluate]
    refine (evaluates_evaluate hs hf test htest hct).bind fun v s₁ f₁ hs₁ hg₁ hf₁ hv => ?_
    have hvbool := hv.conforms
    rw [hbool] at hvbool
    refine (evaluates_truth hs₁ hf₁ hvbool).bind fun b s₂ f₂ hs₂ hg₂ hf₂ _ => ?_
    have hg := hg₁.trans hg₂
    split
    · exact evaluates_evaluate hs₂ hf₂ thenExpr (Ready.mono hthen hg) hc₁
    · have ho := evaluates_evaluate hs₂ hf₂ otherwise (Ready.mono hotherwise hg) hc₂
      rwa [← hsame] at ho
  | .constant v type, he, hc => by
    have hnode := each_constant.1 he
    rw [Machine.evaluate]
    exact .pure hs hf ⟨hnode.live v type rfl, hnode.typed⟩
  | .convert rule operand type, he, hc => by
    obtain ⟨-, hoperand⟩ := each_convert.1 he
    rw [checkScopes] at hc
    rw [Machine.evaluate]
    refine (evaluates_evaluate hs hf operand hoperand hc).bind
      fun v s₁ f₁ hs₁ hg₁ hf₁ hv => ?_
    refine Evaluates.lift hf₁ (Keeps.ofCast hs₁ fun w hw => ?_)
    exact ⟨hv.live.cast hw, TypeTable.conforms_of_cast hw⟩
  | .zero type, he, hc => by
    rw [Machine.evaluate]
    exact .pure hs hf ⟨Store.live_zero s type, TypeTable.conforms_zero type⟩
  | .fieldGet f receiver, he, hc => by
    obtain ⟨hnode, hrec⟩ := each_fieldGet.1 he
    obtain ⟨-, hreceiver⟩ := hnode.typed
    rw [checkScopes] at hc
    rw [Machine.evaluate]
    refine (evaluates_evaluateReceiver hs hf f.field.name receiver hreceiver hrec hc).bind
      fun ref s₁ f₁ hs₁ hg₁ hf₁ href => ?_
    exact Evaluates.lift hf₁ ((hnode.allowed s₁ ref hs₁ href).imp
      fun v _ _ _ hv => ⟨hv.1, hv.2⟩)
  | .fieldSet f receiver value, he, hc => by
    obtain ⟨hnode, hrec, hvalue⟩ := each_fieldSet.1 he
    obtain ⟨-, hreceiver, -⟩ := hnode.typed
    rw [checkScopes] at hc
    obtain ⟨_, hcr, hcv⟩ := bind_eq_ok.1 hc
    rw [Machine.evaluate]
    refine (evaluates_evaluateReceiver hs hf f.field.name receiver hreceiver hrec hcr).bind
      fun ref s₁ f₁ hs₁ hg₁ hf₁ href => ?_
    refine (evaluates_evaluate hs₁ hf₁ value (Ready.mono hvalue hg₁) hcv).bind
      fun v s₂ f₂ hs₂ hg₂ hf₂ hv => ?_
    exact evaluates_store hf₂ (hnode.allowed s₂ ref v hs₂ (href.mono hg₂) hv.live)
  | .index list position, he, hc => by
    obtain ⟨hnode, hlist⟩ := each_index.1 he
    obtain ⟨element, helement⟩ := hnode.typed
    have hresult : (Expr.index list position).type = element := by
      simp only [type, helement]
    rw [checkScopes] at hc
    rw [Machine.evaluate, hresult]
    refine (evaluates_evaluate hs hf list hlist hc).bind fun v s₁ f₁ hs₁ hg₁ hf₁ hv => ?_
    have hconf := hv.conforms
    rw [helement] at hconf
    rcases TypeTable.conforms_list hconf with rfl | ⟨items, rfl, hitems⟩
    · exact .throw hs₁
    · simp only
      split
      · rename_i item hitem
        have hmem := List.mem_of_getElem? hitem
        exact .pure hs₁ hf₁ ⟨Store.live_item hv.live hmem, hitems item hmem⟩
      · exact .throw hs₁
  | .letIn id value body, he, hc => by
    obtain ⟨hnode, hvalue, hbody⟩ := each_letIn.1 he
    obtain ⟨-, htype⟩ := hnode.typed
    rw [checkScopes] at hc
    obtain ⟨_, hcv, hcb⟩ := bind_eq_ok.1 hc
    rw [Machine.evaluate]
    refine (evaluates_evaluate hs hf value hvalue hcv).bind fun v s₁ f₁ hs₁ hg₁ hf₁ hv => ?_
    have hconf := hv.conforms
    rw [← htype] at hconf
    have hf₁' := hf₁.set hnode.hasSlot hv.live hconf
    have hinner := evaluates_evaluate (k := k.bind id) hs₁ hf₁' body
      (Ready.bind (Ready.mono hbody hg₁) id) hcb
    exact (hinner.unbind.imp fun v s' _ hv => ⟨hv.live, hv.conforms⟩).modify_frame
  | .readLocal id type, he, hc => by
    obtain ⟨-, htype⟩ := (each_readLocal.1 he).typed
    rw [checkScopes] at hc
    have hid : id ∈ k.bound := by
      by_contra hid
      simp [hid] at hc
    rw [Machine.evaluate]
    refine .pure hs hf ?_
    exact htype ▸ has_readLocal hf hid
  | .memberInit object bindings, he, hc => by
    obtain ⟨hnode, hobject, hbindings⟩ := each_memberInit.1 he
    obtain ⟨target, htarget, -⟩ := hnode.typed
    rw [checkScopes] at hc
    obtain ⟨_, hco, hcb⟩ := bind_eq_ok.1 hc
    rw [Machine.evaluate]
    refine (evaluates_evaluate hs hf object hobject hco).bind
      fun v s₁ f₁ hs₁ hg₁ hf₁ hv => ?_
    have hconf := hv.conforms
    rw [htarget] at hconf
    rcases TypeTable.conforms_object hconf with rfl | ⟨ref, rfl, hsub⟩
    · exact .throw hs₁
    · refine (evaluates_initialise hs₁ hf₁ hv.live hsub bindings
        (fun b hb => Ready.mono (hbindings b hb) hg₁) (hnode.allowed target htarget) hcb).bind
        fun _ s₂ f₂ hs₂ hg₂ hf₂ _ => ?_
      exact .pure hs₂ hf₂ (hv.mono hg₂)
  | .navigate receiver member, he, hc => by
    obtain ⟨hnode, hrec⟩ := each_navigate.1 he
    obtain ⟨-, -, -, htype⟩ := hnode.typed
    rw [checkScopes] at hc
    rw [Machine.evaluate]
    refine (evaluates_evaluate hs hf receiver hrec hc).bind
      fun v s₁ f₁ hs₁ hg₁ hf₁ hv => ?_
    have hconf := hv.conforms
    rw [htype] at hconf
    rcases TypeTable.conforms_object hconf with rfl | ⟨ref, rfl, hsub⟩
    · refine .pure hs₁ hf₁ ⟨Store.live_null s₁, ?_⟩
      rw [TypeTable.conforms_null]
      exact TypeTable.acceptsNull_orNull member.type
    · have hreceives : s₁.Receives k.machine.types member.owner (some ref) := by
        rintro _ ⟨⟩
        exact ⟨hv.live, hsub⟩
      exact Evaluates.lift hf₁ ((hnode.allowed s₁ (some ref) hs₁ hreceives).imp
        fun v _ _ _ hv => ⟨hv.1, TypeTable.conforms_orNull hv.2⟩)
  | .construct ctor es, he, hc => by
    obtain ⟨hnode, hes⟩ := each_construct.1 he
    obtain ⟨hctor, -⟩ := hnode.typed
    rw [checkScopes] at hc
    rw [Machine.evaluate]
    refine (evaluates_evaluateAll hs hf es hes hc).bind
      fun args s₁ f₁ hs₁ hg₁ hf₁ hargs => ?_
    refine (Evaluates.lift hf₁ (hnode.allowed s₁ args hs₁ hargs.1)).bind
      fun ref s₂ f₂ hs₂ hg₂ hf₂ href => .pure hs₂ hf₂ ⟨href.2, ?_⟩
    simp only [type, TypeTable.conforms, href.1]
    exact TypeTable.isSubtype_refl hctor.owner_lt
  | .negate operand, he, hc => by
    obtain ⟨hnode, hoperand⟩ := each_negate.1 he
    rw [checkScopes] at hc
    rw [Machine.evaluate]
    refine (evaluates_evaluate hs hf operand hoperand hc).bind
      fun v s₁ f₁ hs₁ hg₁ hf₁ hv => ?_
    have hconf := hv.conforms
    rw [show operand.type = .bool from hnode.typed] at hconf
    refine (evaluates_truth hs₁ hf₁ hconf).bind fun b s₂ f₂ hs₂ hg₂ hf₂ _ => ?_
    exact .pure hs₂ hf₂ ⟨Store.live_bool s₂ _, rfl⟩
  | .parameter place type, he, hc => by
    obtain ⟨v, hv, hhas⟩ := exists_argument hf (each_parameter.1 he).declared
    rw [Machine.evaluate, hv]
    exact .pure hs hf hhas
  | .sequence front last, he, hc => by
    obtain ⟨-, hfront, hlast⟩ := each_sequence.1 he
    rw [checkScopes] at hc
    obtain ⟨_, hcf, hcl⟩ := bind_eq_ok.1 hc
    rw [Machine.evaluate]
    refine (evaluates_evaluateAll hs hf front hfront hcf).discard.bind
      fun _ s₁ f₁ hs₁ hg₁ hf₁ _ => ?_
    exact evaluates_evaluate hs₁ hf₁ last (Ready.mono hlast hg₁) hcl
  | .writePrimitive f receiver value, he, hc => by
    obtain ⟨hnode, hrec, hvalue⟩ := each_writePrimitive.1 he
    obtain ⟨-, hreceiver, -⟩ := hnode.typed
    rw [checkScopes] at hc
    obtain ⟨_, hcr, hcv⟩ := bind_eq_ok.1 hc
    rw [Machine.evaluate]
    refine (evaluates_evaluateReceiver hs hf f.field.name receiver hreceiver hrec hcr).bind
      fun ref s₁ f₁ hs₁ hg₁ hf₁ href => ?_
    refine (evaluates_evaluate hs₁ hf₁ value (Ready.mono hvalue hg₁) hcv).bind
      fun v s₂ f₂ hs₂ hg₂ hf₂ hv => ?_
    exact evaluates_store hf₂ (hnode.allowed s₂ ref v hs₂ (href.mono hg₂) hv.live)

theorem evaluates_evaluateAll {k : Setting} {d : Discipline} {s : Store}
    {frame : List Value} (hs : d.Holds s) (hf : k.Fits s frame) :
    (es : List Expr) → (∀ e ∈ es, d.Ready k s e) → checkAllScopes k.bound es = .ok () →
      d.Evaluates k s frame (k.machine.evaluateAll k.scope es) fun vs s' =>
        (∀ v ∈ vs, s'.Live v) ∧
          List.Forall₂ (fun e v => k.machine.types.conforms e.type v = true) es vs
  | [], _, _ => by
    rw [Machine.evaluateAll]
    exact .pure hs hf ⟨by simp, .nil⟩
  | e :: es, hes, hc => by
    rw [checkAllScopes] at hc
    obtain ⟨_, hce, hces⟩ := bind_eq_ok.1 hc
    rw [Machine.evaluateAll]
    refine (evaluates_evaluate hs hf e (hes e (List.mem_cons_self ..)) hce).bind
      fun v s₁ f₁ hs₁ hg₁ hf₁ hv => ?_
    refine (evaluates_evaluateAll hs₁ hf₁ es
      (fun e he => Ready.mono (hes e (List.mem_cons_of_mem _ he)) hg₁) hces).bind
      fun vs s₂ f₂ hs₂ hg₂ hf₂ hvs => ?_
    exact .pure hs₂ hf₂ ⟨List.forall_mem_cons.2 ⟨hv.live.mono hg₂, hvs.1⟩,
      .cons hv.conforms hvs.2⟩

theorem evaluates_evaluateReceiver {k : Setting} {d : Discipline} {s : Store}
    {frame : List Value} (hs : d.Holds s) (hf : k.Fits s frame) (member : String) {owner : TypeId}
    {isStatic : Bool} :
    (receiver : Option Expr) → ReceiverTyped owner isStatic receiver →
      (∀ e, receiver = some e → d.Ready k s e) → checkReceiverScopes k.bound receiver = .ok () →
      d.Evaluates k s frame (k.machine.evaluateReceiver k.scope member receiver) fun ref s' =>
        s'.Receives k.machine.types owner ref
  | none, _, _, _ => by
    rw [Machine.evaluateReceiver]
    exact .pure hs hf (by rintro _ ⟨⟩)
  | some e, htyped, he, hc => by
    rw [checkReceiverScopes] at hc
    rw [Machine.evaluateReceiver]
    refine (evaluates_evaluate hs hf e (he e rfl) hc).bind fun v s₁ f₁ hs₁ hg₁ hf₁ hv => ?_
    have hconf := hv.conforms
    rw [htyped.2] at hconf
    refine (evaluates_receiverOf hs₁ hf₁ hconf hv.live member).bind
      fun ref s₂ f₂ hs₂ hg₂ hf₂ href => ?_
    exact .pure hs₂ hf₂ (by rintro _ ⟨⟩; exact href)

theorem evaluates_initialise {k : Setting} {d : Discipline} {s : Store}
    {frame : List Value} (hs : d.Holds s) (hf : k.Fits s frame) {ref : ObjectRef} {object : TypeId}
    (href : s.Live (.object ref)) (hsub : k.machine.types.isSubtype ref.type object = true) :
    (bindings : List (AssignTarget × Expr)) → (∀ b ∈ bindings, d.Ready k s b.2) →
      (∀ b ∈ bindings, d.Assigns k.machine object b) →
      checkBindingScopes k.bound bindings = .ok () →
      d.Evaluates k s frame (k.machine.initialise k.scope ref bindings) fun _ _ => True
  | [], _, _, _ => by
    rw [Machine.initialise]
    exact .pure hs hf trivial
  | (target, e) :: bindings, hb, ht, hc => by
    rw [checkBindingScopes] at hc
    obtain ⟨_, hce, hcb⟩ := bind_eq_ok.1 hc
    rw [Machine.initialise]
    refine (evaluates_evaluate hs hf e (hb _ (List.mem_cons_self ..)) hce).bind
      fun v s₁ f₁ hs₁ hg₁ hf₁ hv => ?_
    refine (Evaluates.lift hf₁ (ht _ (List.mem_cons_self ..) s₁ ref v hs₁ (href.mono hg₁) hsub
      hv.live hv.conforms)).bind fun _ s₂ f₂ hs₂ hg₂ hf₂ _ => ?_
    have hg := hg₁.trans hg₂
    exact evaluates_initialise hs₂ hf₂ (href.mono hg) hsub bindings
      (fun b hb' => Ready.mono (hb b (List.mem_cons_of_mem _ hb')) hg)
      (fun b hb' => ht b (List.mem_cons_of_mem _ hb')) hcb

end

end Discipline

/-! ## Running lambdas -/

/-- Arguments that pass the check belong to the types of the parameters. -/
theorem Machine.forall₂_of_checkArguments {m : Machine} {types : List ValueType} {args : List Value}
    {i : Nat} (h : m.checkArguments i types args = .ok ()) (hlength : args.length = types.length) :
    List.Forall₂ (fun type v => m.types.conforms type v = true) types args := by
  induction types generalizing args i with
  | nil =>
    cases args with
    | nil => exact .nil
    | cons v args => cases hlength
  | cons type types ih =>
    cases args with
    | nil => cases hlength
    | cons v args =>
      simp only [checkArguments] at h
      split at h
      · rename_i hconf
        exact .cons hconf (ih h (by simpa using hlength))
      · cases h

theorem Lambda.of_make {parameters : List ParameterDecl} {body : Expr} {l : Lambda}
    (h : Lambda.make parameters body = .ok l) : l = ⟨parameters, body⟩ ∧
      body.Each (fun e => e.checkParameter parameters = .ok ()) ∧
      body.checkScopes [] = .ok () := by
  obtain ⟨_, hparameters, h⟩ := bind_eq_ok.1 h
  obtain ⟨_, hscopes, h⟩ := bind_eq_ok.1 h
  cases h
  exact ⟨rfl, forM_eq_ok.1 hparameters, hscopes⟩

namespace Setting

/-- What the body of a lambda is evaluated in. -/
def ofLambda (m : Machine) (c : Expr.Context) (parameters : List ParameterDecl) (body : Expr)
    (args : List Value) : Setting :=
  ⟨m, c, parameters, ⟨args, body.slots []⟩, []⟩

/-- A frame of nulls fits: no local binding is in scope yet. -/
theorem fits_ofLambda {m : Machine} (c : Expr.Context) (parameters : List ParameterDecl) (body : Expr)
    {s : Store} {args : List Value} (hconf : List.Forall₂ (fun type v => m.types.conforms type v = true)
      (parameters.map (·.type)) args) (hargs : ∀ v ∈ args, s.Live v) :
    (ofLambda m c parameters body args).Fits s
      (List.replicate (body.slots []).length .null) :=
  ⟨List.length_replicate, by simp [ofLambda], List.forall₂_map_left_iff.1 hconf, hargs⟩

/-- A well-typed body that passes the checks of a lambda is ready. -/
theorem ready_ofLambda {m : Machine} {c : Expr.Context} {parameters : List ParameterDecl} {body : Expr}
    {s : Store} (args : List Value) (htyped : body.Typed m.types c)
    (hparameters : body.Each fun e => e.checkParameter parameters = .ok ())
    (hliterals : ∀ v type, .constant v type ∈ body.nodes → s.Live v) :
    (ofLambda m c parameters body args).Ready s body := fun e he =>
  ⟨htyped e he, hparameters e he, Expr.each_hasSlot_compile ⟨parameters, body⟩ e he,
    fun v type heq => hliterals v type (heq ▸ he)⟩

end Setting

/-- Running a lambda with a well-typed body keeps what the operations of the body keep, and yields a value
of the lambda's result type. -/
theorem Discipline.keeps_run {d : Discipline} {m : Machine} {c : Expr.Context}
    {parameters : List ParameterDecl} {body : Expr} {l : Lambda}
    (hl : Lambda.make parameters body = .ok l) (htyped : body.Typed m.types c)
    (hallows : body.Each (d.Allows m)) {s : Store} (hs : d.Holds s)
    (hliterals : ∀ v type, .constant v type ∈ body.nodes → s.Live v)
    {args : List Value} (hargs : ∀ v ∈ args, s.Live v) :
    d.Keeps s (m.run l.compile args) fun v _ => m.types.conforms l.resultType v = true := by
  obtain ⟨rfl, hparameters, hscopes⟩ := Lambda.of_make hl
  simp only [Machine.run]
  by_cases hlength : args.length ≠ (Lambda.compile ⟨parameters, body⟩).parameters.length
  · rw [if_pos hlength]
    exact .throw hs
  · rw [if_neg hlength]
    simp only [ne_eq, Classical.not_not] at hlength
    split
    · exact .throw hs
    · rename_i hcheck
      have hfits := Setting.fits_ofLambda c parameters body
        (Machine.forall₂_of_checkArguments hcheck hlength) hargs
      have hready := Setting.ready_ofLambda args htyped hparameters hliterals
      exact (evaluates_evaluate hs hfits body (fun n hn => ⟨hready n hn, hallows n hn⟩) hscopes).map
        fun p _ _ _ hp => hp.1.conforms

end Reshape
