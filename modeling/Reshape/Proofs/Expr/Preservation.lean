import Reshape.Proofs.Expr.Discipline
import Reshape.Proofs.Expr.Draft

/-!
# Evaluation preserves types

A well-typed expression yields a value of its type, and leaves a well-typed store, whether it succeeds
or fails (`Setting.evaluates_evaluate`): the operations of its nodes keep the discipline of well-typed
stores (`Discipline.allows_typing`).
-/

namespace Reshape

/-! ## Operations of well-typed nodes -/

open Action (Keeps)

/-- An initialiser stores a value of the type of its target. -/
theorem Machine.keeps_assign {m : Machine} {s : Store} (hm : m.types.Declared) (hw : m.WellBehaved)
    (hs : s.WellTyped m.types) {object : TypeId} {target : AssignTarget} {type : ValueType}
    (ht : Expr.TargetTyped m.types object target type) {ref : ObjectRef}
    (href : s.Live (.object ref)) (hsub : m.types.isSubtype ref.type object = true) {v : Value}
    (hv : s.Live v) (hconf : m.types.conforms type v = true) :
    Keeps m.types s (m.assign ref target v) fun _ _ => True := by
  cases target with
  | field f => exact Machine.keeps_storeField hm hs ht.hasTarget (some ref) hv
  | primitive f => exact Machine.keeps_storeField hm hs ht.hasTarget (some ref) hv
  | setter r =>
    obtain ⟨⟨p, hp, rfl⟩, howner⟩ := ht.setter
    have hreceives := Store.receives_of_isSubtype href hsub howner
    have hargs : List.Forall₂ (fun p v => m.types.conforms p.type v = true)
        r.method.parameters [v] := by
      rw [hp]
      exact .cons hconf .nil
    exact (Machine.keeps_invoke hm hw hs ht.hasTarget hreceives (by simpa using hv)
      hargs).map fun _ _ _ _ _ => trivial

/-- The operation of a well-typed node keeps stores well typed. -/
theorem Discipline.allows_typing {m : Machine} (hm : m.types.Declared) (hw : m.WellBehaved)
    {c : Expr.Context} {e : Expr} (h : e.NodeTyped m.types c) : (typing m.types).Allows m e := by
  cases e with
  | call r receiver es =>
    intro s ref args hs href hlive hargs
    exact Action.keeps_iff.1 (Machine.keeps_invoke hm hw hs h.1 href hlive hargs)
  | fieldGet f receiver =>
    intro s ref hs href
    exact Action.keeps_iff.1 (Machine.keeps_loadField hm hs h.1 href)
  | fieldSet f receiver value | writePrimitive f receiver value =>
    intro s ref v hs _ hv
    exact Action.keeps_iff.1 (Machine.keeps_storeField hm hs h.1 ref hv)
  | memberInit object bindings =>
    obtain ⟨target, htarget, htargets⟩ := h
    intro owner howner b hb s ref v hs href hsub hv hconf
    rw [htarget] at howner
    cases howner
    exact Action.keeps_iff.1 (Machine.keeps_assign hm hw hs (htargets b hb) href hsub hv hconf)
  | navigate receiver member =>
    intro s ref hs href
    exact Action.keeps_iff.1 (Machine.keeps_load hm hw hs h.1 href)
  | construct ctor es =>
    intro s args hs hargs
    exact Action.keeps_iff.1 (Machine.keeps_construct hw hs h.1 hargs)
  | _ => trivial

/-! ## The evaluator -/

namespace Setting

variable {k : Setting} {s s' : Store} {frame : List Value} {α : Type} {post : α → Store → Prop}

/-- Every outcome of evaluation leaves a well-typed store and a frame that fits, and a result is as
`post` says. -/
def Evaluates (k : Setting) (s : Store) (frame : List Value) (x : Evaluation α)
    (post : α → Store → Prop) : Prop :=
  Keeps k.machine.types s (x.run frame) fun p s' => post p.1 s' ∧ k.Fits s' p.2

theorem evaluates_iff {x : Evaluation α} :
    k.Evaluates s frame x post ↔ (Discipline.typing k.machine.types).Evaluates k s frame x post :=
  Action.keeps_iff

theorem Evaluates.discard {x : Evaluation α} (hx : k.Evaluates s frame x post) :
    k.Evaluates s frame (Functor.discard x) fun _ _ => True :=
  evaluates_iff.2 (evaluates_iff.1 hx).discard

/-- An action leaves the frame as it is. -/
theorem Evaluates.lift {a : Action α} (hf : k.Fits s frame)
    (ha : Keeps k.machine.types s a post) : k.Evaluates s frame (liftM a) post :=
  evaluates_iff.2 (.lift hf (Action.keeps_iff.1 ha))

theorem evaluates_truth (hs : s.WellTyped k.machine.types) (hf : k.Fits s frame) {v : Value}
    (hv : k.machine.types.conforms .bool v = true) :
    k.Evaluates s frame (truth v) fun _ _ => True :=
  evaluates_iff.2 (Discipline.evaluates_truth hs hf hv)

theorem Ready.typing (hm : k.machine.types.Declared) (hw : k.machine.WellBehaved) {e : Expr}
    (h : k.Ready s e) : (Discipline.typing k.machine.types).Ready k s e :=
  h.imp fun _ hn => ⟨hn, Discipline.allows_typing hm hw hn.typed⟩

open Expr

/-- Evaluating an expression yields a value of its type. -/
theorem evaluates_evaluate (hm : k.machine.types.Declared) (hw : k.machine.WellBehaved)
    (hs : s.WellTyped k.machine.types) (hf : k.Fits s frame) (e : Expr) (he : k.Ready s e)
    (hc : e.checkScopes k.bound = .ok ()) :
    k.Evaluates s frame (k.machine.evaluate k.scope e) (k.Has e.type) :=
  evaluates_iff.2 (Discipline.evaluates_evaluate hs hf e (he.typing hm hw) hc)

theorem evaluates_evaluateAll (hm : k.machine.types.Declared) (hw : k.machine.WellBehaved)
    (hs : s.WellTyped k.machine.types) (hf : k.Fits s frame) (es : List Expr)
    (hes : ∀ e ∈ es, k.Ready s e) (hc : checkAllScopes k.bound es = .ok ()) :
    k.Evaluates s frame (k.machine.evaluateAll k.scope es) fun vs s' =>
      (∀ v ∈ vs, s'.Live v) ∧
        List.Forall₂ (fun e v => k.machine.types.conforms e.type v = true) es vs :=
  evaluates_iff.2 (Discipline.evaluates_evaluateAll hs hf es
    (fun e he => (hes e he).typing hm hw) hc)

theorem evaluates_evaluateReceiver (hm : k.machine.types.Declared) (hw : k.machine.WellBehaved)
    (hs : s.WellTyped k.machine.types) (hf : k.Fits s frame) (member : String) {owner : TypeId}
    {isStatic : Bool} (receiver : Option Expr) (htyped : ReceiverTyped owner isStatic receiver)
    (he : ∀ e, receiver = some e → k.Ready s e)
    (hc : checkReceiverScopes k.bound receiver = .ok ()) :
    k.Evaluates s frame (k.machine.evaluateReceiver k.scope member receiver) fun ref s' =>
      s'.Receives k.machine.types owner ref :=
  evaluates_iff.2 (Discipline.evaluates_evaluateReceiver hs hf member receiver htyped
    (fun e heq => (he e heq).typing hm hw) hc)

end Setting

/-! ## Running lambdas -/

/-- Running a lambda with a well-typed body keeps the store well typed and yields a value of the
lambda's result type. -/
theorem Machine.keeps_run {m : Machine} (hm : m.types.Declared) (hw : m.WellBehaved)
    {c : Expr.Context} {parameters : List ParameterDecl} {body : Expr} {l : Lambda}
    (hl : Lambda.make parameters body = .ok l) (htyped : body.Typed m.types c) {s : Store}
    (hs : s.WellTyped m.types) (hliterals : ∀ v type, .constant v type ∈ body.nodes → s.Live v)
    {args : List Value} (hargs : ∀ v ∈ args, s.Live v) :
    Keeps m.types s (m.run l.compile args) fun v _ => m.types.conforms l.resultType v = true :=
  Action.keeps_iff.2 (Discipline.keeps_run hl htyped
    (htyped.imp fun _ hn => Discipline.allows_typing hm hw hn) hs hliterals hargs)

namespace Draft

/-- `x + 1`, of the first parameter. -/
def successor : Expr :=
  .binary .add (.parameter 0 .int32) (.constant (.int32 1) .int32)

/-- `y * y`, of a local binding. -/
def product : Expr :=
  .binary .mul (.readLocal 0 .int32) (.readLocal 0 .int32)

/-- What leads to `let y = x + 1 in y * y`. -/
def square : Draft where
  types := .empty
  next := 1
  drawn := [(0, successor)]
  built := [.letIn 0 successor product, product, .readLocal 0 .int32, successor,
    .constant (.int32 1) .int32, .parameter 0 .int32]

theorem reached_square : square.Reached := by
  have h₀ : Steps ⟨.empty, 0, [], []⟩ ⟨.empty, 0, [], []⟩ := .refl
  have h₁ := h₀.tail (.make (.parameter 0 .int32))
  have hone : TypeTable.empty.Holds (.int32 1) := by simp [TypeTable.Holds, Value.refs]
  have h₂ := h₁.tail (.make (.literal hone))
  have hadd : Expr.mkBinary .empty .add (.parameter 0 .int32) (.constant (.int32 1) .int32) =
      .ok successor := rfl
  have h₃ := h₂.tail (.make (.binary (by simp [add]) (List.mem_cons_self ..) hadd))
  have hsuccessor : ∀ rest : List Expr, successor ∈ successor :: rest := fun _ =>
    List.mem_cons_self ..
  have h₄ := h₃.tail (.draw (hsuccessor _))
  have hmul : Expr.mkBinary .empty .mul (.readLocal 0 .int32) (.readLocal 0 .int32) =
      .ok product := rfl
  have h₅ := h₄.tail (.make (.binary (List.mem_cons_self ..) (List.mem_cons_self ..) hmul))
  have hdrawn : (0, successor) ∈ [(0, successor)] := List.mem_singleton_self _
  have h₆ := h₅.tail (.bind hdrawn (List.mem_cons_self ..))
  exact ⟨_, _, h₆⟩

/-- A machine without supplied bodies. -/
def bare : Machine := ⟨.empty, fun _ _ _ => pure .null, fun _ _ _ => pure ()⟩

theorem wellBehaved_bare : bare.WellBehaved := by
  refine ⟨fun _ _ _ s hs _ _ => .pure hs (Store.live_null s), fun _ _ _ _ hs _ _ => .pure hs trivial,
    fun p _ _ _ _ hp => ?_⟩
  exact absurd hp.owner_lt (Nat.not_lt_zero _)

end Draft
end Reshape
