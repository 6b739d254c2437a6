import Reshape.Proofs.Expr.Numbering
import Reshape.Proofs.Store.Access

/-!
# Expressions that only read

An expression that assigns nothing, makes no objects and runs no supplied code leaves the store as it
is, and its value depends on the locals that are free in it only (`Expr.Reads.agree_of_lookup`).  Such
an expression, with what may be free in it, is described along its construction by `Expr.Reads`, and
node by node by `Expr.IsPure` and the check of scopes (`Expr.reads_iff`).
-/

namespace Reshape

/-- The method is a getter that was made for a slot. -/
def MethodRef.OnlyReads (r : MethodRef) : Prop :=
  (∃ slot, r.method.body = .loadSlot slot) ∨ ∃ slot, r.method.body = .loadStatic slot

/-- Reading the member runs no supplied code. -/
def MemberRef.OnlyReads : MemberRef → Prop
  | .field _ => True
  | .property p => ∀ getter, p.getter? = some getter → getter.OnlyReads

namespace Action

variable {α β : Type}

/-- Both actions have the same outcome from the store, and leave it as it is. -/
def Agree (s : Store) (a b : Action α) : Prop :=
  ∃ result, a.perform s = (result, s) ∧ b.perform s = (result, s)

variable {s : Store}

theorem Agree.pure (v : α) : Agree s (pure v) (pure v) := ⟨.ok v, rfl, rfl⟩

theorem Agree.throw (e : Error) : Agree s (MonadExcept.throw e : Action α) (MonadExcept.throw e) :=
  ⟨.error e, rfl, rfl⟩

theorem Agree.bind {a b : Action α} {f g : α → Action β} (h : Agree s a b)
    (hf : ∀ v, Agree s (f v) (g v)) : Agree s (a >>= f) (b >>= g) := by
  obtain ⟨result, ha, hb⟩ := h
  cases result with
  | error e => exact ⟨.error e, perform_bind_error ha, perform_bind_error hb⟩
  | ok v =>
    obtain ⟨result, hfv, hgv⟩ := hf v
    exact ⟨result, (perform_bind_ok ha).trans hfv, (perform_bind_ok hb).trans hgv⟩

theorem Agree.discard {a b : Action α} (h : Agree s a b) :
    Agree s (Functor.discard a) (Functor.discard b) := by
  rw [discard_eq_bind, discard_eq_bind]
  exact h.bind fun _ => .pure _

/-- An action that looks at the store. -/
theorem agree_get : Agree s (get : Action Store) get := ⟨.ok s, rfl, rfl⟩

theorem agree_ofCast (r : Except CastError α) : Agree s (ofCast r) (ofCast r) := by
  cases r with
  | ok v => exact .pure v
  | error e => exact .throw _

theorem agree_truth (v : Value) : Agree s (truth v) (truth v) := by
  cases v with
  | bool b => exact .pure b
  | _ => exact .throw _

theorem agree_receiver (v : Value) (member : String) :
    Agree s (receiver v member) (receiver v member) := by
  cases v with
  | object ref => exact .pure ref
  | _ => exact .throw _

theorem agree_operate (op : Operator) (l r : Value) : Agree s (operate op l r) (operate op l r) := by
  refine agree_get.bind fun seen => ?_
  cases op.apply seen l r with
  | ok v => exact .pure v
  | error e => exact .throw e

end Action

open Action (Agree)

/-! ## Reading members -/

namespace Machine

variable {m : Machine} {s : Store}

theorem agree_loadSlot (ref : ObjectRef) (slot : Nat) : Agree s (loadSlot ref slot) (loadSlot ref slot) := by
  refine Action.agree_get.bind fun seen => ?_
  split
  · exact .pure _
  · exact .throw _

theorem agree_loadStatic (owner : TypeId) (slot : Nat) :
    Agree s (m.loadStatic owner slot) (m.loadStatic owner slot) := by
  unfold loadStatic
  split
  · exact .throw _
  · exact Action.agree_get.bind fun seen => .pure _

theorem agree_requireInstance (receiver : Option ObjectRef) (member : String) :
    Agree s (requireInstance receiver member) (requireInstance receiver member) := by
  cases receiver with
  | some ref => exact .pure ref
  | none => exact .throw _

theorem agree_loadField (f : FieldRef) (receiver : Option ObjectRef) :
    Agree s (m.loadField f receiver) (m.loadField f receiver) := by
  unfold loadField
  split
  · exact agree_loadStatic _ _
  · exact (agree_requireInstance receiver _).bind fun ref => agree_loadSlot ref _

theorem agree_receiverFor (r : MethodRef) (receiver : Option ObjectRef) :
    Agree s (receiverFor r receiver) (receiverFor r receiver) := by
  rw [receiverFor]
  split
  · exact .pure none
  · rw [← bind_pure_comp]
    exact (agree_requireInstance receiver _).bind fun ref => .pure _

/-- A getter that was made for a slot leaves the store as it is. -/
theorem agree_invoke {r : MethodRef} (hr : r.OnlyReads) (receiver : Option ObjectRef)
    (args : List Value) : Agree s (m.invoke r receiver args) (m.invoke r receiver args) := by
  rw [invoke_eq]
  refine (agree_receiverFor r receiver).bind fun ref => ?_
  rw [runBody]
  obtain ⟨slot, hbody⟩ | ⟨slot, hbody⟩ := hr <;> rw [hbody]
  · exact (agree_requireInstance ref _).bind fun ref => agree_loadSlot ref slot
  · exact agree_loadStatic r.owner slot

theorem agree_load {member : MemberRef} (hm : member.OnlyReads) (receiver : Option ObjectRef) :
    Agree s (m.load member receiver) (m.load member receiver) := by
  cases member with
  | field f => exact agree_loadField f receiver
  | property p =>
    simp only [load]
    split
    · rename_i getter hgetter
      exact agree_invoke (hm getter hgetter) receiver []
    · exact .throw _

end Machine

namespace Expr

/-! ## Pure expressions -/

/-- The node assigns nothing, makes no object and runs no supplied code. -/
def IsPure : Expr → Prop
  | fieldSet _ _ _ | writePrimitive _ _ _ | construct _ _ => False
  | memberInit _ bindings => bindings = []
  | call r _ _ => r.OnlyReads
  | navigate _ m => m.OnlyReads
  | _ => True

/-- The expression is pure, and the locals that are free in it are among the given ones. -/
inductive Reads : List LocalId → Expr → Prop
  | binary {bound : List LocalId} {op : Operator} {lhs rhs : Expr} (hl : Reads bound lhs)
      (hr : Reads bound rhs) : Reads bound (.binary op lhs rhs)
  | call {bound : List LocalId} {r : MethodRef} {receiver : Option Expr} {es : List Expr}
      (hr : r.OnlyReads) (hreceiver : ∀ e, receiver = some e → Reads bound e)
      (hes : ∀ e ∈ es, Reads bound e) : Reads bound (.call r receiver es)
  | conditional {bound : List LocalId} {test thenExpr otherwise : Expr} (ht : Reads bound test)
      (h₁ : Reads bound thenExpr) (h₂ : Reads bound otherwise) :
      Reads bound (.conditional test thenExpr otherwise)
  | constant {bound : List LocalId} (v : Value) (type : ValueType) : Reads bound (.constant v type)
  | convert {bound : List LocalId} {rule : ConversionRule} {operand : Expr} {type : ValueType}
      (h : Reads bound operand) : Reads bound (.convert rule operand type)
  | zero {bound : List LocalId} (type : ValueType) : Reads bound (.zero type)
  | fieldGet {bound : List LocalId} {f : FieldRef} {receiver : Option Expr}
      (hreceiver : ∀ e, receiver = some e → Reads bound e) : Reads bound (.fieldGet f receiver)
  | index {bound : List LocalId} {list : Expr} {position : Nat} (h : Reads bound list) :
      Reads bound (.index list position)
  | letIn {bound : List LocalId} {id : LocalId} {value body : Expr} (hv : Reads bound value)
      (hb : Reads (id :: bound) body) : Reads bound (.letIn id value body)
  | readLocal {bound : List LocalId} {id : LocalId} {type : ValueType} (h : id ∈ bound) :
      Reads bound (.readLocal id type)
  | memberInit {bound : List LocalId} {object : Expr} (h : Reads bound object) :
      Reads bound (.memberInit object [])
  | navigate {bound : List LocalId} {receiver : Expr} {m : MemberRef} (hm : m.OnlyReads)
      (h : Reads bound receiver) : Reads bound (.navigate receiver m)
  | negate {bound : List LocalId} {operand : Expr} (h : Reads bound operand) :
      Reads bound (.negate operand)
  | parameter {bound : List LocalId} (place : Nat) (type : ValueType) :
      Reads bound (.parameter place type)
  | sequence {bound : List LocalId} {front : List Expr} {last : Expr}
      (hf : ∀ e ∈ front, Reads bound e) (hl : Reads bound last) : Reads bound (.sequence front last)

theorem checkAllScopes_eq_ok {bound : List LocalId} {es : List Expr} :
    checkAllScopes bound es = .ok () ↔ ∀ e ∈ es, e.checkScopes bound = .ok () := by
  induction es with
  | nil => simp [checkAllScopes, pure, Except.pure]
  | cons e es ih =>
    rw [checkAllScopes, bind_eq_ok, List.forall_mem_cons, ← ih]
    exact ⟨fun ⟨⟨⟩, he, hes⟩ => ⟨he, hes⟩, fun ⟨he, hes⟩ => ⟨(), he, hes⟩⟩

theorem checkReceiverScopes_eq_ok {bound : List LocalId} {receiver : Option Expr} :
    checkReceiverScopes bound receiver = .ok () ↔
      ∀ e, receiver = some e → e.checkScopes bound = .ok () := by
  cases receiver with
  | none => simp [checkReceiverScopes, pure, Except.pure]
  | some e => simp [checkReceiverScopes]

/-- A chain of two checks passes if both do. -/
theorem seq_eq_ok {x y : Except Error Unit} : (x >>= fun _ => y) = .ok () ↔ x = .ok () ∧ y = .ok () := by
  rw [bind_eq_ok]
  exact ⟨fun ⟨⟨⟩, hx, hy⟩ => ⟨hx, hy⟩, fun ⟨hx, hy⟩ => ⟨(), hx, hy⟩⟩

/-- A pure expression whose scopes are checked only reads. -/
theorem reads_of_checkScopes {bound : List LocalId} (e : Expr) (hp : e.Each IsPure)
    (hc : e.checkScopes bound = .ok ()) : Reads bound e := by
  match e with
  | .binary op lhs rhs =>
    obtain ⟨-, hpl, hpr⟩ := each_binary.1 hp
    rw [checkScopes, seq_eq_ok] at hc
    exact .binary (reads_of_checkScopes lhs hpl hc.1) (reads_of_checkScopes rhs hpr hc.2)
  | .call r receiver es =>
    obtain ⟨hr, hprec, hpes⟩ := each_call.1 hp
    rw [checkScopes, seq_eq_ok, checkReceiverScopes_eq_ok, checkAllScopes_eq_ok] at hc
    refine .call hr (fun part hpart => ?_) fun part hpart => ?_
    · exact reads_of_checkScopes part (hprec part hpart) (hc.1 part hpart)
    · exact reads_of_checkScopes part (hpes part hpart) (hc.2 part hpart)
  | .conditional test thenExpr otherwise =>
    obtain ⟨-, hpt, hp₁, hp₂⟩ := each_conditional.1 hp
    rw [checkScopes, seq_eq_ok, seq_eq_ok] at hc
    exact .conditional (reads_of_checkScopes test hpt hc.1) (reads_of_checkScopes thenExpr hp₁ hc.2.1)
      (reads_of_checkScopes otherwise hp₂ hc.2.2)
  | .constant v type => exact .constant v type
  | .convert rule operand type =>
    rw [checkScopes] at hc
    exact .convert (reads_of_checkScopes operand (each_convert.1 hp).2 hc)
  | .zero type => exact .zero type
  | .fieldGet f receiver =>
    rw [checkScopes, checkReceiverScopes_eq_ok] at hc
    exact .fieldGet fun part hpart =>
      reads_of_checkScopes part ((each_fieldGet.1 hp).2 part hpart) (hc part hpart)
  | .fieldSet f receiver value => exact (each_fieldSet.1 hp).1.elim
  | .index list position =>
    rw [checkScopes] at hc
    exact .index (reads_of_checkScopes list (each_index.1 hp).2 hc)
  | .letIn id value body =>
    obtain ⟨-, hpv, hpb⟩ := each_letIn.1 hp
    rw [checkScopes, seq_eq_ok] at hc
    exact .letIn (reads_of_checkScopes value hpv hc.1) (reads_of_checkScopes body hpb hc.2)
  | .readLocal id type =>
    rw [checkScopes] at hc
    refine .readLocal ?_
    by_contra hid
    simp [hid] at hc
  | .memberInit object bindings =>
    obtain ⟨hbindings, hpo, -⟩ := each_memberInit.1 hp
    cases hbindings
    rw [checkScopes, seq_eq_ok] at hc
    exact .memberInit (reads_of_checkScopes object hpo hc.1)
  | .navigate receiver m =>
    obtain ⟨hm, hpr⟩ := each_navigate.1 hp
    rw [checkScopes] at hc
    exact .navigate hm (reads_of_checkScopes receiver hpr hc)
  | .construct c es => exact (each_construct.1 hp).1.elim
  | .negate operand =>
    rw [checkScopes] at hc
    exact .negate (reads_of_checkScopes operand (each_negate.1 hp).2 hc)
  | .parameter place type => exact .parameter place type
  | .sequence front last =>
    obtain ⟨-, hpf, hpl⟩ := each_sequence.1 hp
    rw [checkScopes, seq_eq_ok, checkAllScopes_eq_ok] at hc
    refine .sequence (fun part hpart => ?_) (reads_of_checkScopes last hpl hc.2)
    exact reads_of_checkScopes part (hpf part hpart) (hc.1 part hpart)
  | .writePrimitive f receiver value => exact (each_writePrimitive.1 hp).1.elim
termination_by sizeOf e
decreasing_by
  all_goals exact sizeOf_lt_of_mem_children (by simp [children, *])

namespace Reads

variable {bound bound' : List LocalId} {e : Expr}

theorem isPure (h : Reads bound e) : e.Each IsPure := by
  induction h with
  | binary _ _ ihl ihr => exact each_binary.2 ⟨trivial, ihl, ihr⟩
  | call hr _ _ ihreceiver ihes => exact each_call.2 ⟨hr, ihreceiver, ihes⟩
  | conditional _ _ _ iht ih₁ ih₂ => exact each_conditional.2 ⟨trivial, iht, ih₁, ih₂⟩
  | constant v type => exact each_constant.2 trivial
  | convert _ ih => exact each_convert.2 ⟨trivial, ih⟩
  | zero type => exact each_zero.2 trivial
  | fieldGet _ ihreceiver => exact each_fieldGet.2 ⟨trivial, ihreceiver⟩
  | index _ ih => exact each_index.2 ⟨trivial, ih⟩
  | letIn _ _ ihv ihb => exact each_letIn.2 ⟨trivial, ihv, ihb⟩
  | readLocal _ => exact each_readLocal.2 trivial
  | memberInit _ ih => exact each_memberInit.2 ⟨rfl, ih, by simp⟩
  | navigate hm _ ih => exact each_navigate.2 ⟨hm, ih⟩
  | negate _ ih => exact each_negate.2 ⟨trivial, ih⟩
  | parameter place type => exact each_parameter.2 trivial
  | sequence _ _ ihf ihl => exact each_sequence.2 ⟨trivial, ihf, ihl⟩

theorem checkScopes_eq_ok (h : Reads bound e) : e.checkScopes bound = .ok () := by
  induction h with
  | constant | zero | parameter => rfl
  | binary _ _ ihl ihr =>
    rw [checkScopes, seq_eq_ok]
    exact ⟨ihl, ihr⟩
  | call _ _ _ ihreceiver ihes =>
    rw [checkScopes, seq_eq_ok, checkReceiverScopes_eq_ok, checkAllScopes_eq_ok]
    exact ⟨ihreceiver, ihes⟩
  | conditional _ _ _ iht ih₁ ih₂ =>
    rw [checkScopes, seq_eq_ok, seq_eq_ok]
    exact ⟨iht, ih₁, ih₂⟩
  | convert _ ih | index _ ih | navigate _ _ ih | negate _ ih =>
    rw [checkScopes]
    exact ih
  | fieldGet _ ihreceiver =>
    rw [checkScopes, checkReceiverScopes_eq_ok]
    exact ihreceiver
  | letIn _ _ ihv ihb =>
    rw [checkScopes, seq_eq_ok]
    exact ⟨ihv, ihb⟩
  | readLocal hid => rw [checkScopes, if_pos (by simpa using hid)]; rfl
  | memberInit _ ih =>
    rw [checkScopes, seq_eq_ok]
    exact ⟨ih, rfl⟩
  | sequence _ _ ihf ihl =>
    rw [checkScopes, seq_eq_ok, checkAllScopes_eq_ok]
    exact ⟨ihf, ihl⟩

end Reads

/-- Purity and scopes, node by node and along the construction. -/
theorem reads_iff {bound : List LocalId} {e : Expr} :
    Reads bound e ↔ e.Each IsPure ∧ e.checkScopes bound = .ok () :=
  ⟨fun h => ⟨h.isPure, h.checkScopes_eq_ok⟩, fun h => reads_of_checkScopes e h.1 h.2⟩

namespace Reads

variable {bound bound' : List LocalId} {e : Expr}

/-- More locals may be in scope. -/
theorem mono (h : Reads bound e) (hsub : bound ⊆ bound') : Reads bound' e := by
  induction h generalizing bound' with
  | binary _ _ ihl ihr => exact .binary (ihl hsub) (ihr hsub)
  | call hr _ _ ihreceiver ihes =>
    exact .call hr (fun e he => ihreceiver e he hsub) fun e he => ihes e he hsub
  | conditional _ _ _ iht ih₁ ih₂ => exact .conditional (iht hsub) (ih₁ hsub) (ih₂ hsub)
  | constant v type => exact .constant v type
  | convert _ ih => exact .convert (ih hsub)
  | zero type => exact .zero type
  | fieldGet _ ihreceiver => exact .fieldGet fun e he => ihreceiver e he hsub
  | index _ ih => exact .index (ih hsub)
  | letIn _ _ ihv ihb => exact .letIn (ihv hsub) (ihb (List.cons_subset_cons _ hsub))
  | readLocal hid => exact .readLocal (hsub hid)
  | memberInit _ ih => exact .memberInit (ih hsub)
  | navigate hm _ ih => exact .navigate hm (ih hsub)
  | negate _ ih => exact .negate (ih hsub)
  | parameter place type => exact .parameter place type
  | sequence _ _ ihf ihl => exact .sequence (fun e he => ihf e he hsub) (ihl hsub)

theorem convertBy {t : TypeTable} {rule : ConversionRule} (h : Reads bound e) (target : ValueType) :
    Reads bound (Expr.convertBy t rule e target) := by
  unfold Expr.convertBy
  split
  · exact h
  · split
    · exact .constant _ _
    · exact .convert h
  · exact .convert h

theorem coerce {t : TypeTable} {e' : Expr} {target : ValueType} (h : Reads bound e)
    (he : e.coerce t target = .ok e') : Reads bound e' := by
  obtain ⟨rule, -, rfl⟩ := convertTo_eq_ok he
  exact h.convertBy target

end Reads

/-! ## Evaluation

Expressions of one form agree if their parts do, each in scopes of its own. -/

section Evaluation

variable {m : Machine} {s : Store} {args args' : List Value} {locals locals' : Locals}

/-- Two expressions have the same outcome, each with its own arguments and locals in scope. -/
def AgreeIn (m : Machine) (s : Store) (args : List Value) (locals : Locals) (e : Expr)
    (args' : List Value) (locals' : Locals) (e' : Expr) : Prop :=
  Agree s (m.evaluateIn args locals e) (m.evaluateIn args' locals' e')

theorem agree_evaluateAllIn {es es' : List Expr}
    (h : List.Forall₂ (fun e e' => AgreeIn m s args locals e args' locals' e') es es') :
    Agree s (m.evaluateAllIn args locals es) (m.evaluateAllIn args' locals' es') := by
  induction h with
  | nil =>
    rw [Machine.evaluateAllIn, Machine.evaluateAllIn]
    exact .pure []
  | cons he _ ih =>
    rw [Machine.evaluateAllIn, Machine.evaluateAllIn]
    exact Agree.bind he fun v => ih.bind fun vs => .pure _

theorem agree_evaluateReceiverIn {member : String} {receiver receiver' : Option Expr}
    (h : Option.Rel (fun e e' => AgreeIn m s args locals e args' locals' e') receiver receiver') :
    Agree s (m.evaluateReceiverIn args locals member receiver)
      (m.evaluateReceiverIn args' locals' member receiver') := by
  cases h with
  | none =>
    rw [Machine.evaluateReceiverIn, Machine.evaluateReceiverIn]
    exact .pure none
  | some he =>
    rw [Machine.evaluateReceiverIn, Machine.evaluateReceiverIn]
    exact Agree.bind he fun v => (Action.agree_receiver v member).bind fun ref => .pure _

namespace AgreeIn

variable {e e' lhs lhs' rhs rhs' test test' thenExpr thenExpr' otherwise otherwise' : Expr}
  {es es' : List Expr} {receiver receiver' : Option Expr}

theorem binary {op : Operator} (hl : AgreeIn m s args locals lhs args' locals' lhs')
    (hr : AgreeIn m s args locals rhs args' locals' rhs') :
    AgreeIn m s args locals (.binary op lhs rhs) args' locals' (.binary op lhs' rhs') := by
  cases hop : op.isLogical with
  | true =>
    cases op <;> cases hop <;> rw [AgreeIn, Machine.evaluateIn, Machine.evaluateIn]
    · refine Agree.bind hl fun v => (Action.agree_truth v).bind fun b => ?_
      cases b
      · exact .pure _
      · exact hr
    · refine Agree.bind hl fun v => (Action.agree_truth v).bind fun b => ?_
      cases b
      · exact hr
      · exact .pure _
  | false =>
    rw [AgreeIn, Machine.evaluateIn_strict _ _ _ hop, Machine.evaluateIn_strict _ _ _ hop]
    exact Agree.bind hl fun l => Agree.bind hr fun r => Action.agree_operate op l r

theorem call {r : MethodRef} (hr : r.OnlyReads)
    (hreceiver : Option.Rel (fun e e' => AgreeIn m s args locals e args' locals' e') receiver receiver')
    (hes : List.Forall₂ (fun e e' => AgreeIn m s args locals e args' locals' e') es es') :
    AgreeIn m s args locals (.call r receiver es) args' locals' (.call r receiver' es') := by
  rw [AgreeIn, Machine.evaluateIn, Machine.evaluateIn]
  refine (agree_evaluateReceiverIn hreceiver).bind fun ref => (agree_evaluateAllIn hes).bind fun vs => ?_
  exact (Machine.agree_invoke hr ref vs).bind fun v => Action.agree_ofCast _

theorem conditional (ht : AgreeIn m s args locals test args' locals' test')
    (h₁ : AgreeIn m s args locals thenExpr args' locals' thenExpr')
    (h₂ : AgreeIn m s args locals otherwise args' locals' otherwise') :
    AgreeIn m s args locals (.conditional test thenExpr otherwise) args' locals'
      (.conditional test' thenExpr' otherwise') := by
  rw [AgreeIn, Machine.evaluateIn, Machine.evaluateIn]
  refine Agree.bind ht fun v => (Action.agree_truth v).bind fun b => ?_
  cases b
  · exact h₂
  · exact h₁

theorem constant (v : Value) (type : ValueType) :
    AgreeIn m s args locals (.constant v type) args' locals' (.constant v type) := by
  rw [AgreeIn, Machine.evaluateIn, Machine.evaluateIn]
  exact .pure v

theorem convert {rule : ConversionRule} {type : ValueType}
    (h : AgreeIn m s args locals e args' locals' e') :
    AgreeIn m s args locals (.convert rule e type) args' locals' (.convert rule e' type) := by
  rw [AgreeIn, Machine.evaluateIn, Machine.evaluateIn]
  exact Agree.bind h fun v => Action.agree_ofCast _

theorem zero (type : ValueType) :
    AgreeIn m s args locals (.zero type) args' locals' (.zero type) := by
  rw [AgreeIn, Machine.evaluateIn, Machine.evaluateIn]
  exact .pure _

theorem fieldGet {f : FieldRef}
    (hreceiver : Option.Rel (fun e e' => AgreeIn m s args locals e args' locals' e') receiver receiver') :
    AgreeIn m s args locals (.fieldGet f receiver) args' locals' (.fieldGet f receiver') := by
  rw [AgreeIn, Machine.evaluateIn, Machine.evaluateIn]
  exact (agree_evaluateReceiverIn hreceiver).bind fun ref => Machine.agree_loadField f ref

theorem index {position : Nat} (h : AgreeIn m s args locals e args' locals' e') :
    AgreeIn m s args locals (.index e position) args' locals' (.index e' position) := by
  rw [AgreeIn, Machine.evaluateIn, Machine.evaluateIn]
  refine Agree.bind h fun v => ?_
  cases v with
  | list items =>
    cases hitem : items[position]? with
    | some item =>
      simp only [hitem]
      exact .pure item
    | none =>
      simp only [hitem]
      exact .throw _
  | _ => exact .throw _

/-- The numbers of the bindings may differ, if the bodies agree with each in scope. -/
theorem letIn {id id' : LocalId} (hv : AgreeIn m s args locals e args' locals' e')
    (hb : ∀ v, AgreeIn m s args ((id, v) :: locals) lhs args' ((id', v) :: locals') lhs') :
    AgreeIn m s args locals (.letIn id e lhs) args' locals' (.letIn id' e' lhs') := by
  rw [AgreeIn, Machine.evaluateIn, Machine.evaluateIn]
  exact Agree.bind hv hb

theorem readLocal {id id' : LocalId} {type type' : ValueType} {v : Value}
    (h : locals.lookup id = some v) (h' : locals'.lookup id' = some v) :
    AgreeIn m s args locals (.readLocal id type) args' locals' (.readLocal id' type') := by
  rw [AgreeIn, Machine.evaluateIn, Machine.evaluateIn]
  simp only [h, h']
  exact .pure v

theorem memberInit (h : AgreeIn m s args locals e args' locals' e') :
    AgreeIn m s args locals (.memberInit e []) args' locals' (.memberInit e' []) := by
  rw [AgreeIn, Machine.evaluateIn, Machine.evaluateIn]
  refine Agree.bind h fun v => ?_
  cases v with
  | object ref => exact .pure _
  | _ => exact .throw _

theorem navigate {member : MemberRef} (hm : member.OnlyReads)
    (h : AgreeIn m s args locals e args' locals' e') :
    AgreeIn m s args locals (.navigate e member) args' locals' (.navigate e' member) := by
  rw [AgreeIn, Machine.evaluateIn, Machine.evaluateIn]
  refine Agree.bind h fun v => ?_
  cases v with
  | null => exact .pure _
  | object ref => exact Machine.agree_load hm (some ref)
  | _ => exact .throw _

theorem negate (h : AgreeIn m s args locals e args' locals' e') :
    AgreeIn m s args locals (.negate e) args' locals' (.negate e') := by
  rw [AgreeIn, Machine.evaluateIn, Machine.evaluateIn]
  exact Agree.bind h fun v => (Action.agree_truth v).bind fun b => .pure _

theorem sequence (hf : List.Forall₂ (fun e e' => AgreeIn m s args locals e args' locals' e') es es')
    (hl : AgreeIn m s args locals e args' locals' e') :
    AgreeIn m s args locals (.sequence es e) args' locals' (.sequence es' e') := by
  rw [AgreeIn, Machine.evaluateIn, Machine.evaluateIn]
  exact (agree_evaluateAllIn hf).discard.bind fun _ => hl

/-- The same parameter of the same arguments. -/
theorem parameter (place : Nat) (type : ValueType) :
    AgreeIn m s args locals (.parameter place type) args locals' (.parameter place type) := by
  rw [AgreeIn, Machine.evaluateIn, Machine.evaluateIn]
  cases args[place]? with
  | some v => exact .pure v
  | none => exact .throw _

end AgreeIn

theorem optionRel_self {α : Type} {R : α → α → Prop} {o : Option α} (h : ∀ a, o = some a → R a a) :
    Option.Rel R o o := by
  cases o with
  | none => exact .none
  | some a => exact .some (h a rfl)

theorem optionRel_imp {α β : Type} {R S : α → β → Prop} {o : Option α} {o' : Option β}
    (h : Option.Rel R o o') (hRS : ∀ a b, R a b → S a b) : Option.Rel S o o' := by
  cases h with
  | none => exact .none
  | some hab => exact .some (hRS _ _ hab)

/-- A pure expression leaves the store as it is, and only the locals that are free in it matter. -/
theorem Reads.agree_of_lookup {bound : List LocalId} {e : Expr} (h : Reads bound e)
    (hlookup : ∀ id ∈ bound, ∃ v, locals.lookup id = some v ∧ locals'.lookup id = some v) :
    AgreeIn m s args locals e args locals' e := by
  induction h generalizing locals locals' with
  | binary _ _ ihl ihr => exact .binary (ihl hlookup) (ihr hlookup)
  | call hr _ _ ihreceiver ihes =>
    exact .call hr (optionRel_self fun e he => ihreceiver e he hlookup)
      (List.forall₂_same.2 fun e he => ihes e he hlookup)
  | conditional _ _ _ iht ih₁ ih₂ => exact .conditional (iht hlookup) (ih₁ hlookup) (ih₂ hlookup)
  | constant v type => exact .constant v type
  | convert _ ih => exact .convert (ih hlookup)
  | zero type => exact .zero type
  | fieldGet _ ihreceiver => exact .fieldGet (optionRel_self fun e he => ihreceiver e he hlookup)
  | index _ ih => exact .index (ih hlookup)
  | @letIn bound id value body _ _ ihv ihb =>
    refine .letIn (ihv hlookup) fun v => ihb fun other hother => ?_
    by_cases heq : other = id
    · subst heq
      exact ⟨v, List.lookup_cons_self, List.lookup_cons_self⟩
    · obtain ⟨w, hw, hw'⟩ := hlookup other ((List.mem_cons.1 hother).resolve_left heq)
      refine ⟨w, ?_, ?_⟩
      · rwa [List.lookup_cons, beq_false_of_ne heq]
      · rwa [List.lookup_cons, beq_false_of_ne heq]
  | readLocal hid =>
    obtain ⟨v, hv, hv'⟩ := hlookup _ hid
    exact .readLocal hv hv'
  | memberInit _ ih => exact .memberInit (ih hlookup)
  | navigate hm _ ih => exact .navigate hm (ih hlookup)
  | negate _ ih => exact .negate (ih hlookup)
  | parameter place type => exact .parameter place type
  | sequence _ _ ihf ihl =>
    exact .sequence (List.forall₂_same.2 fun e he => ihf e he hlookup) (ihl hlookup)

end Evaluation

end Expr
end Reshape
