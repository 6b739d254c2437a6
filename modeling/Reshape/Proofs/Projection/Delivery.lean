import Reshape.Projection.Compiled
import Reshape.Proofs.Expr.Computation

/-!
# Running projections

A projection whose arguments and initialisers have the types that they are handed to is assembled as it
stands (`Projection.assemble_eq`).  Running it makes one fresh object, and its slots are the zero values
of their types overwritten by the steps of the constructor and then by the initialisers
(`Projection.perform_apply`).
-/

namespace Reshape

/-! ## Assembling -/

namespace Expr

variable {t : TypeTable}

/-- Arguments of their parameters' types are taken as they are. -/
theorem coerceArguments_self {callee : String} {parameters : List Parameter} {es : List Expr}
    (h : List.Forall₂ (fun p e => e.type = p.type) parameters es) :
    coerceArguments t callee parameters es = .ok es := by
  simpa using coerceArguments_append h []

/-- As many arguments as parameters, of their types, are bound as they are. -/
theorem bindArguments_eq_self {callee : String} {parameters : List Parameter} {es : List Expr}
    (h : List.Forall₂ (fun p e => e.type = p.type) parameters es) :
    bindArguments t parameters es callee = .ok es := by
  have hlength : parameters.length = es.length := h.length_eq
  have hdefaults : defaultArguments t (parameters.drop es.length) = .ok [] := by
    rw [List.drop_eq_nil_of_le (Nat.le_of_eq hlength)]
    rfl
  exact bindArguments_eq_ok.2 ⟨⟨hlength ▸ List.countP_le_length, Nat.le_of_eq hlength.symm⟩, es, [],
    coerceArguments_self h, hdefaults, (List.append_nil es).symm⟩

/-- An initialiser of its member's type is taken as it is. -/
theorem bindMember_self {type : TypeId} {target : AssignTarget} {value : Expr}
    {bound : AssignTarget × Expr}
    (h : ∀ owner memberType name, targetParts target = .ok (owner, memberType, name) →
      value.type = memberType)
    (hbound : bindMember t type target value = .ok bound) : bound = (target, value) := by
  obtain ⟨⟨owner, memberType, name⟩, hparts, hbound⟩ := bind_eq_ok.1 hbound
  simp only at hbound
  split at hbound
  · cases hbound
  · obtain ⟨value', hvalue, hbound⟩ := bind_eq_ok.1 hbound
    rw [← h owner memberType name hparts, Expr.coerce_self] at hvalue
    cases hvalue
    cases hbound
    rfl

/-- What an initialiser stores has the type of the member that it assigns. -/
theorem type_of_targetParts {member : MemberRef} (hm : t.HasMember member)
    (ht : t.Sound member.owner) {target : AssignTarget} (htarget : member.AssignedBy target)
    {owner : TypeId} {type : ValueType} {name : String}
    (h : targetParts target = .ok (owner, type, name)) : type = member.type := by
  cases target with
  | field f =>
    obtain rfl : member = .field f := htarget
    by_cases hinit : f.field.initOnly = true
    · rw [targetParts, if_pos hinit] at h
      cases h
    · rw [targetParts, if_neg hinit] at h
      cases h
      rfl
  | primitive f =>
    obtain rfl : member = .field f := htarget
    cases h
    rfl
  | setter g =>
    obtain ⟨p, rfl, hg⟩ := htarget
    obtain ⟨-, -, hsetter⟩ := TypeTable.HasProperty.setter hm ht hg
    rw [targetParts, hsetter.parameters] at h
    cases h
    rfl

end Expr

namespace Projection

/-- A projection of the source object with the arguments and initialisers as they are. -/
def assembled (source : TypeId) (r : ConstructorRef) (args : List Expr)
    (bindings : List (AssignTarget × Expr)) : Projection :=
  ⟨⟨[⟨"source", .object source⟩], .memberInit (.construct r args) bindings⟩, r.owner⟩

/-- Parts of the right types are assembled as they are. -/
theorem assemble_eq {t : TypeTable} {source : TypeId} {r : ConstructorRef} {args : List Expr}
    {bindings : List (AssignTarget × Expr)} {p : Projection}
    (hargs : List.Forall₂ (fun p e => e.type = p.type) r.constructor.parameters args)
    (hbindings : ∀ b ∈ bindings, ∀ owner type name,
      Expr.targetParts b.1 = .ok (owner, type, name) → b.2.type = type)
    (h : assemble t source r args bindings = .ok p) : p = assembled source r args bindings := by
  obtain ⟨object, hobject, h⟩ := bind_eq_ok.1 h
  obtain ⟨body, hbody, h⟩ := bind_eq_ok.1 h
  obtain ⟨l, hl, h⟩ := bind_eq_ok.1 h
  cases h
  obtain ⟨es, hes, hobject⟩ := bind_eq_ok.1 hobject
  cases hobject
  obtain rfl := Except.ok.inj ((Expr.bindArguments_eq_self hargs).symm.trans hes)
  obtain ⟨bound, hbound, hbody⟩ := bind_eq_ok.1 hbody
  cases hbody
  have hsame : bound = bindings :=
    eq_of_forall₂ (mapM_eq_ok.1 hbound) fun b hb _ h => Expr.bindMember_self (hbindings b hb) h
  subst hsame
  obtain ⟨_, -, hl⟩ := bind_eq_ok.1 hl
  obtain ⟨_, -, hl⟩ := bind_eq_ok.1 hl
  cases hl
  rfl

end Projection

/-! ## Running -/

namespace Machine

open Evaluation (Computes Settles)
open Action

variable {m : Machine} {scope : Scope} {s : Store} {fits : List Value → Prop}

/-- Several expressions settle on their values in order. -/
theorem settles_evaluateAll {es : List Expr} {vs : List Value}
    (h : List.Forall₂ (fun e v => Settles s fits (m.evaluate scope e) v) es vs) :
    Settles s fits (m.evaluateAll scope es) vs := by
  induction h with
  | nil =>
    rw [evaluateAll]
    exact (Computes.pure []).settles
  | @cons e v es vs he _ ih =>
    rw [evaluateAll]
    exact he.bind (ih.bind (Computes.pure (v :: vs)).settles)

/-- Assigning by the target is a write of the value, on every object of the type that is fresh in the
store. -/
def AssignWrites (m : Machine) (s : Store) (type : TypeId) (target : AssignTarget)
    (w : Nat × Value) : Prop :=
  ∀ r : Record, r.type = type →
    (m.assign ⟨s.heap.size, type⟩ target w.2).perform (s.push r) = (.ok (), s.push (r.write w))

/-- An initialiser writes a value. -/
structure InitWrites (m : Machine) (scope : Scope) (s : Store) (fits : List Value → Prop)
    (type : TypeId) (b : AssignTarget × Expr) (w : Nat × Value) : Prop where
  /-- The value is what its expression denotes. -/
  denotes : m.Denotes scope s fits b.2 w.2
  /-- The target writes it. -/
  writes : m.AssignWrites s type b.1 w

/-- An initialiser writes a value that its expression settles on, converted by the way. -/
structure InitSettles (m : Machine) (scope : Scope) (s : Store) (fits : List Value → Prop)
    (type : TypeId) (b : AssignTarget × Expr) (w : Nat × Value) : Prop where
  /-- The value is written to every object of the type that is fresh in the store. -/
  writes : ∃ v, Settles s fits (m.evaluate scope b.2) v ∧ ∀ r : Record, r.type = type →
    (m.assign ⟨s.heap.size, type⟩ b.1 v).perform (s.push r) = (.ok (), s.push (r.write w))

theorem InitWrites.settles {type : TypeId} {b : AssignTarget × Expr} {w : Nat × Value}
    (h : m.InitWrites scope s fits type b w) : m.InitSettles scope s fits type b w :=
  ⟨w.2, h.denotes.computes.settles, h.writes⟩

/-- Initialisers write their values to a fresh object, one after the other. -/
theorem perform_initialise {type : TypeId} {bindings : List (AssignTarget × Expr)}
    {ws : List (Nat × Value)} (h : List.Forall₂ (m.InitSettles scope s fits type) bindings ws)
    {r : Record} (hr : r.type = type) {frame : List Value} (hframe : fits frame) :
    ∃ frame', fits frame' ∧
      ((m.initialise scope ⟨s.heap.size, type⟩ bindings).run frame).perform (s.push r) =
        (.ok ((), frame'), s.push (r.writes ws)) := by
  induction h generalizing r frame with
  | nil =>
    rw [initialise]
    exact ⟨frame, hframe, rfl⟩
  | @cons b w bindings ws hb _ ih =>
    obtain ⟨v, hsettles, hwrites⟩ := hb.writes
    obtain ⟨frame₁, hframe₁, hvalue⟩ :=
      hsettles (s.push r) (Store.widens_push s r) frame hframe
    have hwrite := hwrites r hr
    obtain ⟨frame₂, hframe₂, hrest⟩ := ih (r := r.write w) hr hframe₁
    have hlift : (liftM (m.assign ⟨s.heap.size, type⟩ b.1 v) : Evaluation Unit).run frame₁ =
        m.assign ⟨s.heap.size, type⟩ b.1 v >>= fun u => pure (u, frame₁) := rfl
    refine ⟨frame₂, hframe₂, ?_⟩
    rw [initialise, StateT.run_bind, perform_bind_ok hvalue, StateT.run_bind]
    simp only
    rw [hlift, bind_assoc, perform_bind_ok hwrite, pure_bind]
    exact hrest

end Machine

namespace Projection

open Action

variable {m : Machine} {s : Store} {source : TypeId} {r : ConstructorRef} {args : List Expr}
  {bindings : List (AssignTarget × Expr)}

/-- What a projection of a value is evaluated in. -/
def scope (p : Projection) (v : Value) : Scope :=
  ⟨[v], p.lambda.compile.layout⟩

/-- All bindings in the parts of a projection have a slot. -/
theorem each_hasSlot_assembled {p : Projection} (hp : p = assembled source r args bindings) (v : Value) :
    (∀ e ∈ args, e.Each (Expr.HasSlot (p.scope v).layout)) ∧
      ∀ b ∈ bindings, b.2.Each (Expr.HasSlot (p.scope v).layout) := by
  have hall := Expr.each_hasSlot_compile p.lambda
  have hbody : p.lambda.body = .memberInit (.construct r args) bindings := by
    rw [hp]
    rfl
  rw [hbody] at hall
  obtain ⟨-, hobject, hbindings⟩ := Expr.each_memberInit.1 hall
  exact ⟨(Expr.each_construct.1 hobject).2, hbindings⟩

/-- A projection makes one object: the steps of its constructor write to a fresh one, and then its
initialisers do. -/
theorem perform_apply_of_settles {p : Projection} (hp : p = assembled source r args bindings)
    {ref : ObjectRef}
    (hsub : m.types.isSubtype ref.type source = true) {steps : List SlotInit}
    (hbody : r.constructor.body = .assign steps) {vs : List Value}
    (hlength : vs.length = r.constructor.parameters.length)
    (hargs : List.Forall₂ (fun e v => Evaluation.Settles s (p.scope (.object ref)).Frame
      (m.evaluate (p.scope (.object ref)) e) v) args vs)
    {ws ws' : List (Nat × Value)} (hsteps : List.Forall₂ (m.StepWrites r.owner vs) steps ws)
    (hbindings : List.Forall₂
      (m.InitSettles (p.scope (.object ref)) s (p.scope (.object ref)).Frame r.owner) bindings ws') :
    (p.apply m (.object ref)).perform s =
      (.ok (.object ⟨s.heap.size, r.owner⟩),
        s.push ((m.zeros r.owner).writes (ws ++ ws'))) := by
  have hcheck : m.checkArguments 0 p.lambda.compile.parameters [.object ref] = .ok () := by
    have hconf : m.types.conforms (.object source) (.object ref) = true := hsub
    subst hp
    simp only [assembled, Lambda.compile, List.map_cons, List.map_nil, Machine.checkArguments,
      hconf, if_true]
  have hone : p.lambda.compile.parameters.length = 1 := by
    subst hp
    rfl
  have hframe : (p.scope (.object ref)).Frame
      (List.replicate p.lambda.compile.layout.length Value.null) := List.length_replicate
  -- the arguments, the object, and then its initialisers
  obtain ⟨frame₁, hframe₁, hvs⟩ :=
    Machine.settles_evaluateAll hargs s (.refl s) _ hframe
  have hconstruct := Machine.perform_construct (s := s) hbody hlength hsteps
  obtain ⟨frame₂, -, hinit⟩ := Machine.perform_initialise hbindings
    (r := (m.zeros r.owner).writes ws) (Record.writes_type _ _) hframe₁
  have hbody' : p.lambda.compile.body = .memberInit (.construct r args) bindings := by
    subst hp
    rfl
  have hobject : ((m.evaluate (p.scope (.object ref)) (.construct r args)).run
      (List.replicate p.lambda.compile.layout.length Value.null)).perform s =
        (.ok (.object ⟨s.heap.size, r.owner⟩, frame₁), s.push ((m.zeros r.owner).writes ws)) := by
    have hlift : (liftM (m.construct r vs) : Evaluation ObjectRef).run frame₁ =
        m.construct r vs >>= fun v => pure (v, frame₁) := rfl
    rw [Machine.evaluate, StateT.run_bind, perform_bind_ok hvs, StateT.run_bind]
    simp only
    rw [hlift, bind_assoc, perform_bind_ok hconstruct]
    rfl
  have hall : ((m.evaluate (p.scope (.object ref)) p.lambda.compile.body).run
      (List.replicate p.lambda.compile.layout.length Value.null)).perform s =
        (.ok (.object ⟨s.heap.size, r.owner⟩, frame₂),
          s.push ((m.zeros r.owner).writes (ws ++ ws'))) := by
    rw [hbody', Machine.evaluate, StateT.run_bind, perform_bind_ok hobject]
    simp only
    rw [StateT.run_bind, perform_bind_ok hinit, Record.writes_append]
    rfl
  have hnull : (Value.object ref).isNull = false := rfl
  simp only [apply, hnull, Machine.run, hone, List.length_singleton, ne_eq, not_true_eq_false,
    if_false, hcheck, Bool.false_eq_true]
  have hscope : (⟨[.object ref], p.lambda.compile.layout⟩ : Scope) = p.scope (.object ref) := rfl
  rw [StateT.run'_eq, perform_map, hscope, hall]

/-- **A projection whose parts denote values makes one object.** -/
theorem perform_apply {p : Projection} (hp : p = assembled source r args bindings) {ref : ObjectRef}
    (hsub : m.types.isSubtype ref.type source = true) {steps : List SlotInit}
    (hbody : r.constructor.body = .assign steps) {vs : List Value}
    (hlength : vs.length = r.constructor.parameters.length)
    (hargs : List.Forall₂ (m.Denotes (p.scope (.object ref)) s (p.scope (.object ref)).Frame) args vs)
    {ws ws' : List (Nat × Value)} (hsteps : List.Forall₂ (m.StepWrites r.owner vs) steps ws)
    (hbindings : List.Forall₂
      (m.InitWrites (p.scope (.object ref)) s (p.scope (.object ref)).Frame r.owner) bindings ws') :
    (p.apply m (.object ref)).perform s =
      (.ok (.object ⟨s.heap.size, r.owner⟩),
        s.push ((m.zeros r.owner).writes (ws ++ ws'))) :=
  perform_apply_of_settles hp hsub hbody hlength (hargs.imp fun _ _ h => h.computes.settles) hsteps
    (hbindings.imp fun _ _ h => h.settles)

end Projection

end Reshape
