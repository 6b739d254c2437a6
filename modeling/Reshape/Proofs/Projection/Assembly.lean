import Reshape.Proofs.Expr.Preservation
import Reshape.Proofs.Expr.SideEffects
import Reshape.Proofs.Projection.Running

/-!
# Putting projections together

Parts that fit together are assembled as they are (`Projection.Fits.assemble`), and all that are assembled
fit (`Projection.fits_of_assemble`).  If they have no side effects, a projection of them succeeds exactly
if each part gives its value alone and the values can be converted, and then its object is what these
values make (`Projection.made_of_apply`, `Projection.Made.perform_apply`).
-/

namespace Reshape

/-! ## Parts that fit together -/

namespace Expr

variable {t : TypeTable}

theorem checkBindingScopes_eq_ok {bound : List LocalId} {bindings : List (AssignTarget × Expr)} :
    checkBindingScopes bound bindings = .ok () ↔ ∀ b ∈ bindings, b.2.checkScopes bound = .ok () := by
  induction bindings with
  | nil => simp [checkBindingScopes, pure, Except.pure]
  | cons b bindings ih => rw [checkBindingScopes, seq_eq_ok, List.forall_mem_cons, ih]

/-- An expression over the parameters, whose locals are read inside their bindings. -/
structure Closed (parameters : List ParameterDecl) (e : Expr) : Prop where
  /-- Parameters are referenced as they are declared. -/
  declared : e.Each fun n => n.checkParameter parameters = .ok ()
  /-- Locals are read inside their bindings. -/
  scopes : e.checkScopes [] = .ok ()

theorem closed_constant (parameters : List ParameterDecl) (v : Value) (type : ValueType) :
    (constant v type).Closed parameters :=
  ⟨each_constant.2 rfl, rfl⟩

end Expr

namespace Projection

variable {t t' : TypeTable} {source : TypeId} {r : ConstructorRef} {args args' : List Expr}
  {bindings bindings' : List (AssignTarget × Expr)}

/-- The source object as a parameter. -/
def parameters (source : TypeId) : List ParameterDecl :=
  [⟨"source", .object source⟩]

/-- An initialiser fits objects of the type. -/
structure FitsMember (t : TypeTable) (source type : TypeId) (b : AssignTarget × Expr) : Prop where
  /-- It stores a value of the member's type into a member of the type. -/
  parts : ∃ owner name, Expr.targetParts b.1 = .ok (owner, b.2.type, name) ∧
    t.isSubtype type owner = true
  /-- Its value can stand in a lambda over the source object. -/
  closed : b.2.Closed (parameters source)

/-- The parts of a projection fit together. -/
structure Fits (t : TypeTable) (source : TypeId) (r : ConstructorRef) (args : List Expr)
    (bindings : List (AssignTarget × Expr)) : Prop where
  /-- Arguments have the types of their parameters. -/
  types : List.Forall₂ (fun p e => e.type = p.type) r.constructor.parameters args
  /-- Arguments can stand in a lambda over the source object. -/
  closed : ∀ e ∈ args, e.Closed (parameters source)
  /-- Initialisers fit the object. -/
  bindings : ∀ b ∈ bindings, FitsMember t source r.owner b

theorem Fits.mono (h : Fits t source r args bindings) (ht : t.Extends t') :
    Fits t' source r args bindings := by
  refine ⟨h.types, h.closed, fun b hb => ?_⟩
  obtain ⟨⟨owner, name, hparts, hsub⟩, hclosed⟩ := h.bindings b hb
  exact ⟨⟨owner, name, hparts, ht.isSubtype hsub⟩, hclosed⟩

/-- **Parts that fit together are assembled as they are.** -/
theorem Fits.assemble (h : Fits t source r args bindings) :
    Projection.assemble t source r args bindings = .ok (assembled source r args bindings) := by
  have hobject : Expr.mkConstruct t r args = .ok (.construct r args) := by
    rw [Expr.mkConstruct, Expr.bindArguments_eq_self h.types]
    rfl
  have hbind : ∀ b ∈ bindings, Expr.bindMember t r.owner b.1 b.2 = .ok b := by
    intro b hb
    obtain ⟨owner, name, hparts, hsub⟩ := (h.bindings b hb).parts
    refine bind_eq_ok.2 ⟨_, hparts, ?_⟩
    simp only [hsub, Bool.not_true, Bool.false_eq_true, if_false]
    exact bind_eq_ok.2 ⟨b.2, Expr.coerce_self t b.2, rfl⟩
  have hbody : Expr.mkMemberInit t (.construct r args) bindings =
      .ok (.memberInit (.construct r args) bindings) :=
    bind_eq_ok.2 ⟨bindings, mapM_eq_ok.2 (List.forall₂_same.2 hbind), rfl⟩
  have hclosed : Expr.Closed (parameters source) (.memberInit (.construct r args) bindings) := by
    refine ⟨?_, ?_⟩
    · refine Expr.each_memberInit.2 ⟨rfl, Expr.each_construct.2 ⟨rfl, ?_⟩, ?_⟩
      · exact fun e he => (h.closed e he).declared
      · exact fun b hb => (h.bindings b hb).closed.declared
    · rw [Expr.checkScopes, Expr.seq_eq_ok, Expr.checkBindingScopes_eq_ok, Expr.checkScopes,
        Expr.checkAllScopes_eq_ok]
      exact ⟨fun e he => (h.closed e he).scopes, fun b hb => (h.bindings b hb).closed.scopes⟩
  have hmake : Lambda.make (parameters source) (.memberInit (.construct r args) bindings) =
      .ok ⟨parameters source, .memberInit (.construct r args) bindings⟩ :=
    bind_eq_ok.2 ⟨(), forM_eq_ok.2 hclosed.declared, bind_eq_ok.2 ⟨(), hclosed.scopes, rfl⟩⟩
  refine bind_eq_ok.2 ⟨_, hobject, bind_eq_ok.2 ⟨_, hbody, ?_⟩⟩
  exact bind_eq_ok.2 ⟨_, hmake, rfl⟩

/-- Parts of the right types that are assembled fit together. -/
theorem fits_of_assemble {p : Projection}
    (hargs : List.Forall₂ (fun p e => e.type = p.type) r.constructor.parameters args)
    (hbindings : ∀ b ∈ bindings, ∀ owner type name,
      Expr.targetParts b.1 = .ok (owner, type, name) → b.2.type = type)
    (h : Projection.assemble t source r args bindings = .ok p) : Fits t source r args bindings := by
  have hp := assemble_eq hargs hbindings h
  obtain ⟨object, hobject, h⟩ := bind_eq_ok.1 h
  obtain ⟨body, hbody, h⟩ := bind_eq_ok.1 h
  obtain ⟨l, hl, h⟩ := bind_eq_ok.1 h
  obtain ⟨rfl, hdeclared, hscopes⟩ := Lambda.of_make hl
  cases h
  obtain ⟨es, -, hobject⟩ := bind_eq_ok.1 hobject
  cases hobject
  obtain ⟨bound, hbound, hbody⟩ := bind_eq_ok.1 hbody
  cases hbody
  -- what is bound is what was given
  cases hp
  obtain ⟨-, hconstruct, hinits⟩ := Expr.each_memberInit.1 hdeclared
  obtain ⟨-, hes⟩ := Expr.each_construct.1 hconstruct
  rw [Expr.checkScopes, Expr.seq_eq_ok, Expr.checkBindingScopes_eq_ok, Expr.checkScopes,
    Expr.checkAllScopes_eq_ok] at hscopes
  refine ⟨hargs, fun e he => ⟨hes e he, hscopes.1 e he⟩, fun b hb => ⟨?_, hinits b hb, hscopes.2 b hb⟩⟩
  have hb' := List.forall₂_same.1 (mapM_eq_ok.1 hbound) b hb
  obtain ⟨⟨owner, type, name⟩, hparts, hb'⟩ := bind_eq_ok.1 hb'
  refine ⟨owner, name, ?_, ?_⟩
  · rw [hbindings b hb owner type name hparts]
    exact hparts
  · simp only at hb'
    split at hb'
    · cases hb'
    · rename_i hsub
      simpa using hsub

end Projection

/-! ## What parts without side effects give -/

namespace Machine

open Evaluation Store

variable {m : Machine} {s s₁ s₂ : Store} {args : List Value} {layout : List LocalId}
  {frame frame' : List Value}

/-- An assignment is to a member of the type that has a slot. -/
structure Assigns (m : Machine) (type : TypeId) (a : MemberAssignment) : Prop where
  /-- The member. -/
  member : m.types.HasMember a.member
  /-- Objects of the type have the member. -/
  owner : m.types.isSubtype type a.member.owner = true
  /-- It is stored as the member is. -/
  target : a.member.AssignedBy a.target
  /-- It has a slot. -/
  slot : a.member.backingSlot?.isSome = true

/-- What an assignment writes. -/
structure Puts (m : Machine) (s : Store) (args : List Value) (a : MemberAssignment) (w : Nat × Value) :
    Prop where
  /-- The slot is the member's. -/
  slot : a.member.backingSlot? = some w.1
  /-- The value is what the source gives alone, converted to the type of the member. -/
  value : ∃ v, m.Returns s args a.value v ∧ m.types.cast a.member.type v = .ok w.2

theorem Puts.unique {a : MemberAssignment} {w w' : Nat × Value} (h : m.Puts s args a w)
    (h' : m.Puts s args a w') : w = w' := by
  obtain ⟨v, hv, hw⟩ := h.value
  obtain ⟨v', hv', hw'⟩ := h'.value
  obtain rfl := hv.unique hv'
  exact Prod.ext (Option.some.inj (h.slot.symm.trans h'.slot)) (Except.ok.inj (hw.symm.trans hw'))

theorem StepWrites.unique {owner : TypeId} {vs vs' : List Value} {step : SlotInit} {w w' : Nat × Value}
    (h : m.StepWrites owner vs step w) (h' : m.StepWrites owner vs' step w')
    (hvs : vs[step.parameter]? = vs'[step.parameter]?) : w = w' := by
  obtain ⟨type, htype, hw⟩ := h.value
  obtain ⟨type', htype', hw'⟩ := h'.value
  obtain rfl := Option.some.inj (htype.symm.trans htype')
  rw [hvs] at hw
  exact Prod.ext (h.slot.trans h'.slot.symm) (Except.ok.inj (hw.symm.trans hw'))

/-- An initialiser whose source gives a value alone settles on it. -/
theorem Puts.initSettles (ht : ∀ id < m.types.size, m.types.Sound id) {type : TypeId}
    {a : MemberAssignment} {w : Nat × Value} (hputs : m.Puts s args a w) (ha : m.Assigns type a)
    (hvalue : m.Harmless s args a.value) (hslot : a.value.Each (Expr.HasSlot layout)) :
    m.InitSettles ⟨args, layout⟩ s (Scope.Frame ⟨args, layout⟩) type (a.target, a.value) w := by
  obtain ⟨v, hv, hcast⟩ := hputs.value
  refine ⟨v, hvalue.settles hslot hv, ?_⟩
  rintro r rfl
  exact perform_assign_of_cast ht ha.member ha.target hputs.slot ha.owner hcast

/-- Arguments without side effects have given values, and have left the store as it was. -/
theorem returns_of_evaluateAll {es : List Expr} {vs : List Value} (hs : s.Widens s₁)
    (hes : ∀ e ∈ es, m.Harmless s args e) (hslots : ∀ e ∈ es, e.Each (Expr.HasSlot layout))
    (hframe : frame.length = layout.length)
    (h : ((m.evaluateAll ⟨args, layout⟩ es).run frame).perform s₁ = (.ok (vs, frame'), s₂)) :
    List.Forall₂ (m.Returns s args) es vs ∧ s₂ = s₁ ∧ frame'.length = layout.length := by
  induction es generalizing frame vs with
  | nil =>
    rw [evaluateAll] at h
    cases h
    exact ⟨.nil, rfl, hframe⟩
  | cons e rest ih =>
    rw [evaluateAll] at h
    obtain ⟨v, frame₁, s', hv, h₁⟩ := exists_of_bind h
    obtain ⟨hreturns, rfl, hframe₁⟩ := (hes e (List.mem_cons_self ..)).returns
      (hslots e (List.mem_cons_self ..)) hs hframe hv
    obtain ⟨vs', frame₂, s'', hvs, h₂⟩ := exists_of_bind h₁
    cases h₂
    obtain ⟨hrest, rfl, hframe₂⟩ := ih (fun e he => hes e (List.mem_cons_of_mem _ he))
      (fun e he => hslots e (List.mem_cons_of_mem _ he)) hframe₁ hvs
    exact ⟨.cons hreturns hrest, rfl, hframe₂⟩

/-- Initialisers without side effects have written what their sources give. -/
theorem puts_of_initialise (ht : ∀ id < m.types.size, m.types.Sound id) {type : TypeId}
    {assignments : List MemberAssignment} (hassign : ∀ a ∈ assignments, m.Assigns type a)
    (hvalues : ∀ a ∈ assignments, m.Harmless s args a.value)
    (hslots : ∀ a ∈ assignments, a.value.Each (Expr.HasSlot layout)) {r : Record} (hr : r.type = type)
    (hframe : frame.length = layout.length)
    (h : ((m.initialise ⟨args, layout⟩ ⟨s.heap.size, type⟩
      (assignments.map fun a => (a.target, a.value))).run frame).perform (s.push r) =
        (.ok ((), frame'), s₂)) :
    ∃ ws, List.Forall₂ (m.Puts s args) assignments ws := by
  induction assignments generalizing frame r with
  | nil =>
    rw [List.map_nil, initialise] at h
    cases h
    exact ⟨[], .nil⟩
  | cons a rest ih =>
    have ha := hassign a (List.mem_cons_self ..)
    rw [List.map_cons, initialise] at h
    obtain ⟨v, frame₁, s', hv, h₁⟩ := exists_of_bind h
    obtain ⟨hreturns, rfl, hframe₁⟩ := (hvalues a (List.mem_cons_self ..)).returns
      (hslots a (List.mem_cons_self ..)) (widens_push s r) hframe hv
    obtain ⟨_, frame₂, s'', hset, h₂⟩ := exists_of_bind h₁
    -- the assignment went through, so the conversion did, and so it is a write
    obtain ⟨slot, hslot⟩ := Option.isSome_iff_exists.1 ha.slot
    have hfresh : (s.push r).record? (ObjectRef.mk s.heap.size type).address = some r := by
      rw [record?_push, if_pos rfl]
    obtain ⟨hassigned, rfl⟩ := perform_of_lift hset
    obtain ⟨w, hcast, -⟩ := exists_of_assign ht ha.member ha.target hslot hfresh (hr ▸ ha.owner)
      hassigned
    have hwrite := perform_assign_of_cast (s := s) ht ha.member ha.target hslot (hr ▸ ha.owner) hcast
    rw [hr] at hwrite
    cases hwrite.symm.trans hassigned
    obtain ⟨ws, hws⟩ := ih (r := r.write (slot, w))
      (fun a ha => hassign a (List.mem_cons_of_mem _ ha))
      (fun a ha => hvalues a (List.mem_cons_of_mem _ ha))
      (fun a ha => hslots a (List.mem_cons_of_mem _ ha)) hr hframe₁ h₂
    exact ⟨(slot, w) :: ws, .cons ⟨hslot, v, hreturns, hcast⟩ hws⟩

end Machine

/-! ## Running them -/

namespace Projection

open Evaluation Machine Store

/-- What the parts of a projection make of a source object: the values of the arguments, and what the
steps of the constructor and the assignments write. -/
structure Made (m : Machine) (s : Store) (ref : ObjectRef) (r : ConstructorRef) (args : List Expr)
    (steps : List SlotInit) (assignments : List MemberAssignment) (vs : List Value)
    (ws ws' : List (Nat × Value)) : Prop where
  /-- The values of the arguments. -/
  args : List.Forall₂ (m.Returns s [.object ref]) args vs
  /-- The steps write the converted arguments. -/
  steps : List.Forall₂ (m.StepWrites r.owner vs) steps ws
  /-- The assignments write the converted values of their sources. -/
  assigned : List.Forall₂ (m.Puts s [.object ref]) assignments ws'

variable {m : Machine} {s s' : Store} {ref : ObjectRef} {source : TypeId} {r : ConstructorRef}
  {args : List Expr} {steps : List SlotInit} {assignments : List MemberAssignment} {vs : List Value}
  {ws ws' : List (Nat × Value)} {p : Projection}

/-- The parts of a projection have no side effects on a source object, and its assignments are to slots. -/
structure Plain (m : Machine) (s : Store) (ref : ObjectRef) (r : ConstructorRef) (args : List Expr)
    (assignments : List MemberAssignment) : Prop where
  /-- The arguments. -/
  args : ∀ e ∈ args, m.Harmless s [.object ref] e
  /-- The values that are assigned. -/
  values : ∀ a ∈ assignments, m.Harmless s [.object ref] a.value
  /-- What they are assigned to. -/
  assigns : ∀ a ∈ assignments, m.Assigns r.owner a

/-- **What plain parts make, a projection of them makes.** -/
theorem Made.perform_apply (h : Made m s ref r args steps assignments vs ws ws')
    (hp : p = assembled source r args (assignments.map fun a => (a.target, a.value)))
    (ht : ∀ id < m.types.size, m.types.Sound id) (hsub : m.types.isSubtype ref.type source = true)
    (hbody : r.constructor.body = .assign steps)
    (hlength : args.length = r.constructor.parameters.length)
    (hplain : Plain m s ref r args assignments) :
    (p.apply m (.object ref)).perform s =
      (.ok (.object ⟨s.heap.size, r.owner⟩), s.push ((m.zeros r.owner).writes (ws ++ ws'))) := by
  obtain ⟨hslots, hslots'⟩ := each_hasSlot_assembled hp (.object ref)
  refine perform_apply_of_settles hp hsub hbody (h.args.length_eq.symm.trans hlength) ?_ h.steps ?_
  · have hargs := (List.forall₂_and_left _ _).2
      ⟨fun e he => And.intro (hplain.args e he) (hslots e he), h.args⟩
    exact hargs.imp fun e v hev => hev.1.1.settles hev.1.2 hev.2
  · have hassigned := (List.forall₂_and_left _ _).2 ⟨fun a ha => And.intro (hplain.assigns a ha)
      (And.intro (hplain.values a ha) (hslots' _ (List.mem_map_of_mem ha))), h.assigned⟩
    exact List.forall₂_map_left_iff.2 (hassigned.imp fun a w haw =>
      haw.2.initSettles ht haw.1.1 haw.1.2.1 haw.1.2.2)

/-- **A projection of plain parts that succeeds makes what the parts do.** -/
theorem made_of_apply
    (hp : p = assembled source r args (assignments.map fun a => (a.target, a.value)))
    (ht : ∀ id < m.types.size, m.types.Sound id) (hbody : r.constructor.body = .assign steps)
    (hlength : args.length = r.constructor.parameters.length)
    (hplain : Plain m s ref r args assignments) {o : Value}
    (h : (p.apply m (.object ref)).perform s = (.ok o, s')) :
    m.types.isSubtype ref.type source = true ∧ ∃ vs ws ws',
      Made m s ref r args steps assignments vs ws ws' := by
  obtain ⟨hslots, hslots'⟩ := each_hasSlot_assembled hp (.object ref)
  obtain ⟨hcheck, frame', hrun⟩ := evaluate_of_apply (by simp) h
  have hcode : p.lambda.body = .memberInit (.construct r args)
      (assignments.map fun a => (a.target, a.value)) := by
    rw [hp]
    rfl
  have hparameters : p.lambda.compile.parameters = [.object source] := by
    rw [hp]
    rfl
  have hsub : m.types.isSubtype ref.type source = true := by
    rw [hparameters] at hcheck
    exact (List.forall₂_cons.1 (Machine.forall₂_of_checkArguments hcheck rfl)).1
  refine ⟨hsub, ?_⟩
  rw [hcode, Machine.evaluate] at hrun
  obtain ⟨object, frame₁, s₁, hobject, hrest⟩ := exists_of_bind hrun
  rw [Machine.evaluate] at hobject
  obtain ⟨vs, frame₂, s₂, hvs, hmake⟩ := exists_of_bind hobject
  obtain ⟨made, frame₃, s₃, hmade, hobject'⟩ := exists_of_bind hmake
  cases hobject'
  obtain ⟨hreturns, rfl, hframe₂⟩ := returns_of_evaluateAll (.refl s) hplain.args hslots
    List.length_replicate hvs
  -- the constructor went through, so its conversions did, and so the object is known
  obtain ⟨hconstruct, rfl⟩ := perform_of_lift hmade
  obtain ⟨rfl, ws, hws, -, -⟩ := exists_of_construct hbody hconstruct
  cases (perform_construct hbody (hreturns.length_eq.symm.trans hlength) hws).symm.trans hconstruct
  obtain ⟨_, frame₄, s₄, hinit, hdone⟩ := exists_of_bind hrest
  obtain ⟨ws', hws'⟩ := puts_of_initialise ht hplain.assigns hplain.values
    (fun a ha => hslots' _ (List.mem_map_of_mem ha)) (Record.writes_type _ _) hframe₂ hinit
  exact ⟨vs, ws, ws', hreturns, hws, hws'⟩

end Projection
end Reshape
