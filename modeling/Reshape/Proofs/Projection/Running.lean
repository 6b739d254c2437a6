import Reshape.Proofs.Projection.Bound
import Reshape.Proofs.Projection.Delivery
import Reshape.Proofs.Projection.Quiet

/-!
# What a projection has done

Of a projection that ran, nothing but success is known: its arguments may be anything that is quiet, the
store need not be well typed, and conversions may have failed on other values.  Still it has made one
object, whose slots are the zero values of their types overwritten by converted arguments and then by
converted values of initialisers, and has left all other objects as they were (`Projection.ran_of_apply`).
-/

namespace Reshape

/-! ## Steps of evaluation -/

namespace Evaluation

variable {α β : Type} {s s' : Store} {frame frame' : List Value}

theorem exists_of_bind {x : Evaluation α} {f : α → Evaluation β} {w : β}
    (h : ((x >>= f).run frame).perform s = (.ok (w, frame'), s')) : ∃ v frame₁ s₁,
      (x.run frame).perform s = (.ok (v, frame₁), s₁) ∧
        ((f v).run frame₁).perform s₁ = (.ok (w, frame'), s') := by
  rw [StateT.run_bind] at h
  obtain ⟨⟨v, frame₁⟩, s₁, hv, hw⟩ := run_bind_eq_ok.1 h
  exact ⟨v, frame₁, s₁, hv, hw⟩

theorem perform_of_lift {a : Action α} {v : α}
    (h : ((liftM a : Evaluation α).run frame).perform s = (.ok (v, frame'), s')) :
    a.perform s = (.ok v, s') ∧ frame' = frame := by
  have hlift : (liftM a : Evaluation α).run frame = a >>= fun v => pure (v, frame) := rfl
  rw [hlift] at h
  obtain ⟨v', s₁, hv, h⟩ := run_bind_eq_ok.1 h
  cases h
  exact ⟨hv, rfl⟩

end Evaluation

namespace Machine

open Evaluation Store

variable {m : Machine} {scope : Scope} {s s₁ s₂ : Store} {frame frame' : List Value}

/-- Evaluating the expression yields the value in a store that has all that is in the first. -/
def Yields (m : Machine) (scope : Scope) (s : Store) (e : Expr) (v : Value) : Prop :=
  ∃ s₁ frame frame' s₂, s.Includes s₁ ∧
    ((m.evaluate scope e).run frame).perform s₁ = (.ok (v, frame'), s₂)

/-- What denotes a value in every frame yields no other. -/
theorem Denotes.eq_of_yields {e : Expr} {v w : Value} (h : m.Denotes scope s (fun _ => True) e v)
    (hw : m.Yields scope s e w) : w = v := by
  obtain ⟨s₁, frame, frame', s₂, hs, hrun⟩ := hw
  obtain ⟨frame'', -, hrun'⟩ := h.computes s₁ hs frame trivial
  rw [hrun'] at hrun
  cases hrun
  rfl

theorem exists_of_evaluateAll {es : List Expr} {vs : List Value} (hs : s.Includes s₁)
    (hes : ∀ e ∈ es, m.Quiet scope s e)
    (h : ((m.evaluateAll scope es).run frame).perform s₁ = (.ok (vs, frame'), s₂)) :
    List.Forall₂ (m.Yields scope s) es vs ∧ s₁.Includes s₂ := by
  induction es generalizing frame s₁ vs with
  | nil =>
    rw [evaluateAll] at h
    cases h
    exact ⟨.nil, .refl _⟩
  | cons e rest ih =>
    rw [evaluateAll] at h
    obtain ⟨v, frame₁, s', hv, h⟩ := exists_of_bind h
    have hstep := hes e (List.mem_cons_self ..) frame s₁ hs _ s' hv
    obtain ⟨vs', frame₂, s'', hvs, h⟩ := exists_of_bind h
    cases h
    obtain ⟨hrest, hinc⟩ := ih (hs.trans hstep) (fun e he => hes e (List.mem_cons_of_mem _ he)) hvs
    exact ⟨.cons ⟨s₁, frame, frame₁, s', hs, hv⟩ hrest, hstep.trans hinc⟩

/-! ## Making the object -/

theorem exists_of_construct {r : ConstructorRef} {steps : List SlotInit}
    (hbody : r.constructor.body = .assign steps) {vs : List Value} {ref : ObjectRef}
    (h : (m.construct r vs).perform s₁ = (.ok ref, s₂)) : ref = ⟨s₁.heap.size, r.owner⟩ ∧
      ∃ ws, List.Forall₂ (m.StepWrites r.owner vs) steps ws ∧
        s₂.record? ref.address = some ((m.zeros r.owner).writes ws) ∧ s₁.Includes s₂ := by
  rw [construct] at h
  by_cases hlength : vs.length = r.constructor.parameters.length
  · rw [if_neg (not_not.2 hlength)] at h
    obtain ⟨made, s', hmake, h⟩ := run_bind_eq_ok.1 h
    obtain ⟨rfl, rfl⟩ : made = ⟨s₁.heap.size, r.owner⟩ ∧ s' = s₁.push (m.zeros r.owner) := by
      cases hmake
      exact ⟨rfl, rfl⟩
    simp only [hbody] at h
    obtain ⟨_, s'', hassign, h⟩ := run_bind_eq_ok.1 h
    cases h
    have hfresh : (s₁.push (m.zeros r.owner)).record? (ObjectRef.mk s₁.heap.size r.owner).address =
        some (m.zeros r.owner) := by
      rw [record?_push, if_pos rfl]
    obtain ⟨ws, hws, hwrites⟩ := exists_of_assignSlots hfresh hassign
    exact ⟨rfl, ws, hws, hwrites.record, hwrites.includes (includes_push s₁ _) (Includes.refl s₁).fresh⟩
  · rw [if_pos hlength] at h
    cases h

/-! ## Initialising it -/

/-- An assignment to objects of a type that can disturb no other slot: it is to a member of the type, its
value is quiet, and so is what it runs if the member has no slot. -/
structure Initialises (m : Machine) (scope : Scope) (s : Store) (type : TypeId) (a : MemberAssignment) :
    Prop where
  /-- The value. -/
  value : m.Quiet scope s a.value
  /-- The member. -/
  member : m.types.HasMember a.member
  /-- Objects of the type have the member. -/
  owner : m.types.isSubtype type a.member.owner = true
  /-- It is stored as the member is. -/
  target : a.member.AssignedBy a.target
  /-- A supplied setter. -/
  setter : a.member.backingSlot? = none → ∀ ref v, Action.Quiet s (m.assign ref a.target v)

/-- What an assignment to a slot has written. -/
structure Stores (m : Machine) (scope : Scope) (s : Store) (a : MemberAssignment) (w : Nat × Value) :
    Prop where
  /-- The slot is the member's. -/
  slot : a.member.backingSlot? = some w.1
  /-- The value is what its expression yields, converted to the type of the member. -/
  value : ∃ v, m.Yields scope s a.value v ∧ m.types.cast a.member.type v = .ok w.2

/-- Initialisers have written the slots of their members, one after the other. -/
theorem exists_of_initialise (ht : ∀ id < m.types.size, m.types.Sound id) {ref : ObjectRef}
    (hfresh : s.record? ref.address = none) {assignments : List MemberAssignment} {r : Record}
    (hassign : ∀ a ∈ assignments, m.Initialises scope s r.type a) (hs : s.Includes s₁)
    (hr : s₁.record? ref.address = some r)
    (h : ((m.initialise scope ref (assignments.map fun a => (a.target, a.value))).run frame).perform s₁ =
      (.ok ((), frame'), s₂)) : ∃ ws,
      List.Forall₂ (m.Stores scope s) (assignments.filter (·.member.backingSlot?.isSome)) ws ∧
        s₁.Rewrites s₂ ref.address (r.writes ws) := by
  induction assignments generalizing frame s₁ r with
  | nil =>
    rw [List.map_nil, initialise] at h
    cases h
    exact ⟨[], .nil, (Includes.refl _).rewrites hr⟩
  | cons a rest ih =>
    have ha := hassign a (List.mem_cons_self ..)
    have hrest : ∀ a' ∈ rest, m.Initialises scope s r.type a' :=
      fun a' ha' => hassign a' (List.mem_cons_of_mem _ ha')
    rw [List.map_cons, initialise] at h
    obtain ⟨v, frame₁, s', hv, h⟩ := exists_of_bind h
    obtain ⟨_, frame₂, s'', hset, h⟩ := exists_of_bind h
    have hset := (perform_of_lift hset).1
    have hstep := ha.value frame s₁ hs _ s' hv
    have hr' := hstep _ _ hr
    cases hslot : a.member.backingSlot? with
    | none =>
      -- a supplied setter leaves the object alone
      have hquiet := ha.setter hslot ref v s' (hs.trans hstep) _ s'' hset
      obtain ⟨ws, hws, hwrites⟩ := ih hrest ((hs.trans hstep).trans hquiet) (hquiet _ _ hr') h
      refine ⟨ws, ?_, ((hstep.trans hquiet).rewrites hr).trans hwrites⟩
      rwa [List.filter_cons_of_neg (by simp [hslot])]
    | some slot =>
      obtain ⟨w, hcast, hwrite⟩ := exists_of_assign ht ha.member ha.target hslot hr' ha.owner hset
      obtain ⟨ws, hws, hwrites⟩ := ih (r := r.write (slot, w)) hrest
        (hwrite.includes (hs.trans hstep) hfresh) hwrite.record h
      refine ⟨(slot, w) :: ws, ?_, ((hstep.rewrites hr).trans hwrite).trans hwrites⟩
      rw [List.filter_cons_of_pos (by simp [hslot])]
      exact .cons ⟨hslot, v, ⟨s₁, frame, frame₁, s', hs, hv⟩, hcast⟩ hws

end Machine

/-! ## Running projections -/

namespace Projection

open Evaluation Machine Store

/-- What a projection has done that was assembled from arguments for a constructor with steps, and from
assignments: it has made an object, and has changed no other. -/
structure Ran (m : Machine) (scope : Scope) (s s' : Store) (r : ConstructorRef) (args : List Expr)
    (steps : List SlotInit) (assignments : List MemberAssignment) (address : Nat) (vs : List Value)
    (ws ws' : List (Nat × Value)) : Prop where
  /-- The object is new. -/
  fresh : s.record? address = none
  /-- Its slots were zero, and then written. -/
  record : s'.record? address = some ((m.zeros r.owner).writes (ws ++ ws'))
  /-- What was there before is there as it was. -/
  includes : s.Includes s'
  /-- The arguments have yielded values. -/
  args : List.Forall₂ (m.Yields scope s) args vs
  /-- The steps have written the converted arguments. -/
  steps : List.Forall₂ (m.StepWrites r.owner vs) steps ws
  /-- The assignments to slots have written their converted values. -/
  assigned : List.Forall₂ (m.Stores scope s) (assignments.filter (·.member.backingSlot?.isSome)) ws'

variable {m : Machine} {s s' : Store} {r : ConstructorRef} {args : List Expr}
  {assignments : List MemberAssignment} {steps : List SlotInit} {o : Value}

/-- Making an object and initialising it: first the arguments, then the steps of the constructor, then the
assignments. -/
theorem ran_of_evaluate {scope : Scope} {frame frame' : List Value}
    (ht : ∀ id < m.types.size, m.types.Sound id) (hbody : r.constructor.body = .assign steps)
    (hargs : ∀ e ∈ args, m.Quiet scope s e)
    (hassign : ∀ a ∈ assignments, m.Initialises scope s r.owner a)
    (h : ((m.evaluate scope (.memberInit (.construct r args)
      (assignments.map fun a => (a.target, a.value)))).run frame).perform s = (.ok (o, frame'), s')) :
    ∃ address vs ws ws', o = .object ⟨address, r.owner⟩ ∧
      Ran m scope s s' r args steps assignments address vs ws ws' := by
  rw [Machine.evaluate] at h
  obtain ⟨object, frame₁, s₁, hobject, h⟩ := exists_of_bind h
  rw [Machine.evaluate] at hobject
  obtain ⟨vs, frame₂, s₂, hvs, hobject⟩ := exists_of_bind hobject
  obtain ⟨ref, frame₃, s₃, hmade, hobject⟩ := exists_of_bind hobject
  cases hobject
  obtain ⟨hyields, hinc⟩ := exists_of_evaluateAll (Includes.refl s) hargs hvs
  obtain ⟨rfl, ws, hws, hrecord, hinc'⟩ := exists_of_construct hbody (perform_of_lift hmade).1
  obtain ⟨_, frame₄, s₄, hinit, h⟩ := exists_of_bind h
  cases h
  have htype : ((m.zeros r.owner).writes ws).type = r.owner := Record.writes_type _ _
  obtain ⟨ws', hws', hwrites⟩ := exists_of_initialise ht hinc.fresh (by rwa [htype])
    (hinc.trans hinc') hrecord hinit
  refine ⟨_, vs, ws, ws', rfl, hinc.fresh, ?_, ?_, hyields, hws, hws'⟩
  · rw [Record.writes_append]
    exact hwrites.record
  · exact hwrites.includes (hinc.trans hinc') hinc.fresh

/-- A projection of a value that succeeded has checked the value, and then evaluated its body. -/
theorem evaluate_of_apply {p : Projection} {v : Value} (hv : v ≠ .null)
    (h : (p.apply m v).perform s = (.ok o, s')) :
    m.checkArguments 0 p.lambda.compile.parameters [v] = .ok () ∧ ∃ frame',
      ((m.evaluate (p.scope v) p.lambda.body).run
        (List.replicate (p.scope v).layout.length .null)).perform s = (.ok (o, frame'), s') := by
  have hnull : v.isNull = false := by
    cases v <;> first | rfl | exact absurd rfl hv
  rw [apply, hnull, if_neg Bool.false_ne_true, run] at h
  split at h
  · cases h
  split at h
  · cases h
  rename_i u hcheck
  refine ⟨hcheck, ?_⟩
  rw [StateT.run'_eq, Action.perform_map] at h
  split at h
  · rename_i result s₁ hrun
    cases h
    exact ⟨_, hrun⟩
  · cases h

/-- **A projection that ran has made one object from its arguments and assignments.** -/
theorem ran_of_apply {source : TypeId} {p : Projection}
    (hp : p = assembled source r args (assignments.map fun a => (a.target, a.value)))
    (ht : ∀ id < m.types.size, m.types.Sound id) (hbody : r.constructor.body = .assign steps) {v : Value}
    (hargs : ∀ e ∈ args, m.Quiet (p.scope v) s e)
    (hassign : ∀ a ∈ assignments, m.Initialises (p.scope v) s r.owner a) (hv : v ≠ .null)
    (h : (p.apply m v).perform s = (.ok o, s')) : ∃ address vs ws ws', o = .object ⟨address, r.owner⟩ ∧
      Ran m (p.scope v) s s' r args steps assignments address vs ws ws' := by
  have hcode : p.lambda.body = .memberInit (.construct r args)
      (assignments.map fun a => (a.target, a.value)) := by
    subst hp
    rfl
  obtain ⟨-, frame', hrun⟩ := evaluate_of_apply hv h
  rw [hcode] at hrun
  exact ran_of_evaluate ht hbody hargs hassign hrun

end Projection
end Reshape
