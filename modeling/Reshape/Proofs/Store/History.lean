import Reshape.Proofs.Expr.Failure
import Reshape.Proofs.Expr.Purity
import Reshape.Proofs.Expr.Script

/-!
# Histories of objects

A world begins without types and objects.  Types are declared one after the other, over any bases that
are there, and in between operations on objects succeed or fail (`World.Step`).  In every world that is
reached each object has the slots of its type, each slot holds a value that conforms to the type of the
slot, and an operation that fails stops at a write that changes nothing
(`World.Reached.slots_conform`).
-/

namespace Reshape

/-! ## Operations that write at most one slot -/

namespace Action

variable {α β : Type} {s : Store}

/-- If the action fails, the store is as it was. -/
def Atomic (s : Store) (a : Action α) : Prop :=
  ∀ e s', a.perform s = (.error e, s') → s' = s

theorem Agree.atomic {a b : Action α} (h : Agree s a b) : Atomic s a := by
  obtain ⟨result, ha, -⟩ := h
  intro e s' he
  rw [ha] at he
  cases he
  rfl

/-- What only reads may come before. -/
theorem Atomic.after {a b : Action α} {f : α → Action β} (ha : Agree s a b) (hf : ∀ v, Atomic s (f v)) :
    Atomic s (a >>= f) := by
  obtain ⟨result, ha, -⟩ := ha
  intro e s' he
  cases result with
  | error e' =>
    rw [perform_bind_error ha] at he
    cases he
    rfl
  | ok v =>
    rw [perform_bind_ok ha] at he
    exact hf v e s' he

/-- A result may come after. -/
theorem Atomic.bind_pure {a : Action α} (ha : Atomic s a) (v : β) :
    Atomic s (a >>= fun _ => Pure.pure v) := by
  intro e s' he
  cases hrun : a.perform s with
  | mk result s₁ =>
    cases result with
    | error e' =>
      rw [perform_bind_error hrun] at he
      cases he
      exact ha e s' hrun
    | ok u =>
      rw [perform_bind_ok hrun] at he
      cases he

end Action

/-- What is assigned runs no supplied body. -/
def AssignTarget.IsGenerated : AssignTarget → Prop
  | .field _ => True
  | .primitive _ => True
  | .setter g => g.IsGenerated

namespace Machine

open Action

variable {m : Machine} {s : Store}

theorem atomic_storeSlot (ref : ObjectRef) (slot : Nat) (v : Value) :
    Atomic s (m.storeSlot ref slot v) :=
  fun _ _ he => eq_of_storeSlot_error he

theorem atomic_storeStatic (owner : TypeId) (slot : Nat) (v : Value) :
    Atomic s (m.storeStatic owner slot v) :=
  fun _ _ he => eq_of_storeStatic_error he

/-- A write of a field that fails changes nothing. -/
theorem atomic_storeField (f : FieldRef) (receiver : Option ObjectRef) (v : Value) :
    Atomic s (m.storeField f receiver v) := by
  rw [storeField]
  refine Atomic.after (agree_ofCast _) fun w => ?_
  by_cases hstatic : f.field.isStatic = true
  · rw [if_pos hstatic]
    exact atomic_storeStatic _ _ w
  · rw [if_neg hstatic]
    exact Atomic.after (agree_requireInstance receiver _) fun ref => atomic_storeSlot ref _ w

theorem agree_onlyArgument (args : List Value) (member : String) :
    Agree s (onlyArgument args member) (onlyArgument args member) := by
  rcases args with _ | ⟨v, _ | ⟨v', rest⟩⟩
  · exact .throw _
  · exact .pure v
  · exact .throw _

/-- A generated accessor that fails changes nothing, whatever it is used on. -/
theorem atomic_invoke {r : MethodRef} (hr : r.IsGenerated) (receiver : Option ObjectRef)
    (args : List Value) : Atomic s (m.invoke r receiver args) := by
  rw [invoke_eq]
  refine Atomic.after (agree_receiverFor r receiver) fun used => ?_
  rw [runBody]
  cases hbody : r.method.body with
  | loadSlot slot =>
    exact Atomic.after (agree_requireInstance used _) fun ref => (agree_loadSlot ref slot).atomic
  | loadStatic slot => exact (agree_loadStatic r.owner slot).atomic
  | storeSlot slot =>
    refine Atomic.after (agree_onlyArgument args _) fun v => ?_
    refine Atomic.after (agree_requireInstance used _) fun ref => ?_
    exact (atomic_storeSlot ref slot v).bind_pure _
  | storeStatic slot =>
    refine Atomic.after (agree_onlyArgument args _) fun v => ?_
    exact (atomic_storeStatic r.owner slot v).bind_pure _
  | native body => exact absurd hbody (hr body)

/-- An initialisation that fails changes nothing. -/
theorem atomic_assign {target : AssignTarget} (ht : target.IsGenerated) (ref : ObjectRef) (v : Value) :
    Atomic s (m.assign ref target v) := by
  cases target with
  | field f => exact atomic_storeField f (some ref) v
  | primitive f => exact atomic_storeField f (some ref) v
  | setter g =>
    rw [assign, discard_eq_bind]
    exact (atomic_invoke ht (some ref) [v]).bind_pure _

end Machine

/-! ## Operations -/

/-- What a program does with objects. -/
inductive Operation where
  /-- Make an object. -/
  | instantiate (type : TypeId)
  /-- Write a slot. -/
  | setSlot (ref : ObjectRef) (slot : Nat) (v : Value)
  /-- Run a constructor. -/
  | construct (c : ConstructorRef) (args : List Value)
  /-- Run a method, such as a getter or a setter. -/
  | invoke (r : MethodRef) (receiver : Option ObjectRef) (args : List Value)
  /-- Write a field, also one that is written once only. -/
  | storeField (f : FieldRef) (receiver : Option ObjectRef) (v : Value)
  /-- Initialise a member. -/
  | assign (ref : ObjectRef) (target : AssignTarget) (v : Value)
  /-- Run a compiled lambda. -/
  | run (l : CompiledLambda) (args : List Value)

namespace Operation

/-- The operation on a machine; its result is dropped. -/
def action (m : Machine) : Operation → Action Unit
  | instantiate type => discard (m.instantiate type)
  | setSlot ref slot v => m.storeSlot ref slot v
  | construct c args => discard (m.construct c args)
  | invoke r receiver args => discard (m.invoke r receiver args)
  | storeField f receiver v => m.storeField f receiver v
  | assign ref target v => m.assign ref target v
  | run l args => discard (m.run l args)

/-- Objects are made of declared types. -/
def Within (t : TypeTable) : Operation → Prop
  | instantiate type => type < t.size
  | construct c _ => c.owner < t.size
  | run l _ => l.body.Each (Expr.ConstructsDeclared t)
  | _ => True

/-- The operation writes at most one slot, and runs no supplied body. -/
def OnSlot : Operation → Prop
  | setSlot _ _ _ => True
  | invoke r _ _ => r.IsGenerated
  | storeField _ _ _ => True
  | assign _ target _ => target.IsGenerated
  | _ => False

variable {m : Machine}

theorem scripted_action (hm : m.Scripted) {op : Operation} (hop : op.Within m.types) :
    Action.Scripted m (op.action m) := by
  cases op with
  | instantiate type => exact (Action.Scripted.make hop).discard
  | setSlot ref slot v => exact .write ref slot v
  | construct c args => exact (Machine.scripted_construct hm hop args).discard
  | invoke r receiver args => exact (Machine.scripted_invoke hm r receiver args).discard
  | storeField f receiver v => exact Machine.scripted_storeField f receiver v
  | assign ref target v => exact Machine.scripted_assign hm ref target v
  | run l args => exact (Machine.scripted_run hm hop args).discard

theorem atomic_action {op : Operation} (hop : op.OnSlot) (s : Store) :
    Action.Atomic s (op.action m) := by
  cases op with
  | instantiate | construct | run => exact hop.elim
  | setSlot ref slot v => exact Machine.atomic_storeSlot ref slot v
  | invoke r receiver args =>
    rw [action, discard_eq_bind]
    exact (Machine.atomic_invoke hop receiver args).bind_pure _
  | storeField f receiver v => exact Machine.atomic_storeField f receiver v
  | assign ref target v => exact Machine.atomic_assign hop ref v

end Operation

/-! ## Worlds -/

namespace World

/-- A type is declared, or an operation is performed, with any result. -/
inductive Step : World → World → Prop
  /-- A type is declared over a base that is there, or over none. -/
  | declare {w : World} {d : Declaration} {t : TypeTable} {type : TypeId}
      (hbase : ∀ base, d.base? = some base → base < w.types.size)
      (h : w.types.declare d = .ok (t, type)) : Step w ⟨t, w.store⟩
  /-- An operation is performed. -/
  | perform {w : World} {m : Machine} (hm : m.types = w.types) (hscripted : m.Scripted)
      {op : Operation} (hop : op.Within w.types) :
      Step w ⟨w.types, ((op.action m).perform w.store).2⟩

/-- What is reached from nothing. -/
def Reached (w : World) : Prop :=
  Relation.ReflTransGen Step ⟨.empty, .empty⟩ w

/-- A step keeps the slots of all objects typed, also if it declares a type. -/
theorem Step.slotsTyped {w w' : World} (h : Step w w') (hw : w.store.SlotsTyped w.types) :
    w'.store.SlotsTyped w'.types := by
  cases h with
  | @declare d t type hbase hdeclare =>
    obtain ⟨model, -, hpush⟩ := bind_eq_ok.1 hdeclare
    cases hpush
    exact hw.mono (TypeTable.extends_push w.types model)
  | @perform m hm hscripted op hop =>
    rw [← hm] at hop hw ⊢
    exact ((Operation.scripted_action hscripted hop).changes w.store).slotsTyped hw

/-- Slots are typed in every world that is reached. -/
theorem Reached.slotsTyped {w : World} (h : w.Reached) : w.store.SlotsTyped w.types := by
  induction h with
  | refl => exact (Store.wellTyped_empty .empty).slotsTyped
  | tail _ hstep ih => exact hstep.slotsTyped ih

/-- **Slots are always typed.**  After any declarations and operations, whether they succeeded or failed,
each object has exactly the slots of its type, and each slot holds a value that conforms to the slot's
type.  An operation that comes to a write that fails ends there, and the write leaves everything as it
was; every operation that fails ends so, or with an error that is not about a slot, after complete
changes only.  An operation on a single slot that fails leaves everything as it was before. -/
theorem Reached.slots_conform {w : World} (h : w.Reached) :
    (∀ address r, w.store.record? address = some r →
      r.type < w.types.size ∧ r.slots.length = (w.types.model r.type).slotTypes.length ∧
      ∀ (slot : Nat) type v, (w.types.model r.type).slotTypes[slot]? = some type →
        r.slots[slot]? = some v → w.types.conforms type v = true) ∧
    ∀ m : Machine, m.types = w.types → m.Scripted → ∀ op : Operation, op.Within w.types →
      (∀ stop s e s', Action.Reaches m (op.action m) w.store stop s →
        (stop.attempt m).perform s = (.error e, s') →
          s' = s ∧ (op.action m).perform w.store = (.error e, s)) ∧
      ∀ e s, (op.action m).perform w.store = (.error e, s) →
        w.store.Changes w.types s ∧
        (∃ stop, Action.Reaches m (op.action m) w.store stop s ∧
          (stop.attempt m).perform s = (.error e, s)) ∧
        (op.OnSlot → s = w.store) := by
  refine ⟨fun address r hr => ?_, fun m hm hscripted op hop => ⟨?_, fun e s he => ?_⟩⟩
  · have htyped := h.slotsTyped
    refine ⟨htyped.declared address r hr, htyped.length_slots hr, fun slot type v htype hv => ?_⟩
    exact htyped.conforms hr htype hv
  · exact fun stop s e s' hstop hfails => hstop.perform_error hfails
  · rw [← hm] at hop ⊢
    have hscript := Operation.scripted_action hscripted hop
    have hchanges := hscript.changes w.store
    rw [he] at hchanges
    exact ⟨hchanges, hscript.stops he, fun hslot => Operation.atomic_action hslot w.store e s he⟩

/-! ## A crate that is not resized -/

/-- Crates are boxes with a label. -/
def crates : TypeTable :=
  Draft.boxes.push ⟨"Crate", .declared, some 0, [], [], [⟨"Label", .text, .open, false, false, 1⟩], [], [],
    [⟨[], .open, .assign []⟩], [.int32, .text], []⟩

/-- A machine with crates and without supplied bodies. -/
def crateMachine : Machine := ⟨crates, fun _ _ _ => pure .null, fun _ _ _ => pure ()⟩

/-- One crate, as it was made. -/
def stocked : World := ⟨crates, Store.empty.push ⟨1, [.int32 0, .null]⟩⟩

/-- The setter of boxes is used on the crate, with a text. -/
def mislabel : Operation := .invoke Draft.setSize (some ⟨0, 1⟩) [.text "large"]

theorem scripted_crateMachine : crateMachine.Scripted :=
  ⟨fun _ _ _ => .pure _, fun _ _ _ => .pure _⟩

theorem reached_stocked : stocked.Reached := by
  have hnone : Reached ⟨.empty, .empty⟩ := .refl
  have hboxes : Reached ⟨Draft.boxes, .empty⟩ := hnone.tail <| .declare
    (d := ⟨"Box", .declared, none, [], [], [], [⟨"Size", .int32, .open, .open, false, .slot⟩], [], []⟩)
    (by simp) rfl
  have hcrates : Reached ⟨crates, .empty⟩ := hboxes.tail <| .declare
    (d := ⟨"Crate", .declared, some 0, [], [], [⟨"Label", .text, .open, false, false⟩], [], [], []⟩)
    (by decide) rfl
  have hdeclared : Operation.Within crates (.instantiate 1) := by
    show 1 < crates.size
    decide
  exact hcrates.tail <|
    @Step.perform ⟨crates, .empty⟩ crateMachine rfl scripted_crateMachine (.instantiate 1) hdeclared

theorem perform_mislabel : (mislabel.action crateMachine).perform stocked.store =
    (.error (.cast (.unrelated (Value.text "large").label .int32)), stocked.store) := rfl

/-- The crate has a size and a label of their types, and the text that was refused left no trace. -/
theorem slots_conform_stocked :
    (∀ address r, stocked.store.record? address = some r → r.type < crates.size ∧
      r.slots.length = (crates.model r.type).slotTypes.length ∧
      ∀ (slot : Nat) type v, (crates.model r.type).slotTypes[slot]? = some type →
        r.slots[slot]? = some v → crates.conforms type v = true) ∧
    mislabel.OnSlot ∧ ∃ e, (mislabel.action crateMachine).perform stocked.store =
        (.error e, stocked.store) ∧
      ∃ stop, Action.Reaches crateMachine (mislabel.action crateMachine) stocked.store stop
          stocked.store ∧ (stop.attempt crateMachine).perform stocked.store = (.error e, stocked.store) := by
  have hslot : mislabel.OnSlot := fun body hbody => by cases hbody
  obtain ⟨hslots, hfailures⟩ := reached_stocked.slots_conform
  have hfails := (hfailures crateMachine rfl scripted_crateMachine mislabel trivial).2 _ _ perform_mislabel
  exact ⟨hslots, hslot, _, perform_mislabel, hfails.2.1⟩

end World
end Reshape
