import Mathlib.Logic.Relation
import Reshape.Proofs.Store.Access

/-!
# Scripts over objects

A script reaches objects through three operations only: it makes an object, writes a slot, or writes a
static slot (`Action.Scripted`).  All that it does to the store, whether it succeeds or fails, is a
sequence of complete changes (`Action.Scripted.changes`), and a complete change keeps the slots of every
object typed (`Store.Changes.slotsTyped`).  A script that fails stops at an error or at a write that
changes nothing, in the store that is left (`Action.Scripted.stops`).
-/

namespace Reshape

/-! ## Complete changes -/

namespace Store

variable {t t' : TypeTable} {s s' : Store}

/-- One operation on objects that succeeds. -/
inductive Change (t : TypeTable) : Store → Store → Prop
  /-- An object is made, with every slot at the zero value of its type. -/
  | make (s : Store) {type : TypeId} (htype : type < t.size) :
      Change t s (s.push ⟨type, (t.model type).slotTypes.map ValueType.zero⟩)
  /-- A slot is written with a value converted to the type of the slot. -/
  | write {s : Store} {address slot : Nat} {r : Record} {type : ValueType} {v w : Value}
      (hr : s.record? address = some r) (htype : (t.model r.type).slotTypes[slot]? = some type)
      (hcast : t.cast type v = .ok w) : Change t s (s.setSlot address slot w)
  /-- A static slot is written. -/
  | writeStatic (s : Store) (key : StaticSlot) (v : Value) : Change t s (s.setStatic key v)

/-- Any number of operations that succeed. -/
abbrev Changes (t : TypeTable) : Store → Store → Prop := Relation.ReflTransGen (Change t)

/-- Every complete change keeps the slots of all objects typed. -/
theorem Change.slotsTyped (h : Change t s s') (hs : s.SlotsTyped t) : s'.SlotsTyped t := by
  cases h with
  | make htype => exact hs.push htype
  | write hr htype hcast => exact hs.setSlot hr htype (TypeTable.conforms_of_cast hcast)
  | writeStatic => exact ⟨hs.declared, hs.slots⟩

theorem Changes.slotsTyped (h : Changes t s s') (hs : s.SlotsTyped t) : s'.SlotsTyped t := by
  induction h with
  | refl => exact hs
  | tail _ hstep ih => exact hstep.slotsTyped ih

/-- Objects of the types there were stay typed when types are added. -/
theorem SlotsTyped.mono (he : t.Extends t') (hs : s.SlotsTyped t) : s.SlotsTyped t' := by
  constructor
  · intro address r hr
    exact Nat.lt_of_lt_of_le (hs.declared address r hr) he.size_le
  · intro address r hr
    rw [he.model_eq (hs.declared address r hr)]
    exact (hs.slots address r hr).imp fun _ _ hconf => TypeTable.conforms_mono he hconf

/-- An object has as many slots as its type. -/
theorem SlotsTyped.length_slots (hs : s.SlotsTyped t) {address : Nat} {r : Record}
    (hr : s.record? address = some r) : r.slots.length = (t.model r.type).slotTypes.length :=
  (hs.slots address r hr).length_eq.symm

end Store

/-! ## Single operations -/

namespace Machine

variable {m : Machine} {s s' : Store}

theorem perform_instantiate (type : TypeId) : (m.instantiate type).perform s =
    (.ok ⟨s.heap.size, type⟩, s.push ⟨type, (m.types.model type).slotTypes.map ValueType.zero⟩) := by
  rw [instantiate, Action.perform_bind_ok (Action.perform_get s)]
  rfl

/-- Writing a slot writes a converted value, or fails and changes nothing. -/
theorem storeSlot_cases (ref : ObjectRef) (slot : Nat) (v : Value) :
    (∃ r type w, s.record? ref.address = some r ∧
      (m.types.model r.type).slotTypes[slot]? = some type ∧ m.types.cast type v = .ok w ∧
      (m.storeSlot ref slot v).perform s = (.ok (), s.setSlot ref.address slot w)) ∨
    ∃ e, (m.storeSlot ref slot v).perform s = (.error e, s) := by
  rw [storeSlot, Action.perform_bind_ok (Action.perform_get s)]
  cases hr : s.record? ref.address with
  | none => exact .inr ⟨_, rfl⟩
  | some r =>
    cases htype : (m.types.model r.type).slotTypes[slot]? with
    | none =>
      right
      simp only [htype]
      exact ⟨_, rfl⟩
    | some type =>
      simp only [htype]
      cases hcast : m.types.cast type v with
      | error e => exact .inr ⟨_, rfl⟩
      | ok w => exact .inl ⟨r, type, w, rfl, htype, hcast, rfl⟩

/-- Writing a static slot writes the value, or fails and changes nothing. -/
theorem storeStatic_cases (owner : TypeId) (slot : Nat) (v : Value) :
    (m.storeStatic owner slot v).perform s = (.ok (), s.setStatic ⟨owner, slot⟩ v) ∨
    ∃ e, (m.storeStatic owner slot v).perform s = (.error e, s) := by
  rw [storeStatic]
  cases (m.types.model owner).staticTypes[slot]? with
  | none => exact .inr ⟨_, rfl⟩
  | some type => exact .inl rfl

/-- A write that fails leaves the old value in the slot, and everything else as it was. -/
theorem eq_of_storeSlot_error {ref : ObjectRef} {slot : Nat} {v : Value} {e : Error}
    (h : (m.storeSlot ref slot v).perform s = (.error e, s')) : s' = s := by
  rcases storeSlot_cases (m := m) (s := s) ref slot v with ⟨r, type, w, -, -, -, hok⟩ | ⟨e', herror⟩
  · rw [hok] at h
    cases h
  · rw [herror] at h
    cases h
    rfl

theorem eq_of_storeStatic_error {owner : TypeId} {slot : Nat} {v : Value} {e : Error}
    (h : (m.storeStatic owner slot v).perform s = (.error e, s')) : s' = s := by
  rcases storeStatic_cases (m := m) (s := s) owner slot v with hok | ⟨e', herror⟩
  · rw [hok] at h
    cases h
  · rw [herror] at h
    cases h
    rfl

end Machine

/-! ## Scripts -/

namespace Action

variable {α β : Type} {m : Machine}

/-- The action reaches objects only by making them and by writing slots.  What it reads, what it makes
of it, and which errors it handles, is its own. -/
inductive Scripted (m : Machine) : {α : Type} → Action α → Prop
  /-- A result. -/
  | pure {α : Type} (v : α) : Scripted m (Pure.pure v : Action α)
  /-- An error. -/
  | throw {α : Type} (e : Error) : Scripted m (MonadExcept.throw e : Action α)
  /-- Look at the store. -/
  | get : Scripted m (MonadState.get : Action Store)
  /-- One script after the other. -/
  | bind {α β : Type} {a : Action α} {f : α → Action β} (ha : Scripted m a)
      (hf : ∀ v, Scripted m (f v)) : Scripted m (a >>= f)
  /-- A script with another one that handles its errors. -/
  | handle {α : Type} {a : Action α} {f : Error → Action α} (ha : Scripted m a)
      (hf : ∀ e, Scripted m (f e)) : Scripted m (tryCatch a f)
  /-- Make an object of a declared type. -/
  | make {type : TypeId} (htype : type < m.types.size) : Scripted m (m.instantiate type)
  /-- Write a slot. -/
  | write (ref : ObjectRef) (slot : Nat) (v : Value) : Scripted m (m.storeSlot ref slot v)
  /-- Write a static slot. -/
  | writeStatic (owner : TypeId) (slot : Nat) (v : Value) : Scripted m (m.storeStatic owner slot v)

/-- What a script can stop at. -/
inductive Stop where
  /-- An error. -/
  | raise (e : Error)
  /-- A write of a slot. -/
  | write (ref : ObjectRef) (slot : Nat) (v : Value)
  /-- A write of a static slot. -/
  | writeStatic (owner : TypeId) (slot : Nat) (v : Value)

/-- What is attempted there. -/
def Stop.attempt (m : Machine) : Stop → Action Unit
  | .raise e => MonadExcept.throw e
  | .write ref slot v => m.storeSlot ref slot v
  | .writeStatic owner slot v => m.storeStatic owner slot v

/-- Running the action from a store comes to a stop in another store. -/
inductive Reaches (m : Machine) : {α : Type} → Action α → Store → Stop → Store → Prop
  /-- The action is an error. -/
  | raise {α : Type} (e : Error) (s : Store) :
      Reaches m (MonadExcept.throw e : Action α) s (.raise e) s
  /-- The action is a write of a slot. -/
  | write (ref : ObjectRef) (slot : Nat) (v : Value) (s : Store) :
      Reaches m (m.storeSlot ref slot v) s (.write ref slot v) s
  /-- The action is a write of a static slot. -/
  | writeStatic (owner : TypeId) (slot : Nat) (v : Value) (s : Store) :
      Reaches m (m.storeStatic owner slot v) s (.writeStatic owner slot v) s
  /-- The stop is in the first of two actions. -/
  | first {α β : Type} {a : Action α} (f : α → Action β) {s s' : Store} {stop : Stop}
      (h : Reaches m a s stop s') : Reaches m (a >>= f) s stop s'
  /-- The stop is in the second of two actions. -/
  | next {α β : Type} {a : Action α} {f : α → Action β} {s s₁ s' : Store} {v : α} {stop : Stop}
      (ha : a.perform s = (.ok v, s₁)) (h : Reaches m (f v) s₁ stop s') :
      Reaches m (a >>= f) s stop s'
  /-- The stop is in what handles an error. -/
  | handler {α : Type} {a : Action α} {f : Error → Action α} {s s₁ s' : Store} {e : Error}
      {stop : Stop} (ha : a.perform s = (.error e, s₁)) (h : Reaches m (f e) s₁ stop s') :
      Reaches m (tryCatch a f) s stop s'

/-- Where the attempt fails, the action fails, and all that it did stays as it was at the stop. -/
theorem Reaches.perform_error {a : Action α} {s s₁ s₂ : Store} {stop : Stop} {e : Error}
    (h : Reaches m a s stop s₁) (he : (stop.attempt m).perform s₁ = (.error e, s₂)) :
    s₂ = s₁ ∧ a.perform s = (.error e, s₁) := by
  induction h with
  | raise e' s =>
    cases he
    exact ⟨rfl, rfl⟩
  | write ref slot v s =>
    obtain rfl := Machine.eq_of_storeSlot_error he
    exact ⟨rfl, he⟩
  | writeStatic owner slot v s =>
    obtain rfl := Machine.eq_of_storeStatic_error he
    exact ⟨rfl, he⟩
  | first f h ih =>
    obtain ⟨hs, ha⟩ := ih he
    exact ⟨hs, perform_bind_error ha⟩
  | next ha h ih =>
    obtain ⟨hs, hf⟩ := ih he
    exact ⟨hs, (perform_bind_ok ha).trans hf⟩
  | handler ha h ih =>
    obtain ⟨hs, hf⟩ := ih he
    exact ⟨hs, (perform_tryCatch_error _ ha).trans hf⟩

namespace Scripted

/-- Whatever becomes of a script, it has made complete changes. -/
theorem changes {a : Action α} (h : Scripted m a) (s : Store) :
    Store.Changes m.types s (a.perform s).2 := by
  induction h generalizing s with
  | pure | throw | get => exact .refl
  | @bind _ _ a f _ _ iha ihf =>
    have hfirst := iha s
    cases ha : a.perform s with
    | mk result s₁ =>
      rw [ha] at hfirst
      cases result with
      | error e =>
        rw [perform_bind_error ha]
        exact hfirst
      | ok v =>
        rw [perform_bind_ok ha]
        exact hfirst.trans (ihf v s₁)
  | @handle _ a f _ _ iha ihf =>
    have hfirst := iha s
    cases ha : a.perform s with
    | mk result s₁ =>
      rw [ha] at hfirst
      cases result with
      | error e =>
        rw [perform_tryCatch_error f ha]
        exact hfirst.trans (ihf e s₁)
      | ok v =>
        rw [perform_tryCatch_ok f ha]
        exact hfirst
  | make htype =>
    rw [Machine.perform_instantiate]
    exact .single (.make s htype)
  | write ref slot v =>
    rcases Machine.storeSlot_cases (m := m) (s := s) ref slot v with
      ⟨r, type, w, hr, htype, hcast, hok⟩ | ⟨e, herror⟩
    · rw [hok]
      exact .single (.write hr htype hcast)
    · rw [herror]
  | writeStatic owner slot v =>
    rcases Machine.storeStatic_cases (m := m) (s := s) owner slot v with hok | ⟨e, herror⟩
    · rw [hok]
      exact .single (.writeStatic s _ v)
    · rw [herror]

/-- A script that fails has come to a stop where the attempt fails. -/
theorem stops {a : Action α} (h : Scripted m a) {s s' : Store} {e : Error}
    (he : a.perform s = (.error e, s')) :
    ∃ stop, Reaches m a s stop s' ∧ (stop.attempt m).perform s' = (.error e, s') := by
  induction h generalizing s s' e with
  | pure v | get => cases he
  | throw e' =>
    cases he
    exact ⟨.raise e', .raise e' s, rfl⟩
  | @bind _ _ a f _ _ iha ihf =>
    cases ha : a.perform s with
    | mk result s₁ =>
      cases result with
      | error e₁ =>
        rw [perform_bind_error ha] at he
        cases he
        obtain ⟨stop, hstop, hfails⟩ := iha ha
        exact ⟨stop, .first f hstop, hfails⟩
      | ok v =>
        rw [perform_bind_ok ha] at he
        obtain ⟨stop, hstop, hfails⟩ := ihf v he
        exact ⟨stop, .next ha hstop, hfails⟩
  | @handle _ a f _ _ iha ihf =>
    cases ha : a.perform s with
    | mk result s₁ =>
      cases result with
      | error e₁ =>
        rw [perform_tryCatch_error f ha] at he
        obtain ⟨stop, hstop, hfails⟩ := ihf e₁ he
        exact ⟨stop, .handler ha hstop, hfails⟩
      | ok v =>
        rw [perform_tryCatch_ok f ha] at he
        cases he
  | make htype =>
    rw [Machine.perform_instantiate] at he
    cases he
  | write ref slot v =>
    obtain rfl := Machine.eq_of_storeSlot_error he
    exact ⟨.write ref slot v, .write ref slot v s', he⟩
  | writeStatic owner slot v =>
    obtain rfl := Machine.eq_of_storeStatic_error he
    exact ⟨.writeStatic owner slot v, .writeStatic owner slot v s', he⟩

theorem map {a : Action α} (h : Scripted m a) (f : α → β) : Scripted m (f <$> a) := by
  rw [← bind_pure_comp]
  exact h.bind fun v => .pure (f v)

theorem discard {a : Action α} (h : Scripted m a) : Scripted m (Functor.discard a) := by
  rw [discard_eq_bind]
  exact h.bind fun _ => .pure PUnit.unit

theorem ofCast (r : Except CastError α) : Scripted m (Action.ofCast r) := by
  cases r with
  | ok v => exact .pure v
  | error e => exact .throw _

end Scripted
end Action

/-! ## The operations are scripts -/

namespace Machine

open Action

variable {m : Machine}

/-- The supplied bodies are scripts: they reach objects through the operations on them only. -/
structure Scripted (m : Machine) : Prop where
  /-- Bodies of methods. -/
  method : ∀ body receiver args, Action.Scripted m (m.method body receiver args)
  /-- Bodies of constructors. -/
  constructor : ∀ body ref args, Action.Scripted m (m.constructor body ref args)

theorem scripted_loadSlot (ref : ObjectRef) (slot : Nat) : Action.Scripted m (loadSlot ref slot) := by
  refine Action.Scripted.get.bind fun s => ?_
  cases (s.slots ref)[slot]? with
  | some v => exact .pure v
  | none => exact .throw _

theorem scripted_loadStatic (owner : TypeId) (slot : Nat) :
    Action.Scripted m (m.loadStatic owner slot) := by
  rw [loadStatic]
  cases (m.types.model owner).staticTypes[slot]? with
  | some type => exact Action.Scripted.get.bind fun s => .pure _
  | none => exact .throw _

theorem scripted_requireInstance (receiver : Option ObjectRef) (member : String) :
    Action.Scripted m (requireInstance receiver member) := by
  cases receiver with
  | some ref => exact .pure ref
  | none => exact .throw _

theorem scripted_loadField (f : FieldRef) (receiver : Option ObjectRef) :
    Action.Scripted m (m.loadField f receiver) := by
  rw [loadField]
  by_cases hstatic : f.field.isStatic = true
  · rw [if_pos hstatic]
    exact scripted_loadStatic f.owner f.field.slot
  · rw [if_neg hstatic]
    exact (scripted_requireInstance receiver _).bind fun ref => scripted_loadSlot ref _

theorem scripted_storeField (f : FieldRef) (receiver : Option ObjectRef) (v : Value) :
    Action.Scripted m (m.storeField f receiver v) := by
  rw [storeField]
  refine (Action.Scripted.ofCast _).bind fun w => ?_
  by_cases hstatic : f.field.isStatic = true
  · rw [if_pos hstatic]
    exact .writeStatic _ _ w
  · rw [if_neg hstatic]
    exact (scripted_requireInstance receiver _).bind fun ref => .write ref _ w

theorem scripted_onlyArgument (args : List Value) (member : String) :
    Action.Scripted m (onlyArgument args member) := by
  rcases args with _ | ⟨v, _ | ⟨v', rest⟩⟩
  · exact .throw _
  · exact .pure v
  · exact .throw _

theorem scripted_runBody (hm : m.Scripted) (r : MethodRef) (args : List Value)
    (receiver : Option ObjectRef) : Action.Scripted m (m.runBody r args receiver) := by
  rw [runBody]
  cases r.method.body with
  | loadSlot slot => exact (scripted_requireInstance receiver _).bind fun ref => scripted_loadSlot ref slot
  | loadStatic slot => exact scripted_loadStatic r.owner slot
  | storeSlot slot =>
    refine (scripted_onlyArgument args _).bind fun v => ?_
    refine (scripted_requireInstance receiver _).bind fun ref => ?_
    exact (Action.Scripted.write ref slot v).bind fun _ => .pure _
  | storeStatic slot =>
    refine (scripted_onlyArgument args _).bind fun v => ?_
    exact (Action.Scripted.writeStatic r.owner slot v).bind fun _ => .pure _
  | native body => exact hm.method body receiver args

theorem scripted_invoke (hm : m.Scripted) (r : MethodRef) (receiver : Option ObjectRef)
    (args : List Value) : Action.Scripted m (m.invoke r receiver args) := by
  rw [invoke_eq, receiverFor]
  by_cases hstatic : r.method.isStatic = true
  · rw [if_pos hstatic]
    exact (Action.Scripted.pure _).bind fun used => scripted_runBody hm r args used
  · rw [if_neg hstatic]
    exact ((scripted_requireInstance receiver _).map some).bind fun used =>
      scripted_runBody hm r args used

theorem scripted_load (hm : m.Scripted) (member : MemberRef) (receiver : Option ObjectRef) :
    Action.Scripted m (m.load member receiver) := by
  cases member with
  | field f => exact scripted_loadField f receiver
  | property p =>
    rw [load]
    cases p.getter? with
    | some getter => exact scripted_invoke hm getter receiver []
    | none => exact .throw _

theorem scripted_assignSlots (ref : ObjectRef) (args : List Value) (steps : List SlotInit) :
    Action.Scripted m (m.assignSlots ref args steps) := by
  induction steps with
  | nil => exact .pure ()
  | cons step rest ih => exact (Action.Scripted.write ref step.slot _).bind fun _ => ih

theorem scripted_construct (hm : m.Scripted) {c : ConstructorRef} (hc : c.owner < m.types.size)
    (args : List Value) : Action.Scripted m (m.construct c args) := by
  rw [construct]
  split
  · exact .throw _
  · refine (Action.Scripted.make hc).bind fun ref => ?_
    split
    · rename_i steps hbody
      exact (scripted_assignSlots ref args steps).bind fun _ => .pure ref
    · rename_i body hbody
      exact (hm.constructor body ref args).bind fun _ => .pure ref

end Machine
end Reshape
