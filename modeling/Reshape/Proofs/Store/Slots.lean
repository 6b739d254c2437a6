import Reshape.Expr.Evaluation
import Reshape.Proofs.Store.Access

/-!
# What slots hold

Members with slots are read and written without running any supplied body: reading one yields what
its slot holds (`Machine.perform_load`), and assigning one writes its slot (`Machine.perform_assign`).
On a fresh object all writes are a list of slots with values (`Record.writes`), of which the last one
for a slot counts; a constructor with steps makes such an object (`Machine.perform_construct`).
-/

namespace Reshape

/-! ## Writes -/

namespace Record

/-- Replace one slot. -/
def write (r : Record) (w : Nat × Value) : Record :=
  { r with slots := r.slots.set w.1 w.2 }

/-- Replace slots one after the other. -/
def writes (r : Record) (ws : List (Nat × Value)) : Record :=
  ws.foldl write r

@[simp] theorem writes_nil (r : Record) : r.writes [] = r := rfl

@[simp] theorem writes_cons (r : Record) (w : Nat × Value) (ws : List (Nat × Value)) :
    r.writes (w :: ws) = (r.write w).writes ws := rfl

theorem writes_append (r : Record) (ws ws' : List (Nat × Value)) :
    r.writes (ws ++ ws') = (r.writes ws).writes ws' :=
  List.foldl_append

@[simp] theorem writes_type (r : Record) (ws : List (Nat × Value)) : (r.writes ws).type = r.type := by
  induction ws generalizing r with
  | nil => rfl
  | cons w ws ih => exact ih (r.write w)

theorem length_writes (r : Record) (ws : List (Nat × Value)) :
    (r.writes ws).slots.length = r.slots.length := by
  induction ws generalizing r with
  | nil => rfl
  | cons w ws ih =>
    rw [writes_cons, ih]
    simp [write]

/-- A slot that is not written stays as it is. -/
theorem getElem?_writes_of_notMem {r : Record} {ws : List (Nat × Value)} {slot : Nat}
    (h : ∀ w ∈ ws, w.1 ≠ slot) : (r.writes ws).slots[slot]? = r.slots[slot]? := by
  induction ws generalizing r with
  | nil => rfl
  | cons w ws ih =>
    rw [writes_cons, ih fun w' hw' => h w' (List.mem_cons_of_mem _ hw')]
    exact List.getElem?_set_ne (h w (List.mem_cons_self ..))

/-- The value of a write stays, if the slot is not written again. -/
theorem getElem?_writes {r : Record} {front back : List (Nat × Value)} {slot : Nat} {v : Value}
    (hslot : slot < r.slots.length) (h : ∀ w ∈ back, w.1 ≠ slot) :
    (r.writes (front ++ (slot, v) :: back)).slots[slot]? = some v := by
  rw [writes_append, writes_cons, getElem?_writes_of_notMem h]
  have hlt : slot < (r.writes front).slots.length := by rwa [length_writes]
  exact List.getElem?_set_self hlt

/-- What is written stays, if no slot is written twice. -/
theorem getElem?_writes_of_mem {r : Record} {ws : List (Nat × Value)} {w : Nat × Value}
    (hw : w ∈ ws) (hnodup : (ws.map (·.1)).Nodup) (hslot : w.1 < r.slots.length) :
    (r.writes ws).slots[w.1]? = some w.2 := by
  obtain ⟨front, back, rfl⟩ := List.append_of_mem hw
  refine getElem?_writes hslot fun w' hw' heq => ?_
  rw [List.map_append, List.map_cons] at hnodup
  have hnotMem := (List.nodup_cons.1 (List.nodup_append.1 hnodup).2.1).1
  exact hnotMem (heq ▸ List.mem_map_of_mem hw')

/-- A slot that is written holds the value of one of its writes. -/
theorem exists_getElem?_writes {r : Record} {ws : List (Nat × Value)} {slot : Nat}
    (h : ∃ w ∈ ws, w.1 = slot) (hslot : slot < r.slots.length) :
    ∃ w ∈ ws, w.1 = slot ∧ (r.writes ws).slots[slot]? = some w.2 := by
  induction ws generalizing r with
  | nil => simp at h
  | cons w ws ih =>
    have hlength : (r.write w).slots.length = r.slots.length := by simp [write]
    by_cases hlater : ∃ w' ∈ ws, w'.1 = slot
    · obtain ⟨w', hw', hslot', hheld⟩ := ih (r := r.write w) hlater (hlength ▸ hslot)
      exact ⟨w', List.mem_cons_of_mem _ hw', hslot', hheld⟩
    · -- the first write is the last one for the slot
      have hnone : ∀ w' ∈ ws, w'.1 ≠ slot := fun w' hw' heq => hlater ⟨w', hw', heq⟩
      obtain ⟨w', hw', heq⟩ := h
      rcases List.mem_cons.1 hw' with rfl | hw'
      · refine ⟨w', List.mem_cons_self .., heq, ?_⟩
        rw [writes_cons, getElem?_writes_of_notMem hnone, ← heq]
        exact List.getElem?_set_self (heq ▸ hslot)
      · exact absurd heq (hnone w' hw')

end Record

/-- How a member is assigned: by the field itself, or by its setter. -/
def MemberRef.AssignedBy (member : MemberRef) : AssignTarget → Prop
  | .field f => member = .field f
  | .primitive f => member = .field f
  | .setter g => ∃ p, member = .property p ∧ p.setter? = some g

/-! ## Reading -/

/-- The slot in which a data member keeps its value, if it has one. -/
def MemberRef.slot? : MemberRef → Option Nat
  | field f => some f.field.slot
  | property p => p.property.backing?

theorem MemberRef.backingSlot?_eq (m : MemberRef) :
    m.backingSlot? = if m.isStatic then none else m.slot? := by
  cases m <;> rfl

theorem MemberRef.isStatic_of_backingSlot? {m : MemberRef} (h : m.backingSlot?.isSome = true) :
    m.isStatic = false := by
  rw [backingSlot?_eq] at h
  split at h
  · cases h
  · rename_i hstatic
    exact Bool.eq_false_iff.2 hstatic

/-- A slot that objects have is the slot of an instance member. -/
theorem MemberRef.slot?_of_backingSlot? {m : MemberRef} {slot : Nat} (h : m.backingSlot? = some slot) :
    m.slot? = some slot ∧ m.isStatic = false := by
  have hstatic := isStatic_of_backingSlot? (Option.isSome_of_eq_some h)
  rw [backingSlot?_eq, if_neg (Bool.eq_false_iff.1 hstatic)] at h
  exact ⟨h, hstatic⟩

/-- What a member with a slot holds on an object. -/
def Store.held? (s : Store) (ref : ObjectRef) (m : MemberRef) : Option Value :=
  m.backingSlot?.bind fun slot => (s.slots ref)[slot]?

variable {t : TypeTable} {s : Store}

/-- A member with a slot holds a value of its type on every object that has the member. -/
theorem Store.WellTyped.held (hs : s.WellTyped t) (ht : ∀ id < t.size, t.Sound id)
    {member : MemberRef} (hm : t.HasMember member) (hslot : member.backingSlot?.isSome = true)
    {ref : ObjectRef} (hlive : s.Live (.object ref))
    (hsub : t.isSubtype ref.type member.owner = true) :
    ∃ v, s.held? ref member = some v ∧ t.conforms member.type v = true ∧ s.Live v := by
  obtain ⟨slot, hslot⟩ := Option.isSome_iff_exists.1 hslot
  obtain ⟨r, hr, hrtype⟩ := Store.live_object.1 hlive
  have hown := TypeTable.slotType_of_backingSlot? hm (ht _ hm.owner_lt) hslot
  have htype := TypeTable.slotType_of_prefix ht (hrtype ▸ hsub) hown
  obtain ⟨v, hv, hconf, hvlive⟩ := hs.slot hr htype
  refine ⟨v, ?_, hconf, hvlive⟩
  rw [held?, hslot, Option.bind_some, Store.slots, hr]
  exact hv

namespace Machine

open Action

variable {m : Machine}

theorem perform_loadSlot {ref : ObjectRef} {slot : Nat} {v : Value}
    (h : (s.slots ref)[slot]? = some v) : (loadSlot ref slot).perform s = (.ok v, s) := by
  rw [loadSlot, perform_bind_ok (perform_get s), h]
  rfl

/-! ### Generated accesses -/

/-- Write a slot of an object, or a static slot. -/
def storeIn (m : Machine) (owner : TypeId) (slot : Nat) (v : Value) : Option ObjectRef → Action Unit
  | some ref => m.storeSlot ref slot v
  | none => m.storeStatic owner slot v

/-- Read a slot of an object, or a static slot. -/
def loadFrom (m : Machine) (owner : TypeId) (slot : Nat) : Option ObjectRef → Action Value
  | some ref => loadSlot ref slot
  | none => m.loadStatic owner slot

variable {ref? : Option ObjectRef}

/-- Reading a field reads its slot. -/
theorem loadField_eq {f : FieldRef} (hstatic : f.field.isStatic = ref?.isNone) :
    m.loadField f ref? = m.loadFrom f.owner f.field.slot ref? := by
  rw [loadField, hstatic]
  cases ref? <;> rfl

/-- Writing a field converts the value and writes the slot. -/
theorem storeField_eq {f : FieldRef} (hstatic : f.field.isStatic = ref?.isNone) (v : Value) :
    m.storeField f ref? v =
      Action.ofCast (m.types.cast f.field.type v) >>= fun w => m.storeIn f.owner f.field.slot w ref? := by
  rw [storeField, hstatic]
  cases ref? <;> rfl

theorem receiverFor_eq {g : MethodRef} (hstatic : g.method.isStatic = ref?.isNone) :
    receiverFor g ref? = pure ref? := by
  rw [receiverFor, hstatic]
  cases ref? <;> rfl

/-- The getter of a property with a slot reads the slot. -/
theorem invoke_getter_eq {p : PropertyRef} (hp : m.types.HasProperty p) (ht : m.types.Sound p.owner)
    {g : MethodRef} (hg : p.getter? = some g) {slot : Nat} (hslot : p.property.backing? = some slot)
    (hstatic : p.property.isStatic = ref?.isNone) :
    m.invoke g ref? [] = m.loadFrom p.owner slot ref? := by
  obtain ⟨-, howner, hgetter⟩ := hp.getter ht hg
  have hbody := hgetter.body slot hslot
  rw [hstatic] at hbody
  rw [invoke_eq, receiverFor_eq (hgetter.isStatic.trans hstatic), pure_bind, runBody, hbody, ← howner]
  cases ref? <;> rfl

/-- The setter of a property with a slot writes the slot. -/
theorem invoke_setter_eq {p : PropertyRef} (hp : m.types.HasProperty p) (ht : m.types.Sound p.owner)
    {g : MethodRef} (hg : p.setter? = some g) {slot : Nat} (hslot : p.property.backing? = some slot)
    (hstatic : p.property.isStatic = ref?.isNone) (v : Value) :
    m.invoke g ref? [v] = m.storeIn p.owner slot v ref? >>= fun _ => pure .null := by
  obtain ⟨-, howner, hsetter⟩ := hp.setter ht hg
  have hbody := hsetter.body slot hslot
  rw [hstatic] at hbody
  rw [invoke_eq, receiverFor_eq (hsetter.isStatic.trans hstatic), pure_bind, runBody, hbody, ← howner]
  cases ref? <;> rfl

/-! ### Reading members -/

theorem perform_loadField {f : FieldRef} {ref : ObjectRef} {v : Value}
    (h : s.held? ref (.field f) = some v) : (m.loadField f (some ref)).perform s = (.ok v, s) := by
  obtain ⟨slot, hslot, hv⟩ := Option.bind_eq_some_iff.1 h
  obtain ⟨hslot, hstatic⟩ := MemberRef.slot?_of_backingSlot? hslot
  cases hslot
  have hinstance : f.field.isStatic = (some ref).isNone := hstatic
  rw [loadField_eq hinstance]
  exact perform_loadSlot hv

/-- The getter of a property with a slot reads what an object holds. -/
theorem perform_getter {p : PropertyRef} (hp : m.types.HasProperty p)
    (ht : m.types.Sound p.owner) {g : MethodRef} (hg : p.getter? = some g) {ref : ObjectRef}
    {v : Value} (h : s.held? ref (.property p) = some v) :
    (m.invoke g (some ref) []).perform s = (.ok v, s) := by
  obtain ⟨slot, hslot, hv⟩ := Option.bind_eq_some_iff.1 h
  obtain ⟨hslot, hstatic⟩ := MemberRef.slot?_of_backingSlot? hslot
  have hinstance : p.property.isStatic = (some ref).isNone := hstatic
  rw [invoke_getter_eq hp ht hg hslot hinstance]
  exact perform_loadSlot hv

/-- Reading a member with a slot yields what the slot holds. -/
theorem perform_load {member : MemberRef} (hm : m.types.HasMember member)
    (ht : ∀ id < m.types.size, m.types.Sound id) (hreadable : member.isReadable = true)
    {ref : ObjectRef} {v : Value} (h : s.held? ref member = some v) :
    (m.load member (some ref)).perform s = (.ok v, s) := by
  cases member with
  | field f => exact perform_loadField h
  | property p =>
    obtain ⟨g, hg⟩ := Option.isSome_iff_exists.1 hreadable
    simp only [load, hg]
    exact perform_getter hm (ht _ hm.owner_lt) hg h

/-! ## Writing to a fresh object -/

theorem push_setSlot (s : Store) (r : Record) (slot : Nat) (v : Value) :
    (s.push r).setSlot s.heap.size slot v = s.push (r.write (slot, v)) := by
  simp only [Store.push, Store.setSlot, Record.write]
  congr 1
  apply Array.ext
  · simp
  · intro i hi hi'
    simp only [Array.size_modify, Array.size_push] at hi
    rw [Array.getElem_modify]
    by_cases h : s.heap.size = i
    · subst h
      simp
    · have hlt : i < s.heap.size := by omega
      simp [h, Array.getElem_push_lt hlt]

/-- Writing a slot of a fresh object converts the value to the type of the slot. -/
theorem perform_storeSlot {r : Record} {slot : Nat} {type : ValueType}
    (htype : (m.types.model r.type).slotTypes[slot]? = some type) {v w : Value}
    (hcast : m.types.cast type v = .ok w) (own : TypeId) :
    (m.storeSlot ⟨s.heap.size, own⟩ slot v).perform (s.push r) =
      (.ok (), s.push (r.write (slot, w))) := by
  have hr : (s.push r).record? s.heap.size = some r := by rw [Store.record?_push, if_pos rfl]
  rw [storeSlot, perform_bind_ok (perform_get _)]
  simp only [hr, htype, hcast, Action.ofCast, pure_bind]
  rw [perform_modify, push_setSlot]

/-- A step of a constructor writes the argument for its parameter, converted to the type of its
slot. -/
structure StepWrites (m : Machine) (owner : TypeId) (args : List Value) (step : SlotInit)
    (w : Nat × Value) : Prop where
  /-- The slot is the step's. -/
  slot : w.1 = step.slot
  /-- The value is the converted argument. -/
  value : ∃ type, (m.types.model owner).slotTypes[step.slot]? = some type ∧
    m.types.cast type (args[step.parameter]?.getD .null) = .ok w.2

/-- The steps of a constructor are writes of the converted arguments. -/
theorem perform_assignSlots {owner : TypeId} {args : List Value} {steps : List SlotInit}
    {ws : List (Nat × Value)} (h : List.Forall₂ (m.StepWrites owner args) steps ws) {r : Record}
    (hr : r.type = owner) :
    (m.assignSlots ⟨s.heap.size, owner⟩ args steps).perform (s.push r) =
      (.ok (), s.push (r.writes ws)) := by
  induction h generalizing r with
  | nil => rfl
  | @cons step w steps ws hstep _ ih =>
    obtain ⟨heq, type, htype, hcast⟩ := hstep
    have hw : w = (step.slot, w.2) := by rw [← heq]
    rw [assignSlots, perform_bind_ok (perform_storeSlot (hr ▸ htype) hcast owner), ← hw]
    exact ih hr

/-! ## Constructing -/

/-- A fresh object of a type, all slots zero. -/
def zeros (m : Machine) (type : TypeId) : Record :=
  ⟨type, (m.types.model type).slotTypes.map ValueType.zero⟩

/-- Writes leave the type of a fresh object. -/
theorem writes_zeros (m : Machine) (type : TypeId) (ws : List (Nat × Value)) :
    (m.zeros type).writes ws = ⟨type, ((m.zeros type).writes ws).slots⟩ :=
  congrArg (Record.mk · _) (Record.writes_type (m.zeros type) ws)

/-- A constructor with steps makes a fresh object and writes its slots. -/
theorem perform_construct {r : ConstructorRef} {steps : List SlotInit}
    (hbody : r.constructor.body = .assign steps) {vs : List Value}
    (hlength : vs.length = r.constructor.parameters.length) {ws : List (Nat × Value)}
    (hsteps : List.Forall₂ (m.StepWrites r.owner vs) steps ws) :
    (m.construct r vs).perform s =
      (.ok ⟨s.heap.size, r.owner⟩, s.push ((m.zeros r.owner).writes ws)) := by
  have hmake : (m.instantiate r.owner).perform s =
      (.ok ⟨s.heap.size, r.owner⟩, s.push (m.zeros r.owner)) := rfl
  have hassign := perform_assignSlots (s := s) hsteps (r := m.zeros r.owner) rfl
  simp only [construct, hlength, ne_eq, not_true_eq_false, if_false, hbody]
  rw [perform_bind_ok hmake, perform_bind_ok hassign]
  rfl

/-- A slot that the steps write from one parameter, and that nothing writes after them, holds the converted
argument. -/
theorem held_of_step {owner : TypeId} {vs : List Value} {steps : List SlotInit}
    {ws ws' : List (Nat × Value)} (hsteps : List.Forall₂ (m.StepWrites owner vs) steps ws)
    {step : SlotInit} (hstep : step ∈ steps)
    (hsame : ∀ step' ∈ steps, step'.slot = step.slot → step'.parameter = step.parameter)
    (hlater : ∀ w ∈ ws', w.1 ≠ step.slot) : ∃ type w,
      (m.types.model owner).slotTypes[step.slot]? = some type ∧
      m.types.cast type (vs[step.parameter]?.getD .null) = .ok w ∧
      ((m.zeros owner).writes (ws ++ ws')).slots[step.slot]? = some w := by
  obtain ⟨w, hw, hwrites⟩ := exists_of_mem_forall₂ hsteps.flip hstep
  obtain ⟨type, htype, -⟩ := hwrites.value
  have hlt : step.slot < (m.zeros owner).slots.length := by
    rw [zeros, List.length_map]
    exact (List.getElem?_eq_some_iff.1 htype).1
  -- the last step that writes the slot decides, and it is of the same parameter
  obtain ⟨w', hw', hslot, hheld⟩ := Record.exists_getElem?_writes ⟨w, hw, hwrites.slot⟩ hlt
  obtain ⟨step', hstep', hwrites'⟩ := exists_of_mem_forall₂ hsteps hw'
  have hslots : step'.slot = step.slot := hwrites'.slot.symm.trans hslot
  obtain ⟨type', htype', hcast⟩ := hwrites'.value
  rw [hslots] at htype'
  rw [hsame step' hstep' hslots] at hcast
  refine ⟨type', w'.2, htype', hcast, ?_⟩
  rw [Record.writes_append, Record.getElem?_writes_of_notMem hlater]
  exact hheld

/-! ## Assigning members -/

/-- Writing a field with a slot converts the value and writes the slot. -/
theorem storeField_of_slot {f : FieldRef} {slot : Nat}
    (hslot : MemberRef.backingSlot? (.field f) = some slot) (ref : ObjectRef) (v : Value) :
    m.storeField f (some ref) v =
      Action.ofCast (m.types.cast f.field.type v) >>= m.storeSlot ref slot := by
  obtain ⟨hslot, hstatic⟩ := MemberRef.slot?_of_backingSlot? hslot
  cases hslot
  exact storeField_eq hstatic v

/-- The setter of a property with a slot writes the slot. -/
theorem assign_setter {p : PropertyRef} (hp : m.types.HasProperty p) (ht : m.types.Sound p.owner)
    {g : MethodRef} (hg : p.setter? = some g) {slot : Nat}
    (hslot : MemberRef.backingSlot? (.property p) = some slot) (ref : ObjectRef) (v : Value) :
    m.assign ref (.setter g) v = m.storeSlot ref slot v := by
  obtain ⟨hslot, hstatic⟩ := MemberRef.slot?_of_backingSlot? hslot
  have hinstance : p.property.isStatic = (some ref).isNone := hstatic
  have hinvoke : m.invoke g (some ref) [v] = m.storeSlot ref slot v >>= fun _ => pure .null :=
    invoke_setter_eq hp ht hg hslot hinstance v
  have hdiscard : m.assign ref (.setter g) v =
      m.invoke g (some ref) [v] >>= fun _ => pure () := discard_eq_bind _
  rw [hdiscard, hinvoke, bind_assoc]
  exact bind_pure (m.storeSlot ref slot v)

/-- Assigning a member of a fresh object writes its slot with the converted value. -/
theorem perform_assign_of_cast (ht : ∀ id < m.types.size, m.types.Sound id) {member : MemberRef}
    (hm : m.types.HasMember member) {target : AssignTarget} (htarget : member.AssignedBy target)
    {slot : Nat} (hslot : member.backingSlot? = some slot) {r : Record}
    (hsub : m.types.isSubtype r.type member.owner = true) {v w : Value}
    (hcast : m.types.cast member.type v = .ok w) :
    (m.assign ⟨s.heap.size, r.type⟩ target v).perform (s.push r) =
      (.ok (), s.push (r.write (slot, w))) := by
  have hown := TypeTable.slotType_of_backingSlot? hm (ht _ hm.owner_lt) hslot
  have htype := TypeTable.slotType_of_prefix ht hsub hown
  have hfield : ∀ f, member = .field f → (m.storeField f (some ⟨s.heap.size, r.type⟩) v).perform
      (s.push r) = (.ok (), s.push (r.write (slot, w))) := by
    rintro f rfl
    have hcast : m.types.cast f.field.type v = .ok w := hcast
    rw [storeField_of_slot hslot, hcast]
    -- the slot has the type of the field, so the second conversion does nothing
    exact perform_storeSlot htype (TypeTable.cast_of_conforms (TypeTable.conforms_of_cast hcast)) r.type
  cases target with
  | field f => exact hfield f htarget
  | primitive f => exact hfield f htarget
  | setter g =>
    obtain ⟨p, rfl, hg⟩ := htarget
    rw [assign_setter hm (ht _ hm.owner_lt) hg hslot]
    exact perform_storeSlot htype hcast r.type

/-- Assigning a member of a fresh object writes its slot. -/
theorem perform_assign (ht : ∀ id < m.types.size, m.types.Sound id) {member : MemberRef}
    (hm : m.types.HasMember member) {target : AssignTarget} (htarget : member.AssignedBy target)
    {slot : Nat} (hslot : member.backingSlot? = some slot) {r : Record}
    (hsub : m.types.isSubtype r.type member.owner = true) {v : Value}
    (hv : m.types.conforms member.type v = true) :
    (m.assign ⟨s.heap.size, r.type⟩ target v).perform (s.push r) =
      (.ok (), s.push (r.write (slot, v))) :=
  perform_assign_of_cast ht hm htarget hslot hsub (TypeTable.cast_of_conforms hv)

end Machine
end Reshape
