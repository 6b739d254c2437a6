import Reshape.Proofs.Store.Equality
import Reshape.Proofs.Store.Slots

/-!
# What was written

A write that succeeded has replaced the record of its object by one with the converted value, and has left
all other objects as they were (`Store.Rewrites`).  This is read off for single slots, for the steps of a
constructor, and for members with slots, whatever else is in the store.
-/

namespace Reshape

/-! ## Records that are replaced -/

namespace Store

variable {s s₁ s₂ : Store} {address : Nat}

theorem Includes.trans {s₁ s₂ s₃ : Store} (h : s₁.Includes s₂) (h' : s₂.Includes s₃) :
    s₁.Includes s₃ :=
  fun address r hr => h' address r (h address r hr)

/-- The next address is free before objects are made. -/
theorem Includes.fresh (h : s.Includes s₁) : s.record? s₁.heap.size = none := by
  cases hr : s.record? s₁.heap.size with
  | none => rfl
  | some r => exact absurd (lt_size_of_record? (h _ r hr)) (Nat.lt_irrefl _)

/-- The object at the address is the record now, and all other objects are there as they were. -/
structure Rewrites (s s' : Store) (address : Nat) (r : Record) : Prop where
  /-- What is there now. -/
  record : s'.record? address = some r
  /-- Other objects. -/
  others : ∀ place r', place ≠ address → s.record? place = some r' → s'.record? place = some r'

theorem Rewrites.trans {r₁ r₂ : Record} (h : s.Rewrites s₁ address r₁) (h' : s₁.Rewrites s₂ address r₂) :
    s.Rewrites s₂ address r₂ :=
  ⟨h'.record, fun place r hne hr => h'.others place r hne (h.others place r hne hr)⟩

/-- Leaving all objects alone leaves the one at the address alone. -/
theorem Includes.rewrites (h : s.Includes s₁) {r : Record} (hr : s.record? address = some r) :
    s.Rewrites s₁ address r :=
  ⟨h address r hr, fun place r' _ hr' => h place r' hr'⟩

theorem rewrites_setSlot {r : Record} (hr : s.record? address = some r) (slot : Nat) (v : Value) :
    s.Rewrites (s.setSlot address slot v) address (r.write (slot, v)) := by
  constructor
  · rw [record?_setSlot, hr, Option.map_some, if_pos rfl]
    rfl
  · intro place r' hne hr'
    rw [record?_setSlot, hr', Option.map_some, if_neg (Ne.symm hne)]

/-- Objects that were there before the address was taken stay as they are. -/
theorem Rewrites.includes {s₀ : Store} (h : s.Rewrites s₁ address r) (h₀ : s₀.Includes s)
    (hfresh : s₀.record? address = none) : s₀.Includes s₁ := by
  intro place r' hr'
  refine h.others place r' ?_ (h₀ place r' hr')
  rintro rfl
  rw [hfresh] at hr'
  cases hr'

end Store

namespace Machine

open Store

variable {m : Machine} {s s' : Store} {r : Record} {ref : ObjectRef} {v : Value} {u : Unit}

/-! ## Slots -/

theorem exists_of_storeSlot {slot : Nat} (hr : s.record? ref.address = some r)
    (h : (m.storeSlot ref slot v).perform s = (.ok u, s')) : ∃ type w,
      (m.types.model r.type).slotTypes[slot]? = some type ∧ m.types.cast type v = .ok w ∧
        s.Rewrites s' ref.address (r.write (slot, w)) := by
  rw [storeSlot, Action.perform_bind_ok (Action.perform_get s), hr] at h
  simp only at h
  split at h
  · cases h
  · rename_i type htype
    obtain ⟨w, s₁, hw, h⟩ := run_bind_eq_ok.1 h
    cases hcast : m.types.cast type v with
    | error e =>
      rw [hcast] at hw
      cases hw
    | ok w' =>
      rw [hcast] at hw
      cases hw
      cases h
      exact ⟨type, w, htype, hcast, rewrites_setSlot hr slot w⟩

/-- The steps of a constructor wrote the converted arguments. -/
theorem exists_of_assignSlots {args : List Value} {steps : List SlotInit}
    (hr : s.record? ref.address = some r)
    (h : (m.assignSlots ref args steps).perform s = (.ok u, s')) : ∃ ws,
      List.Forall₂ (m.StepWrites r.type args) steps ws ∧
        s.Rewrites s' ref.address (r.writes ws) := by
  induction steps generalizing s r with
  | nil =>
    cases h
    exact ⟨[], .nil, (Includes.refl _).rewrites hr⟩
  | cons step rest ih =>
    obtain ⟨_, s₁, hstep, hrest⟩ := run_bind_eq_ok.1 h
    obtain ⟨type, w, htype, hcast, hwrite⟩ := exists_of_storeSlot hr hstep
    obtain ⟨ws, hws, hwrites⟩ := ih hwrite.record hrest
    exact ⟨(step.slot, w) :: ws, .cons ⟨rfl, type, htype, hcast⟩ hws, hwrite.trans hwrites⟩

/-! ## Members -/

/-- A member with a slot was assigned the converted value. -/
theorem exists_of_assign (ht : ∀ id < m.types.size, m.types.Sound id) {member : MemberRef}
    (hm : m.types.HasMember member) {target : AssignTarget} (htarget : member.AssignedBy target)
    {slot : Nat} (hslot : member.backingSlot? = some slot) (hr : s.record? ref.address = some r)
    (hsub : m.types.isSubtype r.type member.owner = true)
    (h : (m.assign ref target v).perform s = (.ok u, s')) : ∃ w,
      m.types.cast member.type v = .ok w ∧ s.Rewrites s' ref.address (r.write (slot, w)) := by
  have htype := TypeTable.slotType_of_prefix ht hsub
    (TypeTable.slotType_of_backingSlot? hm (ht _ hm.owner_lt) hslot)
  have hstore : ∀ {v s'}, (m.storeSlot ref slot v).perform s = (.ok u, s') → ∃ w,
      m.types.cast member.type v = .ok w ∧ s.Rewrites s' ref.address (r.write (slot, w)) := by
    intro v s' h
    obtain ⟨type, w, htype', hcast, hwrite⟩ := exists_of_storeSlot hr h
    obtain rfl := Option.some.inj (htype.symm.trans htype')
    exact ⟨w, hcast, hwrite⟩
  have hfield : ∀ f, member = .field f → (m.storeField f (some ref) v).perform s = (.ok u, s') →
      ∃ w, m.types.cast member.type v = .ok w ∧
        s.Rewrites s' ref.address (r.write (slot, w)) := by
    rintro f rfl h
    rw [storeField_of_slot hslot] at h
    cases hcast : m.types.cast f.field.type v with
    | error e =>
      rw [hcast] at h
      cases h
    | ok w =>
      -- the slot has the type of the field, so the second conversion does nothing
      rw [hcast] at h
      obtain ⟨w', hcast', hwrite⟩ := hstore h
      have hsame : m.types.cast f.field.type w = .ok w :=
        TypeTable.cast_of_conforms (TypeTable.conforms_of_cast hcast)
      obtain rfl := Except.ok.inj (hsame.symm.trans hcast')
      exact ⟨w, hcast, hwrite⟩
  cases target with
  | field f => exact hfield f htarget h
  | primitive f => exact hfield f htarget h
  | setter g =>
    obtain ⟨p, rfl, hg⟩ := htarget
    rw [assign_setter hm (ht _ hm.owner_lt) hg hslot] at h
    exact hstore h

end Machine
end Reshape
