import Reshape.Proofs.Store.Slots

/-!
# Cells

Whatever is written is written to one cell of the store: a slot of an object, or a static slot.  A data member
with a slot keeps its value in one cell for each object, or in one cell if it is static (`MemberRef.cell?`);
writing the cell leaves every other cell as it was (`Store.WritesOnly`), and reading it yields what was written.
-/

namespace Reshape

/-- A place in the store that holds a value. -/
inductive Cell where
  /-- A slot of the object at an address. -/
  | slot (address slot : Nat)
  /-- A static slot. -/
  | static (key : StaticSlot)
deriving DecidableEq

namespace Store

/-- What a cell holds.  A static slot that was never written holds nothing. -/
def content? (s : Store) : Cell → Option Value
  | .slot address slot => (s.record? address).bind (·.slots[slot]?)
  | .static key => s.static? key

/-- One cell holds the value now; every other cell holds what it held, and the objects are the same. -/
structure WritesOnly (s s' : Store) (cell : Cell) (v : Value) : Prop where
  /-- The cell holds the value. -/
  content : s'.content? cell = some v
  /-- The other cells hold what they held. -/
  others : ∀ other, other ≠ cell → s'.content? other = s.content? other
  /-- Objects are at the same addresses and of the same types. -/
  types : ∀ address, (s'.record? address).map (·.type) = (s.record? address).map (·.type)

variable {s : Store}

/-- Writing a slot leaves the other cells as they were. -/
theorem content?_setSlot_of_ne (s : Store) {address slot : Nat} (v : Value) {cell : Cell}
    (h : cell ≠ .slot address slot) : (s.setSlot address slot v).content? cell = s.content? cell := by
  cases cell with
  | slot place i =>
    simp only [content?, record?_setSlot, Option.bind_map]
    congr 1
    funext r
    simp only [Function.comp_apply]
    by_cases haddress : address = place
    · have hother : slot ≠ i := fun heq => h (by rw [haddress, heq])
      simp only [haddress, if_true, List.getElem?_set_ne hother]
    · simp only [haddress, if_false]
  | static key => rfl

/-- Writing a static slot leaves the other cells as they were. -/
theorem content?_setStatic_of_ne (s : Store) {key : StaticSlot} (v : Value) {cell : Cell}
    (h : cell ≠ .static key) : (s.setStatic key v).content? cell = s.content? cell := by
  cases cell with
  | slot place i => rfl
  | static other =>
    have hother : key ≠ other := fun heq => h (congrArg Cell.static heq.symm)
    rw [content?, static?_setStatic, if_neg hother]
    rfl

theorem writesOnly_setSlot {address slot : Nat} {v : Value} (h : (s.content? (.slot address slot)).isSome = true) :
    s.WritesOnly (s.setSlot address slot v) (.slot address slot) v := by
  obtain ⟨u, hu⟩ := Option.isSome_iff_exists.1 h
  obtain ⟨r, hr, hslot⟩ := Option.bind_eq_some_iff.1 hu
  constructor
  · rw [content?, record?_setSlot, hr]
    simp [(List.getElem?_eq_some_iff.1 hslot).1]
  · exact fun other hne => content?_setSlot_of_ne s v hne
  · intro place
    rw [record?_setSlot, Option.map_map]
    congr 1
    funext r'
    simp only [Function.comp_apply]
    split <;> rfl

theorem writesOnly_setStatic (s : Store) (key : StaticSlot) (v : Value) :
    s.WritesOnly (s.setStatic key v) (.static key) v := by
  constructor
  · rw [content?, static?_setStatic, if_pos rfl]
  · exact fun other hne => content?_setStatic_of_ne s v hne
  · exact fun _ => rfl

/-! ### Changes of some cells -/

/-- The cell is there: the slots of objects that were made are, and all static slots. -/
def Has (s : Store) : Cell → Prop
  | .slot address _ => (s.record? address).isSome = true
  | .static _ => True

/-- Of the cells that were there, only the given ones may hold something else now. -/
structure ChangesWithin (s : Store) (cells : Cell → Prop) (s' : Store) : Prop where
  /-- The objects still are there. -/
  grows : s.Grows s'
  /-- The other cells hold what they held. -/
  content : ∀ cell, s.Has cell → ¬cells cell → s'.content? cell = s.content? cell

variable {s' s'' : Store} {cells cells' : Cell → Prop}

theorem Has.mono (hg : s.Grows s') {cell : Cell} (h : s.Has cell) : s'.Has cell := by
  cases cell with
  | slot address slot =>
    obtain ⟨r, hr⟩ := Option.isSome_iff_exists.1 h
    obtain ⟨r', hr', -⟩ := hg address r hr
    exact Option.isSome_iff_exists.2 ⟨r', hr'⟩
  | static key => trivial

namespace ChangesWithin

theorem refl (s : Store) : s.ChangesWithin cells s := ⟨.refl s, fun _ _ _ => rfl⟩

theorem trans (h : s.ChangesWithin cells s') (h' : s'.ChangesWithin cells s'') : s.ChangesWithin cells s'' :=
  ⟨h.grows.trans h'.grows, fun cell hhas hcell =>
    (h'.content cell (hhas.mono h.grows) hcell).trans (h.content cell hhas hcell)⟩

theorem mono (h : s.ChangesWithin cells s') (hcells : ∀ cell, cells cell → cells' cell) :
    s.ChangesWithin cells' s' :=
  ⟨h.grows, fun cell hhas hcell => h.content cell hhas fun hc => hcell (hcells cell hc)⟩

/-- An object none of whose slots may change is as it was. -/
theorem record? (h : s.ChangesWithin cells s') {address : Nat} {r : Record} (hr : s.record? address = some r)
    (hcells : ∀ slot, ¬cells (.slot address slot)) : s'.record? address = some r := by
  obtain ⟨r', hr', htype⟩ := h.grows address r hr
  have hslots : r'.slots = r.slots := by
    refine List.ext_getElem? fun slot => ?_
    have hcontent := h.content (.slot address slot) (Option.isSome_iff_exists.2 ⟨r, hr⟩) (hcells slot)
    simpa only [content?, hr, hr', Option.bind_some] using hcontent
  cases r
  cases r'
  cases htype
  cases hslots
  exact hr'

end ChangesWithin

theorem changesWithin_setSlot (s : Store) {address slot : Nat} (v : Value) (h : cells (.slot address slot)) :
    s.ChangesWithin cells (s.setSlot address slot v) := by
  refine ⟨grows_setSlot s address slot v, fun cell _ hcell => content?_setSlot_of_ne s v ?_⟩
  rintro rfl
  exact hcell h

theorem changesWithin_setStatic (s : Store) {key : StaticSlot} (v : Value) (h : cells (.static key)) :
    s.ChangesWithin cells (s.setStatic key v) := by
  refine ⟨grows_setStatic s key v, fun cell _ hcell => content?_setStatic_of_ne s v ?_⟩
  rintro rfl
  exact hcell h

end Store

namespace MemberRef

/-- The cell in which a data member keeps its value on an object, or, if it is static, in its type. -/
def cell? (m : MemberRef) (ref? : Option ObjectRef) : Option Cell :=
  m.slot?.bind fun slot =>
    if m.isStatic then some (.static ⟨m.owner, slot⟩) else ref?.map fun ref => .slot ref.address slot

end MemberRef

namespace TypeTable

variable {t : TypeTable} {member : MemberRef} {slot : Nat}

/-- A static member has its type at its slot. -/
theorem HasMember.staticType (h : t.HasMember member) (ht : t.Sound member.owner)
    (hstatic : member.isStatic = true) (hslot : member.slot? = some slot) :
    (t.model member.owner).staticTypes[slot]? = some member.type := by
  cases member with
  | field f =>
    cases hslot
    exact HasField.staticType h ht hstatic
  | property p =>
    have hp : t.HasProperty p := h
    exact staticType_of_property ht hp.mem hstatic hslot

/-- An instance member has its type at its slot, in its own type and in all that derive from it. -/
theorem HasMember.slotType (h : t.HasMember member) (ht : ∀ id < t.size, t.Sound id)
    (hstatic : member.isStatic = false) (hslot : member.slot? = some slot) {id : TypeId}
    (hid : t.isSubtype id member.owner = true) : (t.model id).slotTypes[slot]? = some member.type := by
  have hbacking : member.backingSlot? = some slot := by
    rw [member.backingSlot?_eq, if_neg (Bool.eq_false_iff.1 hstatic), hslot]
  exact slotType_of_prefix ht hid (slotType_of_backingSlot? h (ht _ h.owner_lt) hbacking)

end TypeTable

/-! ## Reading and writing cells -/

/-- An instance member is used on an object of its type, a static one on none. -/
structure MemberRef.UsedOn (member : MemberRef) (t : TypeTable) (ref? : Option ObjectRef) : Prop where
  /-- There is an object, unless the member is static. -/
  isStatic : member.isStatic = ref?.isNone
  /-- The object has the member. -/
  isSubtype : ∀ ref, ref? = some ref → t.isSubtype ref.type member.owner = true

namespace Machine

open Action

variable {m : Machine} {s : Store} {member : MemberRef} {slot : Nat} {ref? : Option ObjectRef} {v : Value}

/-- A slot that an object has gets what the value is cast to, or writing it fails and leaves everything as it was. -/
theorem perform_storeSlot_of_slotType (hs : s.SlotsTyped m.types) {ref : ObjectRef} (href : s.Live (.object ref))
    {type : ValueType} (htype : (m.types.model ref.type).slotTypes[slot]? = some type) (v : Value) :
    (∀ w, m.types.cast type v = .ok w → ∃ s', (m.storeSlot ref slot v).perform s = (.ok (), s') ∧
      s.WritesOnly s' (.slot ref.address slot) w) ∧
    ∀ cause, m.types.cast type v = .error cause →
      (m.storeSlot ref slot v).perform s = (.error (.cast cause), s) := by
  obtain ⟨r, hr, hrtype⟩ := Store.live_object.1 href
  rw [← hrtype] at htype
  rw [storeSlot, perform_bind_ok (perform_get s), hr]
  simp only [htype]
  constructor
  · intro w hw
    obtain ⟨u, hu, -⟩ := exists_getElem?_of_forall₂ (hs.slots _ r hr) htype
    have hthere : (s.content? (.slot ref.address slot)).isSome = true := by
      rw [Store.content?, hr, Option.bind_some, hu]
      rfl
    rw [hw]
    exact ⟨_, rfl, Store.writesOnly_setSlot hthere⟩
  · intro cause hcause
    rw [hcause]
    rfl

/-- Yielding null after the write changes nothing about it. -/
theorem perform_storeSlot_null (hs : s.SlotsTyped m.types) {ref : ObjectRef} (href : s.Live (.object ref))
    {type : ValueType} (htype : (m.types.model ref.type).slotTypes[slot]? = some type) (v : Value) :
    (∀ w, m.types.cast type v = .ok w → ∃ s',
      (m.storeSlot ref slot v >>= fun _ => pure Value.null).perform s = (.ok .null, s') ∧
        s.WritesOnly s' (.slot ref.address slot) w) ∧
    ∀ cause, m.types.cast type v = .error cause →
      (m.storeSlot ref slot v >>= fun _ => pure Value.null).perform s = (.error (.cast cause), s) := by
  obtain ⟨hok, herror⟩ := perform_storeSlot_of_slotType hs href htype v
  refine ⟨fun w hw => ?_, fun cause hcause => perform_bind_error (herror cause hcause)⟩
  obtain ⟨s', hrun, hwrites⟩ := hok w hw
  exact ⟨s', perform_bind_ok hrun, hwrites⟩

/-- Writing a value of the member's type writes its cell only. -/
theorem exists_storeIn (hm : m.types.Declared) (hs : s.WellTyped m.types) (hmember : m.types.HasMember member)
    (hslot : member.slot? = some slot) (hused : member.UsedOn m.types ref?)
    (hlive : ∀ ref, ref? = some ref → s.Live (.object ref)) (hv : m.types.conforms member.type v = true) :
    ∃ cell s', member.cell? ref? = some cell ∧ (m.storeIn member.owner slot v ref?).perform s = (.ok (), s') ∧
      s.WritesOnly s' cell v := by
  cases ref? with
  | some ref =>
    have hstatic : member.isStatic = false := hused.isStatic
    have hsub := hused.isSubtype ref rfl
    have htype := hmember.slotType hm.sound hstatic hslot hsub
    obtain ⟨s', hrun, hwrites⟩ := (perform_storeSlot_of_slotType hs.slotsTyped (hlive ref rfl) htype v).1 v
      (TypeTable.cast_of_conforms hv)
    refine ⟨_, s', ?_, hrun, hwrites⟩
    simp only [MemberRef.cell?, hslot, hstatic, Option.bind_some, Bool.false_eq_true, if_false, Option.map_some]
  | none =>
    have hstatic : member.isStatic = true := hused.isStatic
    have htype := hmember.staticType (hm.sound _ hmember.owner_lt) hstatic hslot
    refine ⟨_, _, ?_, ?_, Store.writesOnly_setStatic s ⟨member.owner, slot⟩ v⟩
    · simp only [MemberRef.cell?, hslot, hstatic, Option.bind_some, if_true]
    · rw [storeIn, storeStatic, htype]
      rfl

/-- Reading yields what the member's cell holds. -/
theorem perform_loadFrom (hm : m.types.Declared) (hmember : m.types.HasMember member)
    (hslot : member.slot? = some slot) (hused : member.UsedOn m.types ref?) {cell : Cell}
    (hcell : member.cell? ref? = some cell) (hv : s.content? cell = some v) :
    (m.loadFrom member.owner slot ref?).perform s = (.ok v, s) := by
  cases ref? with
  | some ref =>
    have hstatic : member.isStatic = false := hused.isStatic
    simp only [MemberRef.cell?, hslot, hstatic, Option.bind_some, Bool.false_eq_true, if_false,
      Option.map_some, Option.some.injEq] at hcell
    subst hcell
    obtain ⟨r, hr, hslot⟩ := Option.bind_eq_some_iff.1 hv
    refine perform_loadSlot ?_
    rw [Store.slots, hr]
    exact hslot
  | none =>
    have hstatic : member.isStatic = true := hused.isStatic
    have htype := hmember.staticType (hm.sound _ hmember.owner_lt) hstatic hslot
    simp only [MemberRef.cell?, hslot, hstatic, Option.bind_some, if_true, Option.some.injEq] at hcell
    subst hcell
    have hstored : s.static? ⟨member.owner, slot⟩ = some v := hv
    rw [loadFrom, loadStatic, htype, perform_bind_ok (perform_get s), hstored]
    rfl

end Machine
end Reshape
