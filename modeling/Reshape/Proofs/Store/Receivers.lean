import Reshape.Proofs.Store.Setters

/-!
# Receivers

Each slot of an object is the slot of one member of the object's type (`TypeTable.exists_occupies`,
`MemberRef.Occupies.unique`).  Reading a data member, and its generated accessors, use the slot of the member's number
on any object that they get, so they act on whatever member has that slot there (`Machine.acts_on_occupant`).  This is
the member that was meant exactly if the object's type is the member's own or derives from it; where no member has the
slot, the access fails and leaves everything as it was.
-/

namespace Reshape

/-! ## The member at a slot -/

/-- Objects of the type keep the member in the slot: it is declared by the type, or by one that the type derives
from. -/
structure MemberRef.Occupies (member : MemberRef) (t : TypeTable) (id : TypeId) (slot : Nat) : Prop where
  /-- The member is declared. -/
  hasMember : t.HasMember member
  /-- The type has the member. -/
  isSubtype : t.isSubtype id member.owner = true
  /-- The slot is the member's. -/
  backingSlot : member.backingSlot? = some slot

variable {t : TypeTable} {id : TypeId} {member holder : MemberRef} {slot : Nat}

namespace MemberRef.Occupies

/-- The slot has the type of its member. -/
theorem slotType (h : holder.Occupies t id slot) (ht : ∀ id < t.size, t.Sound id) :
    (t.model id).slotTypes[slot]? = some holder.type := by
  obtain ⟨hslot, hinstance⟩ := MemberRef.slot?_of_backingSlot? h.backingSlot
  exact h.hasMember.slotType ht hinstance hslot h.isSubtype

/-- Derived types keep the members of their bases where these have them. -/
theorem of_isSubtype {base : TypeId} (h : holder.Occupies t base slot) (hsub : t.isSubtype id base = true) :
    holder.Occupies t id slot :=
  ⟨h.hasMember, TypeTable.isSubtype_trans hsub h.isSubtype, h.backingSlot⟩

/-- No slot has two members. -/
theorem unique (h : holder.Occupies t id slot) (h' : member.Occupies t id slot) (ht : ∀ id < t.size, t.Sound id) :
    holder.owner = member.owner ∧ holder.name = member.name :=
  ⟨TypeTable.owner_eq_of_slot_eq ht h.hasMember h'.hasMember h.isSubtype h'.isSubtype h.backingSlot h'.backingSlot,
    TypeTable.name_eq_of_slot_eq ht h.hasMember h'.hasMember h.isSubtype h'.isSubtype h.backingSlot h'.backingSlot⟩

end MemberRef.Occupies

/-- Every slot has a member: an inherited slot has that of the base, and the others have those of the type itself. -/
theorem TypeTable.exists_occupies (ht : ∀ id < t.size, t.Sound id) (hid : id < t.size)
    (hlt : slot < (t.model id).slotTypes.length) : ∃ holder : MemberRef, holder.Occupies t id slot := by
  induction id using Nat.strong_induction_on with
  | _ id ih =>
    have hsound := ht id hid
    by_cases hinherited : slot < (t.inherited (t.model id).base?).length
    · cases hbase : (t.model id).base? with
      | none =>
        rw [hbase] at hinherited
        cases hinherited
      | some base =>
        rw [hbase] at hinherited
        have hbelow : base < id := hsound.base_lt base hbase
        obtain ⟨holder, hholder⟩ := ih base hbelow (Nat.lt_trans hbelow hid) hinherited
        exact ⟨holder, hholder.of_isSubtype (hsound.isSubtype_base hid hbase)⟩
    · rw [hsound.laidOut.slotTypes, List.length_append, List.length_map] at hlt
      obtain ⟨share, hshare, rfl⟩ := hsound.laidOut.consecutive.exists_of_slot (Nat.le_of_not_lt hinherited) hlt
      obtain ⟨holder, hown, -, -, hslot⟩ := exists_of_mem_shares hshare
      obtain ⟨hmember, rfl⟩ := HasMember.of_mem_ownMembers hown
      exact ⟨holder, hmember, isSubtype_refl hid, hslot⟩

/-! ## Direct accesses -/

namespace Machine

open Action

variable {m : Machine} {s : Store} {ref : ObjectRef}

/-- A use of a data member on an object that no expression checked: the member is read, its getter is called, or its
setter is called on a value. -/
inductive Accesses (m : Machine) (ref : ObjectRef) : MemberRef → Option Value → Action Value → Prop
  /-- The member is read. -/
  | load {member : MemberRef} (h : member.isReadable = true) : Accesses m ref member none (m.load member (some ref))
  /-- The getter is called. -/
  | getter {p : PropertyRef} {g : MethodRef} (h : p.getter? = some g) :
      Accesses m ref (.property p) none (m.invoke g (some ref) [])
  /-- The setter is called. -/
  | setter {p : PropertyRef} {g : MethodRef} (h : p.setter? = some g) (v : Value) :
      Accesses m ref (.property p) (some v) (m.invoke g (some ref) [v])

/-- The slot of an object is read, or a value is written to it. -/
def slotAccess (m : Machine) (ref : ObjectRef) (slot : Nat) : Option Value → Action Value
  | none => loadSlot ref slot
  | some v => m.storeSlot ref slot v >>= fun _ => pure .null

/-- An access does not depend on anything but the number of the slot. -/
theorem Accesses.eq_slotAccess {v? : Option Value} {a : Action Value} (h : m.Accesses ref member v? a)
    (hm : m.types.Declared) (hmember : m.types.HasMember member) (hslot : member.backingSlot? = some slot) :
    a = m.slotAccess ref slot v? := by
  obtain ⟨hbacking, hinstance⟩ := MemberRef.slot?_of_backingSlot? hslot
  cases h with
  | @load member hreadable =>
    cases member with
    | field f =>
      cases hbacking
      exact loadField_eq hinstance
    | property p =>
      obtain ⟨g, hg⟩ := Option.isSome_iff_exists.1 hreadable
      have hp : m.types.HasProperty p := hmember
      simp only [Machine.load, hg]
      exact invoke_getter_eq hp (hm.sound _ hp.owner_lt) hg hbacking hinstance
  | @getter p g hg =>
    have hp : m.types.HasProperty p := hmember
    exact invoke_getter_eq hp (hm.sound _ hp.owner_lt) hg hbacking hinstance
  | @setter p g hg v =>
    have hp : m.types.HasProperty p := hmember
    have hstatic : p.property.isStatic = (some ref).isNone := hinstance
    exact invoke_setter_eq hp (hm.sound _ hp.owner_lt) hg hbacking hstatic v

/-- What the member at the slot holds is read. -/
theorem perform_slotAccess_read (hm : m.types.Declared) (hs : s.SlotsTyped m.types) (href : s.Live (.object ref))
    (h : holder.Occupies m.types ref.type slot) :
    ∃ v, s.held? ref holder = some v ∧ (m.slotAccess ref slot none).perform s = (.ok v, s) := by
  obtain ⟨r, hr, hrtype⟩ := Store.live_object.1 href
  obtain ⟨v, hv, -⟩ := exists_getElem?_of_forall₂ (hs.slots _ r hr) (hrtype ▸ h.slotType hm.sound)
  have hheld : (s.slots ref)[slot]? = some v := by
    rw [Store.slots, hr]
    exact hv
  refine ⟨v, ?_, perform_loadSlot hheld⟩
  rw [Store.held?, h.backingSlot]
  exact hheld

/-- What is written is cast to the type of the member at the slot. -/
theorem perform_slotAccess_write (hm : m.types.Declared) (hs : s.SlotsTyped m.types) (href : s.Live (.object ref))
    (h : holder.Occupies m.types ref.type slot) (v : Value) :
    (∀ w, m.types.cast holder.type v = .ok w → ∃ s', (m.slotAccess ref slot (some v)).perform s = (.ok .null, s') ∧
      s.WritesOnly s' (.slot ref.address slot) w) ∧
    ∀ cause, m.types.cast holder.type v = .error cause →
      (m.slotAccess ref slot (some v)).perform s = (.error (.cast cause), s) :=
  perform_storeSlot_null hs href (h.slotType hm.sound) v

/-- Where no member has the slot, nothing is read or written. -/
theorem perform_slotAccess_of_free (hm : m.types.Declared) (hs : s.SlotsTyped m.types) (href : s.Live (.object ref))
    (hfree : ∀ holder : MemberRef, ¬holder.Occupies m.types ref.type slot) (v? : Option Value) :
    (m.slotAccess ref slot v?).perform s = (.error (.slotOutOfRange slot ref.type), s) := by
  obtain ⟨r, hr, hrtype⟩ := Store.live_object.1 href
  have hle : (m.types.model r.type).slotTypes.length ≤ slot := by
    by_contra hlt
    obtain ⟨holder, hholder⟩ := TypeTable.exists_occupies hm.sound (hs.declared _ r hr) (Nat.lt_of_not_le hlt)
    exact hfree holder (hrtype ▸ hholder)
  cases v? with
  | none =>
    have hempty : (s.slots ref)[slot]? = none := by
      rw [Store.slots, hr, List.getElem?_eq_none_iff]
      exact (hs.length_slots hr).trans_le hle
    rw [slotAccess, loadSlot, perform_bind_ok (perform_get s), hempty]
    rfl
  | some v =>
    rw [slotAccess, storeSlot, bind_assoc, perform_bind_ok (perform_get s), hr]
    simp only [List.getElem?_eq_none_iff.2 hle]
    rfl

/-- If there is an access to a member at all, one succeeds wherever the object has the slot: what is there can be
read, and the zero value can be written. -/
theorem Accesses.exists_ok {v? : Option Value} {a : Action Value} (h : m.Accesses ref member v? a)
    (hm : m.types.Declared) (hs : s.SlotsTyped m.types) (hmember : m.types.HasMember member)
    (hslot : member.backingSlot? = some slot) (href : s.Live (.object ref))
    (hholder : holder.Occupies m.types ref.type slot) :
    ∃ v? a v s', m.Accesses ref member v? a ∧ a.perform s = (.ok v, s') := by
  have hread : ∀ a, m.Accesses ref member none a → ∃ v s', a.perform s = (.ok v, s') := by
    intro a ha
    obtain ⟨v, -, hrun⟩ := perform_slotAccess_read hm hs href hholder
    rw [ha.eq_slotAccess hm hmember hslot]
    exact ⟨v, s, hrun⟩
  cases h with
  | load hreadable =>
    obtain ⟨v, s', hrun⟩ := hread _ (.load hreadable)
    exact ⟨_, _, v, s', .load hreadable, hrun⟩
  | getter hg =>
    obtain ⟨v, s', hrun⟩ := hread _ (.getter hg)
    exact ⟨_, _, v, s', .getter hg, hrun⟩
  | setter hg _ =>
    have hzero := TypeTable.cast_of_conforms (TypeTable.conforms_zero (t := m.types) holder.type)
    obtain ⟨s', hrun, -⟩ := (perform_slotAccess_write hm hs href hholder _).1 _ hzero
    have ha : m.Accesses ref _ _ _ := .setter hg holder.type.zero
    exact ⟨_, _, _, s', ha, ha.eq_slotAccess hm hmember hslot ▸ hrun⟩

/-- **Direct accesses go by the number of the slot.**  They read the member that has the slot on the object, or write
it after a cast to its type.  This is the member that was meant exactly if the object's type is the member's own or
derives from it.  Where no member has the slot, they fail and leave everything as it was.  So on an object of an
unrelated type a member cannot be accessed exactly if no member of that type has the slot. -/
theorem acts_on_occupant {m : Machine} (hm : m.types.Declared) {s : Store} (hs : s.SlotsTyped m.types)
    {member : MemberRef} (hmember : m.types.HasMember member) {slot : Nat} (hslot : member.backingSlot? = some slot)
    {ref : ObjectRef} (href : s.Live (.object ref)) :
    (∀ holder : MemberRef, holder.Occupies m.types ref.type slot →
      (∃ v, s.held? ref holder = some v ∧ ∀ a, m.Accesses ref member none a → a.perform s = (.ok v, s)) ∧
      (∀ v a, m.Accesses ref member (some v) a →
        (∀ w, m.types.cast holder.type v = .ok w → ∃ s', a.perform s = (.ok .null, s') ∧
          s.WritesOnly s' (.slot ref.address slot) w) ∧
        ∀ cause, m.types.cast holder.type v = .error cause → a.perform s = (.error (.cast cause), s)) ∧
      (m.types.isSubtype ref.type member.owner = true ↔ holder.owner = member.owner ∧ holder.name = member.name)) ∧
    ((∀ holder : MemberRef, ¬holder.Occupies m.types ref.type slot) → ∀ v? a, m.Accesses ref member v? a →
      a.perform s = (.error (.slotOutOfRange slot ref.type), s)) ∧
    ((∃ v? a, m.Accesses ref member v? a) →
      ((m.types.isSubtype ref.type member.owner = true ∨
        ∀ v? a, m.Accesses ref member v? a → ∃ e, a.perform s = (.error e, s)) ↔
      (m.types.isSubtype ref.type member.owner = true ∨
        ∀ holder : MemberRef, ¬holder.Occupies m.types ref.type slot))) := by
  have hfails : (∀ holder : MemberRef, ¬holder.Occupies m.types ref.type slot) → ∀ v? a, m.Accesses ref member v? a →
      a.perform s = (.error (.slotOutOfRange slot ref.type), s) := by
    intro hfree v? a ha
    rw [ha.eq_slotAccess hm hmember hslot]
    exact perform_slotAccess_of_free hm hs href hfree v?
  refine ⟨fun holder hholder => ⟨?_, fun v a ha => ?_, ?_, ?_⟩, hfails, fun ⟨v?, a, ha⟩ => or_congr_right ⟨?_, ?_⟩⟩
  · obtain ⟨v, hheld, hrun⟩ := perform_slotAccess_read hm hs href hholder
    refine ⟨v, hheld, fun a ha => ?_⟩
    rw [ha.eq_slotAccess hm hmember hslot]
    exact hrun
  · rw [ha.eq_slotAccess hm hmember hslot]
    exact perform_slotAccess_write hm hs href hholder v
  · intro hsub
    exact hholder.unique ⟨hmember, hsub, hslot⟩ hm.sound
  · rintro ⟨howner, -⟩
    exact howner ▸ hholder.isSubtype
  · intro hrefused holder hholder
    obtain ⟨v?, a, v, s', ha, hok⟩ := ha.exists_ok hm hs hmember hslot href hholder
    obtain ⟨e, herror⟩ := hrefused v? a ha
    cases hok.symm.trans herror
  · intro hfree v? a ha
    exact ⟨_, hfails hfree v? a ha⟩

end Machine

/-! ## A bill that is used as a coat -/

namespace World

/-- A type with one property that is a number. -/
def numbered (name property : String) : TypeModel :=
  ⟨name, .declared, none, [], [], [], [⟨property, .int32, .open, .open, false, some 0, some 0, some 1⟩],
    [⟨"get_" ++ property, [], some .int32, false, .open, .loadSlot 0⟩,
      ⟨"set_" ++ property, [⟨"value", .int32, none⟩], none, false, .open, .storeSlot 0⟩],
    [⟨[], .open, .assign []⟩], [.int32], []⟩

/-- Coats have a size, and bills have an amount. -/
def shop : TypeTable := (TypeTable.empty.push (numbered "Coat" "Size")).push (numbered "Bill" "Amount")

/-- A machine with these types and without supplied bodies. -/
def shopMachine : Machine := ⟨shop, fun _ _ _ => pure .null, fun _ _ _ => pure ()⟩

/-- The size of a coat. -/
def coatSize : PropertyRef := shop.propertyRef 0 0 ⟨"Size", .int32, .open, .open, false, some 0, some 0, some 1⟩

/-- The setter of the size. -/
def setCoatSize : MethodRef := ⟨0, 1, ⟨"set_Size", [⟨"value", .int32, none⟩], none, false, .open, .storeSlot 0⟩⟩

/-- The amount of a bill. -/
def billAmount : PropertyRef := shop.propertyRef 1 0 ⟨"Amount", .int32, .open, .open, false, some 0, some 0, some 1⟩

/-- One bill, as it was made. -/
def billed : Store := Store.empty.push ⟨1, [.int32 0]⟩

theorem declared_shop : shop.Declared :=
  .declare (d := ⟨"Bill", .declared, none, [], [], [], [⟨"Amount", .int32, .open, .open, false, .slot⟩], [], []⟩)
    (.declare (d := ⟨"Coat", .declared, none, [], [], [], [⟨"Size", .int32, .open, .open, false, .slot⟩], [], []⟩)
      .empty (by simp) rfl) (by simp) rfl

theorem slotsTyped_billed : billed.SlotsTyped shop :=
  (Store.wellTyped_empty shop).slotsTyped.push (by decide : 1 < shop.size)

theorem live_billed : billed.Live (.object ⟨0, 1⟩) := Machine.live_push .empty ⟨1, [.int32 0]⟩

theorem billAmount_occupies : MemberRef.Occupies (.property billAmount) shop 1 0 := ⟨⟨rfl, rfl⟩, by decide, rfl⟩

/-- The size of the bill is its amount, and setting the one sets the other. -/
theorem acts_on_occupant_bill :
    (shopMachine.load (.property coatSize) (some ⟨0, 1⟩)).perform billed = (.ok (.int32 0), billed) ∧
    (∃ s', (shopMachine.invoke setCoatSize (some ⟨0, 1⟩) [.int32 7]).perform billed = (.ok .null, s') ∧
      billed.WritesOnly s' (.slot 0 0) (.int32 7)) ∧
    ¬(shop.isSubtype 1 0 = true ∨
      ∀ v? a, shopMachine.Accesses ⟨0, 1⟩ (.property coatSize) v? a → ∃ e, a.perform billed = (.error e, billed)) := by
  have hload : shopMachine.Accesses ⟨0, 1⟩ (.property coatSize) none _ := .load rfl
  have hset : shopMachine.Accesses ⟨0, 1⟩ (.property coatSize) (some (.int32 7)) _ := .setter (g := setCoatSize) rfl _
  have hmember : shop.HasMember (.property coatSize) := ⟨rfl, rfl⟩
  obtain ⟨hacts, -, hiff⟩ := Machine.acts_on_occupant (m := shopMachine) declared_shop slotsTyped_billed hmember rfl
    live_billed
  obtain ⟨⟨v, hheld, hread⟩, hwrite, -⟩ := hacts (.property billAmount) billAmount_occupies
  cases hheld
  refine ⟨hread _ hload, (hwrite _ _ hset).1 (.int32 7) rfl, fun hsafe => ?_⟩
  rcases (hiff ⟨_, _, hload⟩).1 hsafe with hsub | hfree
  · exact absurd hsub (by decide)
  · exact hfree _ billAmount_occupies

/-- **A member can be accessed on an object of an unrelated type**, and then neither the member is used nor does the
access fail. -/
theorem exists_unrelated_accessed : ¬∀ (m : Machine) (s : Store) (member : MemberRef) (slot : Nat) (ref : ObjectRef)
    (v? : Option Value) (a : Action Value), m.types.Declared → s.SlotsTyped m.types → m.types.HasMember member →
      member.backingSlot? = some slot → s.Live (.object ref) → m.Accesses ref member v? a →
        m.types.isSubtype ref.type member.owner = true ∨ ∃ e, a.perform s = (.error e, s) := by
  intro h
  rcases h shopMachine billed (.property coatSize) 0 ⟨0, 1⟩ none _ declared_shop slotsTyped_billed ⟨rfl, rfl⟩ rfl
    live_billed (.load rfl) with hsub | ⟨e, herror⟩
  · exact absurd hsub (by decide)
  · have hrun : (shopMachine.load (.property coatSize) (some ⟨0, 1⟩)).perform billed = (.ok (.int32 0), billed) := rfl
    cases hrun.symm.trans herror

end World
end Reshape
