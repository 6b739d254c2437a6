import Reshape.Proofs.Store.Cells

/-!
# Write-once fields

A write-once field keeps its value in a cell for each object, or in a cell of its type (`Store.Houses`), and no
other member of an object's type or of a base has that cell (`Store.Houses.exists_field`).  So writing a member
that is not write-once leaves the cells of write-once fields as they were, and a constructor writes the cells of
the object that it makes.  What an action writes besides does not matter: it keeps a discipline if the cells of
the write-once fields of all objects that were there keep their content (`Action.Spares`).
-/

namespace Reshape

/-- The member can be written more than once. -/
def MemberRef.IsMutable : MemberRef → Prop
  | .field f => f.field.initOnly = false
  | .property _ => True

/-- Reading the member runs no supplied body. -/
def MemberRef.ReadsGenerated : MemberRef → Prop
  | .field _ => True
  | .property p => ∀ g, p.getter? = some g → g.IsGenerated

/-! ## Cells of members -/

/-- Two own members of a type, one of them a field, do not share a slot. -/
theorem TypeTable.exists_field_of_slot? {t : TypeTable} {f : FieldRef} {member : MemberRef}
    (ht : t.Sound f.owner) (hf : t.HasField f) (hmember : t.HasMember member)
    (howner : f.owner = member.owner) (hstatic : f.field.isStatic = member.isStatic)
    (hslot : member.slot? = some f.field.slot) : ∃ g, member = .field g ∧ g.field = f.field := by
  have hown := hf.mem
  cases member with
  | field g =>
    have hg : g.field ∈ (t.model f.owner).fields := howner ▸ HasField.mem hmember
    refine ⟨g, rfl, (ht.laidOut.field_eq_of_slot_eq hown hg hstatic ?_).symm⟩
    exact (Option.some.inj hslot).symm
  | property p =>
    have hp : p.property ∈ (t.model f.owner).properties := howner ▸ HasProperty.mem hmember
    exact absurd hslot (ht.laidOut.slot_ne_of_property hown hp hstatic)

namespace Store

/-- The cell keeps the value of the member, on an object whose type has the member or in the type that
declares it. -/
inductive Houses (t : TypeTable) (s : Store) (member : MemberRef) : Cell → Prop
  /-- The slot of an object. -/
  | slot {address slot : Nat} {r : Record} (hr : s.record? address = some r)
      (hsub : t.isSubtype r.type member.owner = true) (hslot : member.backingSlot? = some slot) :
      Houses t s member (.slot address slot)
  /-- The static slot. -/
  | static {key : StaticSlot} (howner : member.owner = key.owner) (hstatic : member.isStatic = true)
      (hslot : member.slot? = some key.slot) : Houses t s member (.static key)

variable {t : TypeTable} {s s' s₀ : Store} {member : MemberRef} {cell : Cell}

/-- What is there stays there. -/
theorem Houses.mono (hg : s.Grows s') (h : s.Houses t member cell) : s'.Houses t member cell := by
  cases h with
  | slot hr hsub hslot =>
    obtain ⟨r', hr', htype⟩ := hg _ _ hr
    exact .slot hr' (htype ▸ hsub) hslot
  | static howner hstatic hslot => exact .static howner hstatic hslot

/-- The slot of a member on an instance. -/
theorem Houses.of_live {ref : ObjectRef} (hlive : s.Live (.object ref))
    (hsub : t.isSubtype ref.type member.owner = true) {slot : Nat} (hslot : member.backingSlot? = some slot) :
    s.Houses t member (.slot ref.address slot) := by
  obtain ⟨r, hr, htype⟩ := live_object.1 hlive
  exact .slot hr (htype ▸ hsub) hslot

/-- The cell of a field is the cell of no other member, of any type along the base chain. -/
theorem Houses.exists_field (ht : ∀ id < t.size, t.Sound id) {f : FieldRef} (hf : t.HasField f)
    (hmember : t.HasMember member) (h : s.Houses t (.field f) cell) (h' : s.Houses t member cell) :
    ∃ g, member = .field g ∧ g.field = f.field := by
  have hsound := ht _ hf.owner_lt
  cases h with
  | slot hr hsub hslot =>
    cases h' with
    | slot hr' hsub' hslot' =>
      cases hr.symm.trans hr'
      have howner := TypeTable.owner_eq_of_slot_eq (a := .field f) ht hf hmember hsub hsub' hslot hslot'
      obtain ⟨hslot, hstatic⟩ := MemberRef.slot?_of_backingSlot? hslot
      obtain ⟨hslot', hstatic'⟩ := MemberRef.slot?_of_backingSlot? hslot'
      exact TypeTable.exists_field_of_slot? hsound hf hmember howner (hstatic.trans hstatic'.symm)
        (hslot'.trans hslot.symm)
  | static howner hstatic hslot =>
    cases h' with
    | static howner' hstatic' hslot' =>
      exact TypeTable.exists_field_of_slot? hsound hf hmember (howner.trans howner'.symm)
        (hstatic.trans hstatic'.symm) (hslot'.trans hslot.symm)

/-- The cell keeps the value of a write-once field. -/
def Sealed (t : TypeTable) (s : Store) (cell : Cell) : Prop :=
  ∃ f, t.HasField f ∧ f.field.initOnly = true ∧ s.Houses t (.field f) cell

theorem Sealed.mono (hg : s.Grows s') (h : s.Sealed t cell) : s'.Sealed t cell := by
  obtain ⟨f, hf, honce, hcell⟩ := h
  exact ⟨f, hf, honce, hcell.mono hg⟩

/-- A cell of a member that can be written more than once is not sealed. -/
theorem Houses.not_sealed (ht : ∀ id < t.size, t.Sound id) (hmember : t.HasMember member)
    (hmutable : member.IsMutable) (h : s.Houses t member cell) : ¬s.Sealed t cell := by
  rintro ⟨f, hf, honce, hcell⟩
  obtain ⟨g, rfl, hg⟩ := hcell.exists_field ht hf hmember h
  have hopen : g.field.initOnly = false := hmutable
  rw [hg, honce] at hopen
  cases hopen

/-- The next address belongs to no object that was there. -/
theorem Sealed.ne_fresh (hg : s.Grows s') (h : s.Sealed t cell) (slot : Nat) :
    cell ≠ .slot s'.heap.size slot := by
  rintro rfl
  obtain ⟨f, -, -, hcell⟩ := h.mono hg
  cases hcell with
  | slot hr => exact absurd (lt_size_of_record? hr) (Nat.lt_irrefl _)

/-- Making an object leaves all cells that are there as they are. -/
theorem content?_push (r : Record) (h : ∀ slot, cell ≠ .slot s.heap.size slot) :
    (s.push r).content? cell = s.content? cell := by
  cases cell with
  | slot address slot =>
    have hne : address ≠ s.heap.size := fun heq => h slot (heq ▸ rfl)
    rw [content?, record?_push, if_neg hne]
    rfl
  | static key => rfl

/-- The store came about from an earlier one, and its fields are typed. -/
structure ContinuesTo (s₀ : Store) (t : TypeTable) (s : Store) : Prop extends FieldsTyped t s where
  /-- The objects of the earlier store still are there. -/
  grows : s₀.Grows s

/-- A mutable member has its cell for itself. -/
theorem ContinuesTo.not_sealed (hs : s₀.ContinuesTo t s) (ht : ∀ id < t.size, t.Sound id)
    (hmember : t.HasMember member) (hmutable : member.IsMutable) (h : s.Houses t member cell) :
    ¬s₀.Sealed t cell :=
  fun hsealed => h.not_sealed ht hmember hmutable (hsealed.mono hs.grows)

end Store

/-! ## Leaving write-once fields alone -/

/-- Fields stay typed, and write-once fields keep their values: those of all objects that were there at the
start, and those of types. -/
def Discipline.writeOnce (t : TypeTable) (s₀ : Store) : Discipline where
  Holds := s₀.ContinuesTo t
  Leads s s' := s.Grows s' ∧ ∀ cell, s₀.Sealed t cell → s'.content? cell = s.content? cell
  refl s := ⟨.refl s, fun _ _ => rfl⟩
  trans h h' := ⟨h.1.trans h'.1, fun cell hcell => (h'.2 cell hcell).trans (h.2 cell hcell)⟩
  grows h := h.1

/-- Every outcome of an action leaves write-once fields with the values that they had. -/
abbrev Action.Spares {α : Type} (t : TypeTable) (s₀ s : Store) (a : Action α) (post : α → Store → Prop) :
    Prop :=
  (Discipline.writeOnce t s₀).Keeps s a post

namespace Machine

open Action (Spares)

variable {m : Machine} {s₀ s : Store} {v : Value}

/-! ### Slots -/

theorem spares_loadSlot (hs : s₀.ContinuesTo m.types s) (ref : ObjectRef) (slot : Nat) :
    Spares m.types s₀ s (loadSlot ref slot) fun v s' => s'.Live v ∧
      ∀ type, s.Live (.object ref) → (m.types.model ref.type).slotTypes[slot]? = some type →
        m.types.conforms type v = true :=
  Discipline.keeps_loadSlot_typed hs hs.toSlotsTyped hs.toLinked ref slot

theorem spares_storeSlot (hs : s₀.ContinuesTo m.types s) (ref : ObjectRef) (slot : Nat) (hv : s.Live v)
    (hfree : ¬s₀.Sealed m.types (.slot ref.address slot)) :
    Spares m.types s₀ s (m.storeSlot ref slot v) fun _ _ => True := by
  refine Discipline.keeps_storeSlot hs ref slot fun r type w hr htype hw => ?_
  have hset := hs.toFieldsTyped.setSlot hr htype (TypeTable.conforms_of_cast hw) (hv.cast hw)
  have hg := Store.grows_setSlot s ref.address slot w
  obtain ⟨u, hu, -⟩ := exists_getElem?_of_forall₂ (hs.slots _ r hr) htype
  have hthere : (s.content? (.slot ref.address slot)).isSome = true := by simp [Store.content?, hr, hu]
  refine ⟨⟨hset, hs.grows.trans hg⟩, hg, fun cell hcell => ?_⟩
  refine (Store.writesOnly_setSlot hthere).others cell ?_
  rintro rfl
  exact hfree hcell

/-- Writing the static slot of a mutable member spares all write-once fields. -/
theorem spares_storeStatic (hm : m.types.Declared) (hs : s₀.ContinuesTo m.types s) {member : MemberRef}
    (hmember : m.types.HasMember member) (hmutable : member.IsMutable) (hstatic : member.isStatic = true)
    {slot : Nat} (hslot : member.slot? = some slot) (hv : s.Live v)
    (hconf : ∀ f, member = .field f → m.types.conforms f.field.type v = true) :
    Spares m.types s₀ s (m.storeStatic member.owner slot v) fun _ _ => True := by
  have hhouses : s.Houses m.types member (.static ⟨member.owner, slot⟩) := .static rfl hstatic hslot
  refine Discipline.keeps_storeStatic hs member.owner slot fun type htype => ?_
  -- a field that has the slot is the member itself, and so the value is of its type
  have hset : (s.setStatic ⟨member.owner, slot⟩ v).FieldsTyped m.types := by
    refine hs.toFieldsTyped.setStatic (fun f hf hfstatic hkey => ?_) hv
    have hfield : s.Houses m.types (.field f) (.static ⟨member.owner, slot⟩) := by
      rw [hkey]
      exact .static rfl hfstatic rfl
    obtain ⟨g, rfl, hg⟩ := hfield.exists_field hm.sound hf hmember hhouses
    exact hg ▸ hconf g rfl
  have hg := Store.grows_setStatic s ⟨member.owner, slot⟩ v
  refine ⟨⟨hset, hs.grows.trans hg⟩, hg, fun cell hcell => ?_⟩
  refine (Store.writesOnly_setStatic s _ v).others cell ?_
  rintro rfl
  exact hs.not_sealed hm.sound hmember hmutable hhouses hcell

/-- Writing a mutable member of an instance spares all write-once fields. -/
theorem spares_storeMember (hm : m.types.Declared) (hs : s₀.ContinuesTo m.types s) {member : MemberRef}
    (hmember : m.types.HasMember member) (hmutable : member.IsMutable) {slot : Nat}
    (hslot : member.backingSlot? = some slot) {ref : ObjectRef} (hlive : s.Live (.object ref))
    (hsub : m.types.isSubtype ref.type member.owner = true) (hv : s.Live v) :
    Spares m.types s₀ s (m.storeSlot ref slot v) fun _ _ => True :=
  spares_storeSlot hs ref slot hv (hs.not_sealed hm.sound hmember hmutable (.of_live hlive hsub hslot))

/-! ### Fields -/

theorem spares_loadField (hm : m.types.Declared) (hs : s₀.ContinuesTo m.types s) {f : FieldRef}
    (hf : m.types.HasField f) {receiver : Option ObjectRef} (hr : s.Receives m.types f.owner receiver) :
    Spares m.types s₀ s (m.loadField f receiver) fun v s' => s'.Live v ∧
      m.types.conforms f.field.type v = true := by
  rw [loadField]
  by_cases hstatic : f.field.isStatic = true
  · rw [if_pos hstatic]
    refine Discipline.keeps_loadStatic hs f.owner f.field.slot fun type htype => ?_
    rw [hf.staticType (hm.sound _ hf.owner_lt) hstatic] at htype
    cases htype
    refine ⟨hs.live_static _ _, ?_⟩
    cases hv : s.static? ⟨f.owner, f.field.slot⟩ with
    | none => exact TypeTable.conforms_zero _
    | some v => exact hs.statics f hf hstatic v hv
  · rw [if_neg hstatic]
    refine (Discipline.keeps_requireInstance hs receiver _).bind fun ref s' hs' hg href => ?_
    obtain ⟨hlive, hsub⟩ := hr.mono hg ref href
    have htype := hf.slotType hm.sound (Bool.eq_false_iff.2 hstatic) hsub
    exact (spares_loadSlot hs' ref f.field.slot).imp fun v _ _ _ hv => ⟨hv.1, hv.2 _ hlive htype⟩

/-- Writing a field that is not write-once spares those that are. -/
theorem spares_storeField (hm : m.types.Declared) (hs : s₀.ContinuesTo m.types s) {f : FieldRef}
    (hf : m.types.HasField f) (hmutable : f.field.initOnly = false) {receiver : Option ObjectRef}
    (hr : s.Receives m.types f.owner receiver) (hv : s.Live v) :
    Spares m.types s₀ s (m.storeField f receiver v) fun _ _ => True := by
  have hcast : Spares m.types s₀ s (Action.ofCast (m.types.cast f.field.type v)) fun w s' =>
      s'.Live w ∧ m.types.conforms f.field.type w = true :=
    .ofCast hs fun w hw => ⟨hv.cast hw, TypeTable.conforms_of_cast hw⟩
  have hmember : m.types.HasMember (.field f) := hf
  rw [storeField]
  refine hcast.bind fun w s₁ hs₁ hg₁ hw => ?_
  by_cases hstatic : f.field.isStatic = true
  · rw [if_pos hstatic]
    refine spares_storeStatic hm hs₁ hmember hmutable hstatic rfl hw.1 ?_
    rintro _ ⟨⟩
    exact hw.2
  · rw [if_neg hstatic]
    refine (Discipline.keeps_requireInstance hs₁ receiver _).bind fun ref s₂ hs₂ hg₂ href => ?_
    obtain ⟨hlive, hsub⟩ := (hr.mono hg₁).mono hg₂ ref href
    have hslot : (MemberRef.field f).backingSlot? = some f.field.slot := by
      simp [MemberRef.backingSlot?, hstatic]
    exact spares_storeMember hm hs₂ hmember hmutable hslot hlive hsub (hw.1.mono hg₂)

/-! ### Methods -/

/-- A generated method spares write-once fields: what it writes is the slot of a property. -/
theorem spares_invoke (hm : m.types.Declared) (hs : s₀.ContinuesTo m.types s) {r : MethodRef}
    (hr : m.types.HasMethod r) (hgenerated : r.IsGenerated) {receiver : Option ObjectRef}
    (hreceiver : s.Receives m.types r.owner receiver) {args : List Value} (hlive : ∀ v ∈ args, s.Live v) :
    Spares m.types s₀ s (m.invoke r receiver args) fun v s' => s'.Live v := by
  rw [invoke_eq]
  refine (Discipline.keeps_receiverFor hs hreceiver r).bind fun used s₁ hs₁ hg₁ hused => ?_
  rw [runBody]
  cases hbody : r.method.body with
  | loadSlot slot =>
    refine (Discipline.keeps_requireInstance hs₁ used _).bind fun ref s₂ hs₂ _ _ => ?_
    exact (spares_loadSlot hs₂ ref slot).imp fun v _ _ _ hv => hv.1
  | loadStatic slot =>
    exact Discipline.keeps_loadStatic hs₁ r.owner slot fun type _ => hs₁.live_static _ type
  | storeSlot slot =>
    -- the slot belongs to a property, which any base of the receiver's type may have declared
    obtain ⟨p, hp, howner, -, hstatic, hslot⟩ := exists_property_of_store hm hr false hbody
    have hmember : m.types.HasMember (.property p) := hp
    have hbacking : (MemberRef.property p).backingSlot? = some slot := by
      simp [MemberRef.backingSlot?, hstatic, hslot]
    refine (Discipline.keeps_onlyArgument hs₁ args _).bind fun v s₂ hs₂ hg₂ hv => ?_
    refine (Discipline.keeps_requireInstance hs₂ used _).bind fun ref s₃ hs₃ hg₃ href => ?_
    obtain ⟨hrefLive, hsub⟩ := (hused.mono hg₂).mono hg₃ ref href
    rw [← howner] at hsub
    have hvLive : s₃.Live v := (hlive v (by simp [hv])).mono ((hg₁.trans hg₂).trans hg₃)
    have hstore := spares_storeMember hm hs₃ hmember trivial hbacking hrefLive hsub hvLive
    exact hstore.bind fun _ s₄ hs₄ _ _ => .pure hs₄ (Store.live_null s₄)
  | storeStatic slot =>
    obtain ⟨p, hp, howner, -, hstatic, hslot⟩ := exists_property_of_store hm hr true hbody
    have hmember : m.types.HasMember (.property p) := hp
    refine (Discipline.keeps_onlyArgument hs₁ args _).bind fun v s₂ hs₂ hg₂ hv => ?_
    have hvLive : s₂.Live v := (hlive v (by simp [hv])).mono (hg₁.trans hg₂)
    have hstore := spares_storeStatic hm hs₂ hmember trivial hstatic hslot hvLive (fun f hf => by cases hf)
    rw [← howner]
    exact hstore.bind fun _ s₃ hs₃ _ _ => .pure hs₃ (Store.live_null s₃)
  | native body => exact absurd hbody (hgenerated body)

/-- The getter of an instance property with a slot spares write-once fields, and yields a value of the property's
type. -/
theorem spares_getter (hm : m.types.Declared) (hs : s₀.ContinuesTo m.types s) {p : PropertyRef}
    (hp : m.types.HasProperty p) (hinstance : p.property.isStatic = false) {g : MethodRef}
    (hg : p.getter? = some g) (hgenerated : g.IsGenerated) {receiver : Option ObjectRef}
    (hreceiver : s.Receives m.types p.owner receiver) :
    Spares m.types s₀ s (m.invoke g receiver []) fun v s' => s'.Live v ∧
      m.types.conforms p.property.type v = true := by
  have hsound := hm.sound _ hp.owner_lt
  obtain ⟨-, -, hgetter⟩ := hp.getter hsound hg
  rw [invoke_eq]
  refine (Discipline.keeps_receiverFor hs hreceiver g).bind fun used s₁ hs₁ _ hused => ?_
  rw [runBody]
  cases hslot : p.property.backing? with
  | none =>
    obtain ⟨body, hbody⟩ := hgetter.native hslot
    exact absurd hbody (hgenerated body)
  | some slot =>
    have hbacking : (MemberRef.property p).backingSlot? = some slot := by
      simp [MemberRef.backingSlot?, hinstance, hslot]
    simp only [hgetter.body slot hslot, hinstance, Bool.false_eq_true, if_false]
    refine (Discipline.keeps_requireInstance hs₁ used _).bind fun ref s₂ hs₂ hg₂ href => ?_
    obtain ⟨hlive, hsub⟩ := hused.mono hg₂ ref href
    have htype := TypeTable.slotType_of_prefix hm.sound hsub
      (TypeTable.slotType_of_backingSlot? (m := .property p) hp hsound hbacking)
    exact (spares_loadSlot hs₂ ref slot).imp fun v _ _ _ hv => ⟨hv.1, hv.2 _ hlive htype⟩

/-- Reading a member of an instance spares write-once fields. -/
theorem spares_load (hm : m.types.Declared) (hs : s₀.ContinuesTo m.types s) {member : MemberRef}
    (hmember : m.types.HasMember member) (hinstance : member.isStatic = false)
    (hgenerated : member.ReadsGenerated) {receiver : Option ObjectRef}
    (hreceiver : s.Receives m.types member.owner receiver) :
    Spares m.types s₀ s (m.load member receiver) fun v s' => s'.Live v ∧
      m.types.conforms member.type v = true := by
  cases member with
  | field f => exact spares_loadField hm hs hmember hreceiver
  | property p =>
    rw [load]
    cases hg : p.getter? with
    | none => exact .throw hs
    | some g => exact spares_getter hm hs hmember hinstance hg (hgenerated g hg) hreceiver

/-! ### Constructors -/

theorem spares_instantiate (hs : s₀.ContinuesTo m.types s) {type : TypeId} (htype : type < m.types.size) :
    Spares m.types s₀ s (m.instantiate type) fun ref s' => ref.type = type ∧ s'.Live (.object ref) ∧
      ∀ slot, ¬s₀.Sealed m.types (.slot ref.address slot) := by
  have hg := s.grows_push ⟨type, (m.types.model type).slotTypes.map ValueType.zero⟩
  refine Discipline.Keeps.get_bind ⟨⟨hs.toFieldsTyped.push htype, hs.grows.trans hg⟩, ⟨hg, ?_⟩, ?_⟩
  · intro cell hcell
    exact Store.content?_push _ (hcell.ne_fresh hs.grows)
  · rintro ref href
    cases href
    exact ⟨rfl, live_push s _, fun slot hsealed => hsealed.ne_fresh hs.grows slot rfl⟩

/-- A constructor with steps writes its own object only. -/
theorem spares_construct (hs : s₀.ContinuesTo m.types s) {c : ConstructorRef} (hc : m.types.HasConstructor c)
    (hgenerated : ∀ body, c.constructor.body ≠ .native body) {args : List Value}
    (hlive : ∀ v ∈ args, s.Live v) :
    Spares m.types s₀ s (m.construct c args) fun ref s' => ref.type = c.owner ∧ s'.Live (.object ref) := by
  rw [construct]
  split
  · exact .throw hs
  · refine (spares_instantiate hs hc.owner_lt).bind fun ref s₁ hs₁ hg₁ href => ?_
    -- no object of the start is at the fresh address, so its write-once fields may be written
    obtain ⟨htype, hrefLive, hfresh⟩ := href
    cases hbody : c.constructor.body with
    | assign steps =>
      have hsteps := Discipline.keeps_assignSlots (fun s slot v hs hv =>
        spares_storeSlot hs ref slot hv (hfresh slot)) hs₁ (fun v hv => (hlive v hv).mono hg₁) steps
      exact hsteps.bind fun _ s₂ hs₂ hg₂ _ => .pure hs₂ ⟨htype, hrefLive.mono hg₂⟩
    | native body => exact absurd hbody (hgenerated body)

end Machine
end Reshape
