import Reshape.Proofs.Store.Action

/-!
# Operations on objects keep stores well typed

What an operation on slots needs in order to keep a discipline is said once for every discipline
(`Discipline.keeps_storeSlot` and the like).  Each operation on objects leaves a well-typed store, whether it
succeeds or fails, and what it yields belongs to the declared type.  Of the supplied bodies this is assumed
(`Machine.WellBehaved`); for everything generated it follows from how types are laid out.
-/

namespace Reshape

/-! ## Accessors of properties -/

namespace TypeTable

variable {t : TypeTable}

theorem hasMethod_of_methodAt? {owner : TypeId} {place : Nat} {r : MethodRef}
    (h : t.methodAt? owner place = some r) :
    t.HasMethod r ∧ r.owner = owner ∧ (t.model owner).methods[place]? = some r.method := by
  obtain ⟨method, hm, rfl⟩ := Option.map_eq_some_iff.1 h
  exact ⟨hm, rfl, hm⟩

/-- The getter of a property is a method of the type that reads the property. -/
theorem HasProperty.getter {p : PropertyRef} (h : t.HasProperty p) (hs : t.Sound p.owner)
    {g : MethodRef} (hg : p.getter? = some g) :
    t.HasMethod g ∧ g.owner = p.owner ∧ g.method.IsGetterOf p.property := by
  rw [h.2, propertyRef] at hg
  obtain ⟨place, hplace, hg⟩ := Option.bind_eq_some_iff.1 hg
  obtain ⟨hmethod, howner, hat⟩ := hasMethod_of_methodAt? hg
  obtain ⟨-, g', hg', hgetter⟩ := (hs.laidOut.placed p.property h.mem).getter place hplace
  rw [Nat.sub_zero, hat] at hg'
  cases hg'
  exact ⟨hmethod, howner, hgetter⟩

/-- The setter of a property is a method of the type that writes the property. -/
theorem HasProperty.setter {p : PropertyRef} (h : t.HasProperty p) (hs : t.Sound p.owner)
    {g : MethodRef} (hg : p.setter? = some g) :
    t.HasMethod g ∧ g.owner = p.owner ∧ g.method.IsSetterOf p.property := by
  rw [h.2, propertyRef] at hg
  obtain ⟨place, hplace, hg⟩ := Option.bind_eq_some_iff.1 hg
  obtain ⟨hmethod, howner, hat⟩ := hasMethod_of_methodAt? hg
  obtain ⟨-, g', hg', hsetter⟩ := (hs.laidOut.placed p.property h.mem).setter place hplace
  rw [Nat.sub_zero, hat] at hg'
  cases hg'
  exact ⟨hmethod, howner, hsetter⟩

/-- A static member with a slot has its type at that slot. -/
theorem staticType_of_share {owner : TypeId} (hs : t.Sound owner) {share : Share}
    (h : share ∈ (t.model owner).shares true) :
    (t.model owner).staticTypes[share.slot]? = some share.type := by
  have hget := @Consecutive.getElem? [] _ hs.laidOut.staticConsecutive _ h
  rw [hs.laidOut.staticTypes]
  simpa using hget

theorem HasField.staticType {f : FieldRef} (h : t.HasField f) (hs : t.Sound f.owner)
    (hstatic : f.field.isStatic = true) :
    (t.model f.owner).staticTypes[f.field.slot]? = some f.field.type := by
  have hshare : ⟨f.field.name, f.field.slot, f.field.type⟩ ∈ (t.model f.owner).shares true := by
    refine List.mem_append_left _ (List.mem_filterMap.2 ⟨f.field, h.mem, ?_⟩)
    simp [Field.share?, hstatic]
  exact staticType_of_share hs hshare

/-- An instance field has its type at its slot, in its own type and in all that derive from it. -/
theorem HasField.slotType (ht : ∀ id < t.size, t.Sound id) {f : FieldRef} (h : t.HasField f)
    (hstatic : f.field.isStatic = false) {id : TypeId} (hid : t.isSubtype id f.owner = true) :
    (t.model id).slotTypes[f.field.slot]? = some f.field.type := by
  have hslot : (MemberRef.field f).backingSlot? = some f.field.slot := by
    simp [MemberRef.backingSlot?, hstatic]
  exact slotType_of_prefix ht hid
    (slotType_of_backingSlot? (m := .field f) h (ht _ h.owner_lt) hslot)

theorem staticType_of_property {owner : TypeId} (hs : t.Sound owner) {p : Property}
    (hp : p ∈ (t.model owner).properties) (hstatic : p.isStatic = true) {slot : Nat}
    (hslot : p.backing? = some slot) : (t.model owner).staticTypes[slot]? = some p.type := by
  have hshare : ⟨p.name, slot, p.type⟩ ∈ (t.model owner).shares true := by
    refine List.mem_append_right _ (List.mem_filterMap.2 ⟨p, hp, ?_⟩)
    simp [Property.share?, hstatic, hslot]
  exact staticType_of_share hs hshare

end TypeTable

/-! ## Running methods -/

/-- The body was made for a slot, and not supplied. -/
def MethodRef.IsGenerated (r : MethodRef) : Prop :=
  ∀ body, r.method.body ≠ .native body

namespace Machine

/-- The receiver that the body of a method runs on: none for a static one. -/
def receiverFor (r : MethodRef) (receiver : Option ObjectRef) : Action (Option ObjectRef) :=
  if r.method.isStatic then pure none else some <$> requireInstance receiver r.method.name

/-- Run the body of a method. -/
def runBody (m : Machine) (r : MethodRef) (args : List Value) (receiver : Option ObjectRef) :
    Action Value :=
  match r.method.body with
  | .loadSlot slot => do loadSlot (← requireInstance receiver r.method.name) slot
  | .loadStatic slot => m.loadStatic r.owner slot
  | .storeSlot slot => do
    let v ← onlyArgument args r.method.name
    m.storeSlot (← requireInstance receiver r.method.name) slot v
    pure .null
  | .storeStatic slot => do
    m.storeStatic r.owner slot (← onlyArgument args r.method.name)
    pure .null
  | .native body => m.method body receiver args

theorem invoke_eq (m : Machine) (r : MethodRef) (receiver : Option ObjectRef) (args : List Value) :
    m.invoke r receiver args = receiverFor r receiver >>= m.runBody r args := by
  unfold invoke receiverFor
  cases r.method.isStatic <;> rfl

end Machine

/-! ## Slots -/

namespace Store

/-- In a well-typed store the static fields hold values of their types, as all static slots do. -/
theorem WellTyped.fieldsTyped {t : TypeTable} {s : Store} (hs : s.WellTyped t)
    (ht : ∀ id < t.size, t.Sound id) : s.FieldsTyped t := by
  refine ⟨hs.slotsTyped, hs.linked, fun f hf hstatic v hv => ?_⟩
  obtain ⟨type, htype, hconf⟩ := hs.statics _ v hv
  have hown := hf.staticType (ht _ hf.owner_lt) hstatic
  cases htype.symm.trans hown
  exact hconf

/-- A receiver leads to an instance of the type, or there is none. -/
def Receives (s : Store) (t : TypeTable) (owner : TypeId) (receiver : Option ObjectRef) : Prop :=
  ∀ ref, receiver = some ref → s.Live (.object ref) ∧ t.isSubtype ref.type owner = true

/-- An instance of a type receives what is declared on its bases. -/
theorem receives_of_isSubtype {s : Store} {t : TypeTable} {ref : ObjectRef} {object owner : TypeId}
    (hlive : s.Live (.object ref)) (hsub : t.isSubtype ref.type object = true)
    (howner : t.isSubtype object owner = true) : s.Receives t owner (some ref) := by
  rintro _ ⟨⟩
  exact ⟨hlive, TypeTable.isSubtype_trans hsub howner⟩

theorem Receives.mono {s s' : Store} (h : s.Grows s') {t : TypeTable} {owner : TypeId}
    {receiver : Option ObjectRef} (hr : s.Receives t owner receiver) :
    s'.Receives t owner receiver := by
  intro ref href
  obtain ⟨hlive, hsub⟩ := hr ref href
  exact ⟨hlive.mono h, hsub⟩

end Store

/-! ### Under any discipline -/

namespace Discipline

variable {d : Discipline} {m : Machine} {s : Store} {post : Value → Store → Prop}

/-- Reading a slot leaves the store as it is. -/
theorem keeps_loadSlot (hs : d.Holds s) (ref : ObjectRef) (slot : Nat)
    (h : ∀ r v, s.record? ref.address = some r → r.slots[slot]? = some v → post v s) :
    d.Keeps s (Machine.loadSlot ref slot) post := by
  refine Keeps.get_bind ?_
  cases hr : s.record? ref.address with
  | none =>
    simp only [Store.slots, hr, List.getElem?_nil]
    exact .throw hs
  | some r =>
    simp only [Store.slots, hr]
    cases hv : r.slots[slot]? with
    | none => exact .throw hs
    | some v => exact .pure hs (h r v hr hv)

/-- What is read from a slot is in the store, and of the type of the slot. -/
theorem keeps_loadSlot_typed {t : TypeTable} (hs : d.Holds s) (htyped : s.SlotsTyped t) (hlinked : s.Linked)
    (ref : ObjectRef) (slot : Nat) : d.Keeps s (Machine.loadSlot ref slot) fun v s' => s'.Live v ∧
      ∀ type, s.Live (.object ref) → (t.model ref.type).slotTypes[slot]? = some type →
        t.conforms type v = true := by
  refine keeps_loadSlot hs ref slot fun r v hr hv => ?_
  refine ⟨hlinked.slotsLive _ r hr v (List.mem_of_getElem? hv), fun type hlive htype => ?_⟩
  exact htyped.conforms_of_live hlive htype hr hv

/-- Reading a static slot leaves the store as it is. -/
theorem keeps_loadStatic (hs : d.Holds s) (owner : TypeId) (slot : Nat)
    (h : ∀ type, (m.types.model owner).staticTypes[slot]? = some type →
      post ((s.static? ⟨owner, slot⟩).getD type.zero) s) : d.Keeps s (m.loadStatic owner slot) post := by
  rw [Machine.loadStatic]
  split
  · exact .throw hs
  · rename_i type htype
    exact Keeps.get_bind (.pure hs (h type htype))

/-- Writing a slot keeps what replacing its value by a converted one keeps. -/
theorem keeps_storeSlot (hs : d.Holds s) (ref : ObjectRef) (slot : Nat) {v : Value}
    (h : ∀ r type w, s.record? ref.address = some r → (m.types.model r.type).slotTypes[slot]? = some type →
      m.types.cast type v = .ok w →
        d.Holds (s.setSlot ref.address slot w) ∧ d.Leads s (s.setSlot ref.address slot w)) :
    d.Keeps s (m.storeSlot ref slot v) fun _ _ => True := by
  refine Keeps.get_bind ?_
  split
  · exact .throw hs
  · rename_i r hr
    split
    · exact .throw hs
    · rename_i type htype
      have hcast : d.Keeps s (Action.ofCast (m.types.cast type v)) fun w s' =>
          s' = s ∧ m.types.cast type v = .ok w := .ofCast hs fun w hw => ⟨rfl, hw⟩
      refine hcast.bind ?_
      rintro w _ - - ⟨rfl, hw⟩
      obtain ⟨hholds, hleads⟩ := h r type w hr htype hw
      exact ⟨hholds, hleads, fun _ _ => trivial⟩

/-- Writing a static slot keeps what replacing its value keeps. -/
theorem keeps_storeStatic (hs : d.Holds s) (owner : TypeId) (slot : Nat) {v : Value}
    (h : ∀ type, (m.types.model owner).staticTypes[slot]? = some type →
      d.Holds (s.setStatic ⟨owner, slot⟩ v) ∧ d.Leads s (s.setStatic ⟨owner, slot⟩ v)) :
    d.Keeps s (m.storeStatic owner slot v) fun _ _ => True := by
  rw [Machine.storeStatic]
  split
  · exact .throw hs
  · rename_i type htype
    obtain ⟨hholds, hleads⟩ := h type htype
    exact ⟨hholds, hleads, fun _ _ => trivial⟩

theorem keeps_requireInstance (hs : d.Holds s) (receiver : Option ObjectRef) (member : String) :
    d.Keeps s (Machine.requireInstance receiver member) fun ref _ => receiver = some ref := by
  cases receiver with
  | none => exact .throw hs
  | some ref => exact .pure hs rfl

theorem keeps_onlyArgument (hs : d.Holds s) (args : List Value) (member : String) :
    d.Keeps s (Machine.onlyArgument args member) fun v _ => args = [v] := by
  match args with
  | [] => exact .throw hs
  | [v] => exact .pure hs rfl
  | _ :: _ :: _ => exact .throw hs

/-- A method runs on the receiver that it is used on, or on none. -/
theorem keeps_receiverFor_self (hs : d.Holds s) (receiver : Option ObjectRef) (r : MethodRef) :
    d.Keeps s (Machine.receiverFor r receiver) fun used _ => ∀ ref, used = some ref → receiver = some ref := by
  rw [Machine.receiverFor]
  split
  · exact .pure hs fun ref href => by cases href
  · refine (keeps_requireInstance hs receiver r.method.name).map fun ref s' _ _ href => ?_
    intro other hother
    cases hother
    exact href

theorem keeps_receiverFor (hs : d.Holds s) {t : TypeTable} {owner : TypeId} {receiver : Option ObjectRef}
    (hreceiver : s.Receives t owner receiver) (r : MethodRef) :
    d.Keeps s (Machine.receiverFor r receiver) fun used s' => s'.Receives t owner used :=
  (keeps_receiverFor_self hs receiver r).imp fun _ _ _ hg hused ref href => hreceiver.mono hg ref (hused ref href)

/-- The steps of a constructor keep what writing any slot of the object keeps. -/
theorem keeps_assignSlots {ref : ObjectRef} (hstore : ∀ s slot v, d.Holds s → s.Live v →
      d.Keeps s (m.storeSlot ref slot v) fun _ _ => True) (hs : d.Holds s) {args : List Value}
    (hlive : ∀ v ∈ args, s.Live v) (steps : List SlotInit) :
    d.Keeps s (m.assignSlots ref args steps) fun _ _ => True := by
  induction steps generalizing s with
  | nil => exact .pure hs trivial
  | cons step rest ih =>
    have harg : s.Live (args[step.parameter]?.getD .null) := by
      cases hv : args[step.parameter]? with
      | none => exact Store.live_null s
      | some v => exact hlive v (List.mem_of_getElem? hv)
    refine (hstore s step.slot _ hs harg).bind fun _ s' hs' hg _ => ?_
    exact ih hs' fun v hv => (hlive v hv).mono hg

end Discipline

/-! ### Under typing -/

namespace Machine

open Action

variable {m : Machine} {s : Store}

theorem live_push (s : Store) (r : Record) : (s.push r).Live (.object ⟨s.heap.size, r.type⟩) :=
  Store.live_object.2 ⟨r, by rw [Store.record?_push, if_pos rfl], rfl⟩

theorem keeps_instantiate (hs : s.WellTyped m.types) {type : TypeId} (htype : type < m.types.size) :
    Keeps m.types s (m.instantiate type) fun ref s' =>
      ref.type = type ∧ s'.Live (.object ref) := by
  let fresh : Record := ⟨type, (m.types.model type).slotTypes.map ValueType.zero⟩
  refine Keeps.get_bind ⟨hs.push htype, s.grows_push fresh, ?_⟩
  rintro ref href
  cases href
  exact ⟨rfl, live_push s fresh⟩

/-- What is read from a slot is in the store, and of the type of the slot. -/
theorem keeps_loadSlot (hs : s.WellTyped m.types) (ref : ObjectRef) (slot : Nat) :
    Keeps m.types s (loadSlot ref slot) fun v s' => s'.Live v ∧
      ∀ type, s.Live (.object ref) → (m.types.model ref.type).slotTypes[slot]? = some type →
        m.types.conforms type v = true :=
  keeps_iff.2 (Discipline.keeps_loadSlot_typed hs hs.slotsTyped hs.linked ref slot)

theorem keeps_storeSlot (hs : s.WellTyped m.types) (ref : ObjectRef) (slot : Nat) {v : Value}
    (hv : s.Live v) : Keeps m.types s (m.storeSlot ref slot v) fun _ _ => True := by
  refine keeps_iff.2 (Discipline.keeps_storeSlot hs ref slot fun r type w hr htype hw => ⟨?_, ?_⟩)
  · exact hs.setSlot hr htype (TypeTable.conforms_of_cast hw) (hv.cast hw)
  · exact Store.grows_setSlot _ _ _ _

/-- What is read from a static slot is in the store, and of the type of the slot. -/
theorem keeps_loadStatic (hs : s.WellTyped m.types) (owner : TypeId) (slot : Nat) :
    Keeps m.types s (m.loadStatic owner slot) fun v s' => s'.Live v ∧
      ∀ type, (m.types.model owner).staticTypes[slot]? = some type →
        m.types.conforms type v = true := by
  refine keeps_iff.2 (Discipline.keeps_loadStatic hs owner slot fun type htype => ?_)
  refine ⟨hs.linked.live_static ⟨owner, slot⟩ type, fun type' htype' => ?_⟩
  cases htype.symm.trans htype'
  cases hv : s.static? ⟨owner, slot⟩ with
  | none => exact TypeTable.conforms_zero type
  | some v =>
    obtain ⟨own, hown, hconf⟩ := hs.statics _ v hv
    cases htype.symm.trans hown
    exact hconf

theorem keeps_storeStatic (hs : s.WellTyped m.types) (owner : TypeId) (slot : Nat) {v : Value}
    (hv : s.Live v) (hconf : ∀ type, (m.types.model owner).staticTypes[slot]? = some type →
      m.types.conforms type v = true) :
    Keeps m.types s (m.storeStatic owner slot v) fun _ _ => True := by
  refine keeps_iff.2 (Discipline.keeps_storeStatic hs owner slot fun type htype => ⟨?_, ?_⟩)
  · exact hs.setStatic htype (hconf type htype) hv
  · exact Store.grows_setStatic _ _ _

theorem keeps_requireInstance (hs : s.WellTyped m.types) (receiver : Option ObjectRef)
    (member : String) : Keeps m.types s (requireInstance receiver member) fun ref _ =>
      receiver = some ref :=
  keeps_iff.2 (Discipline.keeps_requireInstance hs receiver member)

/-! ## Fields -/

/-- What is read from a field is of the type of the field. -/
theorem keeps_loadField (hm : m.types.Declared) (hs : s.WellTyped m.types) {f : FieldRef}
    (hf : m.types.HasField f) {receiver : Option ObjectRef}
    (hr : s.Receives m.types f.owner receiver) :
    Keeps m.types s (m.loadField f receiver) fun v s' => s'.Live v ∧
      m.types.conforms f.field.type v = true := by
  rw [loadField]
  split
  · rename_i hstatic
    refine (keeps_loadStatic hs f.owner f.field.slot).imp fun v s' _ _ hv => ⟨hv.1, ?_⟩
    exact hv.2 _ (hf.staticType (hm.sound _ hf.owner_lt) hstatic)
  · rename_i hstatic
    refine (keeps_requireInstance hs receiver f.field.name).bind fun ref s' hs' hg href => ?_
    obtain ⟨hlive, hsub⟩ := hr.mono hg ref href
    refine (keeps_loadSlot hs' ref f.field.slot).imp fun v s'' _ _ hv => ⟨hv.1, ?_⟩
    exact hv.2 _ hlive (hf.slotType hm.sound (by simpa using hstatic) hsub)

theorem keeps_storeField (hm : m.types.Declared) (hs : s.WellTyped m.types) {f : FieldRef}
    (hf : m.types.HasField f) (receiver : Option ObjectRef) {v : Value} (hv : s.Live v) :
    Keeps m.types s (m.storeField f receiver v) fun _ _ => True := by
  have hcast : Keeps m.types s (Action.ofCast (m.types.cast f.field.type v)) fun w s' =>
      s'.Live w ∧ m.types.conforms f.field.type w = true :=
    .ofCast hs fun w hw => ⟨hv.cast hw, TypeTable.conforms_of_cast hw⟩
  refine hcast.bind fun w s' hs' hg hw => ?_
  split
  · rename_i hstatic
    refine keeps_storeStatic hs' f.owner f.field.slot hw.1 fun type htype => ?_
    rw [hf.staticType (hm.sound _ hf.owner_lt) hstatic] at htype
    cases htype
    exact hw.2
  · refine (keeps_requireInstance hs' receiver f.field.name).bind fun ref s'' hs'' hg' _ => ?_
    exact keeps_storeSlot hs'' ref f.field.slot (hw.1.mono hg')

/-! ## Methods and constructors -/

/-- What is assumed of the supplied bodies: they leave a well-typed store, what they yield is in the
store, and the getter of a property yields a value of the property's type. -/
structure WellBehaved (m : Machine) : Prop where
  /-- Bodies of methods. -/
  method : ∀ body receiver args s, s.WellTyped m.types →
    (∀ ref, receiver = some ref → s.Live (.object ref)) → (∀ v ∈ args, s.Live v) →
    Keeps m.types s (m.method body receiver args) fun v s' => s'.Live v
  /-- Bodies of constructors. -/
  constructor : ∀ body ref args s, s.WellTyped m.types → s.Live (.object ref) →
    (∀ v ∈ args, s.Live v) → Keeps m.types s (m.constructor body ref args) fun _ _ => True
  /-- Bodies of getters. -/
  getter : ∀ p g body receiver s, m.types.HasProperty p → p.getter? = some g →
    g.method.body = .native body → s.WellTyped m.types → s.Receives m.types p.owner receiver →
    Keeps m.types s (m.method body receiver []) fun v _ =>
      m.types.conforms p.property.type v = true

theorem keeps_onlyArgument (hs : s.WellTyped m.types) (args : List Value) (member : String) :
    Keeps m.types s (onlyArgument args member) fun v _ => args = [v] :=
  keeps_iff.2 (Discipline.keeps_onlyArgument hs args member)

/-- A method that writes a slot is the setter of a property with that slot. -/
theorem exists_property_of_store (hm : m.types.Declared) {r : MethodRef} (hr : m.types.HasMethod r)
    {slot : Nat} (isStatic : Bool)
    (hbody : r.method.body = if isStatic then .storeStatic slot else .storeSlot slot) :
    ∃ p, m.types.HasProperty p ∧ p.owner = r.owner ∧ r.method.IsSetterOf p.property ∧
      p.property.isStatic = isStatic ∧ p.property.backing? = some slot := by
  have hnative : ∀ body, r.method.body ≠ .native body := by cases isStatic <;> simp [hbody]
  have hsound := hm.sound _ hr.owner_lt
  rcases hsound.laidOut.accessor r.method hr.mem with ⟨body, hbody⟩ | ⟨p, hp, hgetter | hsetter⟩
  · exact absurd hbody (hnative body)
  · cases hslot : p.backing? with
    | none =>
      obtain ⟨body, hbody⟩ := hgetter.native hslot
      exact absurd hbody (hnative body)
    | some own =>
      have hload := hgetter.body own hslot
      rw [hbody] at hload
      cases isStatic <;> cases hstatic : p.isStatic <;> simp [hstatic] at hload
  · cases hslot : p.backing? with
    | none =>
      obtain ⟨body, hbody⟩ := hsetter.native hslot
      exact absurd hbody (hnative body)
    | some own =>
      have hstore := hsetter.body own hslot
      rw [hbody] at hstore
      obtain ⟨place, hplace⟩ := List.mem_iff_getElem?.1 hp
      refine ⟨m.types.propertyRef r.owner place p, ⟨hplace, rfl⟩, rfl, hsetter, ?_⟩
      simp only [TypeTable.propertyRef]
      cases isStatic <;> cases hstatic : p.isStatic <;> simp [hstatic] at hstore <;>
        exact ⟨rfl, hstore ▸ hslot⟩

theorem keeps_receiverFor (hs : s.WellTyped m.types) {owner : TypeId}
    {receiver : Option ObjectRef} (hreceiver : s.Receives m.types owner receiver) (r : MethodRef) :
    Keeps m.types s (receiverFor r receiver) fun used s' => s'.Receives m.types owner used :=
  keeps_iff.2 (Discipline.keeps_receiverFor hs hreceiver r)

/-- What a method yields is in the store, whatever object it is used on.  Only what is stored in a static slot has to
be of the parameter's type. -/
theorem keeps_invoke_live (hm : m.types.Declared) (hw : m.WellBehaved) (hs : s.WellTyped m.types)
    {r : MethodRef} (hr : m.types.HasMethod r) {receiver : Option ObjectRef}
    (hreceiver : ∀ ref, receiver = some ref → s.Live (.object ref)) {args : List Value}
    (hlive : ∀ v ∈ args, s.Live v)
    (hargs : ∀ slot, r.method.body = .storeStatic slot →
      List.Forall₂ (fun p v => m.types.conforms p.type v = true) r.method.parameters args) :
    Keeps m.types s (m.invoke r receiver args) fun v s' => s'.Live v := by
  rw [invoke_eq]
  refine (keeps_iff.2 (Discipline.keeps_receiverFor_self hs receiver r)).bind fun used s' hs' hg hused => ?_
  have hlive' : ∀ v ∈ args, s'.Live v := fun v hv => (hlive v hv).mono hg
  rw [runBody]
  split
  · rename_i slot hbody
    refine (keeps_requireInstance hs' used r.method.name).bind fun ref s'' hs'' _ _ => ?_
    exact (keeps_loadSlot hs'' ref slot).imp fun v _ _ _ hv => hv.1
  · rename_i slot hbody
    exact (keeps_loadStatic hs' r.owner slot).imp fun v _ _ _ hv => hv.1
  · rename_i slot hbody
    refine (keeps_onlyArgument hs' args r.method.name).bind fun v s₁ hs₁ hg₁ hv => ?_
    refine (keeps_requireInstance hs₁ used r.method.name).bind fun ref s₂ hs₂ hg₂ _ => ?_
    have hvlive : s₂.Live v := ((hlive' v (by simp [hv])).mono hg₁).mono hg₂
    exact (keeps_storeSlot hs₂ ref slot hvlive).bind fun _ s₃ hs₃ _ _ =>
      .pure hs₃ (Store.live_null s₃)
  · rename_i slot hbody
    refine (keeps_onlyArgument hs' args r.method.name).bind fun v s₁ hs₁ hg₁ hv => ?_
    have hconf : ∀ type, (m.types.model r.owner).staticTypes[slot]? = some type →
        m.types.conforms type v = true := by
      intro type htype
      obtain ⟨p, hp, howner, hsetter, hstatic, hslot⟩ := exists_property_of_store hm hr true hbody
      have hown := TypeTable.staticType_of_property (hm.sound _ hp.owner_lt) hp.mem hstatic hslot
      rw [howner, htype] at hown
      cases hown
      have hconforms := hargs slot hbody
      rw [hsetter.parameters, hv] at hconforms
      exact (List.forall₂_cons.1 hconforms).1
    refine (keeps_storeStatic hs₁ r.owner slot ((hlive' v (by simp [hv])).mono hg₁) hconf).bind
      fun _ s₂ hs₂ _ _ => ?_
    exact .pure hs₂ (Store.live_null s₂)
  · rename_i body hbody
    exact hw.method body used args s' hs' (fun ref href => (hreceiver ref (hused ref href)).mono hg) hlive'

/-- What a method yields is in the store. -/
theorem keeps_invoke (hm : m.types.Declared) (hw : m.WellBehaved) (hs : s.WellTyped m.types)
    {r : MethodRef} (hr : m.types.HasMethod r) {receiver : Option ObjectRef}
    (hreceiver : s.Receives m.types r.owner receiver) {args : List Value}
    (hlive : ∀ v ∈ args, s.Live v)
    (hargs : List.Forall₂ (fun p v => m.types.conforms p.type v = true) r.method.parameters args) :
    Keeps m.types s (m.invoke r receiver args) fun v s' => s'.Live v :=
  keeps_invoke_live hm hw hs hr (fun ref href => (hreceiver ref href).1) hlive fun _ _ => hargs

/-- What a getter yields is of the type of its property. -/
theorem keeps_getter (hm : m.types.Declared) (hw : m.WellBehaved) (hs : s.WellTyped m.types)
    {p : PropertyRef} (hp : m.types.HasProperty p) {g : MethodRef} (hg : p.getter? = some g)
    {receiver : Option ObjectRef} (hreceiver : s.Receives m.types p.owner receiver) :
    Keeps m.types s (m.invoke g receiver []) fun v s' => s'.Live v ∧
      m.types.conforms p.property.type v = true := by
  have hsound := hm.sound _ hp.owner_lt
  obtain ⟨-, howner, hgetter⟩ := hp.getter hsound hg
  rw [invoke_eq]
  refine (keeps_receiverFor hs hreceiver g).bind fun used s' hs' _ hused => ?_
  rw [runBody]
  cases hslot : p.property.backing? with
  | none =>
    obtain ⟨body, hbody⟩ := hgetter.native hslot
    simp only [hbody]
    exact (hw.method body used [] s' hs' (fun ref href => (hused ref href).1) (by simp)).and
      (hw.getter p g body used s' hp hg hbody hs' hused)
  | some slot =>
    rw [hgetter.body slot hslot]
    cases hstatic : p.property.isStatic with
    | true =>
      simp only [if_true]
      refine (keeps_loadStatic hs' g.owner slot).imp fun v _ _ _ hv => ⟨hv.1, hv.2 _ ?_⟩
      rw [howner]
      exact TypeTable.staticType_of_property hsound hp.mem hstatic hslot
    | false =>
      simp only [Bool.false_eq_true, if_false]
      refine (keeps_requireInstance hs' used g.method.name).bind fun ref s₁ hs₁ hg₁ href => ?_
      obtain ⟨hlive, hsub⟩ := hused.mono hg₁ ref href
      refine (keeps_loadSlot hs₁ ref slot).imp fun v _ _ _ hv => ⟨hv.1, hv.2 _ hlive ?_⟩
      have hback : (MemberRef.property p).backingSlot? = some slot := by
        simp [MemberRef.backingSlot?, hstatic, hslot]
      exact TypeTable.slotType_of_prefix hm.sound hsub
        (TypeTable.slotType_of_backingSlot? (m := .property p) hp hsound hback)

/-- What is read from a member is of the type of the member. -/
theorem keeps_load (hm : m.types.Declared) (hw : m.WellBehaved) (hs : s.WellTyped m.types)
    {member : MemberRef} (hmember : m.types.HasMember member) {receiver : Option ObjectRef}
    (hreceiver : s.Receives m.types member.owner receiver) :
    Keeps m.types s (m.load member receiver) fun v s' => s'.Live v ∧
      m.types.conforms member.type v = true := by
  cases member with
  | field f => exact keeps_loadField hm hs hmember hreceiver
  | property p =>
    rw [load]
    split
    · rename_i g hg
      exact keeps_getter hm hw hs hmember hg hreceiver
    · exact .throw hs

theorem keeps_assignSlots (hs : s.WellTyped m.types) (ref : ObjectRef) {args : List Value}
    (hlive : ∀ v ∈ args, s.Live v) (steps : List SlotInit) :
    Keeps m.types s (m.assignSlots ref args steps) fun _ _ => True :=
  keeps_iff.2 (Discipline.keeps_assignSlots (fun _ slot _ hs hv =>
    keeps_iff.1 (keeps_storeSlot hs ref slot hv)) hs hlive steps)

/-- A constructor yields an instance of its type. -/
theorem keeps_construct (hw : m.WellBehaved) (hs : s.WellTyped m.types) {c : ConstructorRef}
    (hc : m.types.HasConstructor c) {args : List Value} (hlive : ∀ v ∈ args, s.Live v) :
    Keeps m.types s (m.construct c args) fun ref s' =>
      ref.type = c.owner ∧ s'.Live (.object ref) := by
  rw [construct]
  split
  · exact .throw hs
  · refine (keeps_instantiate hs hc.owner_lt).bind fun ref s₁ hs₁ hg₁ href => ?_
    have hlive₁ : ∀ v ∈ args, s₁.Live v := fun v hv => (hlive v hv).mono hg₁
    split
    · rename_i steps hbody
      refine (keeps_assignSlots hs₁ ref hlive₁ steps).bind fun _ s₂ hs₂ hg₂ _ => ?_
      exact .pure hs₂ ⟨href.1, href.2.mono hg₂⟩
    · rename_i body hbody
      refine (hw.constructor body ref args s₁ hs₁ href.2 hlive₁).bind fun _ s₂ hs₂ hg₂ _ => ?_
      exact .pure hs₂ ⟨href.1, href.2.mono hg₂⟩

end Machine
end Reshape
