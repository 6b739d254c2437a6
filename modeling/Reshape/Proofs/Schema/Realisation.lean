import Reshape.Proofs.Schema.Constructors
import Reshape.Proofs.Schema.History
import Reshape.Proofs.Store.Slots

/-!
# What a descriptor is emitted as

An accepted descriptor is emitted, and the type is the one that was described (`emission_realises`).  The slots
are those of the base and then one for each member in order (`Descriptor.slotAt`), accessors stand over the
slot of their property where its visibilities say that there are any, and the constructor takes the required
members and then the optional ones.

Parameters are in another order than members, and the steps of the constructor in that of the members.  Each
step is therefore traced back to the member that its slot and its parameter are both for
(`Descriptor.Wellformed.step`); no two members have one slot, so that what a step stores stays, and the slots
of members that are not bound are left at zero (`Descriptor.EmittedAs.stores`).
-/

namespace Reshape

/-! ## Layouts of instance members -/

namespace Layout

/-- Instance fields take the next slots in order. -/
theorem fields_eq_mapIdx (l : Layout) {specs : List FieldSpec}
    (h : ∀ spec ∈ specs, spec.isStatic = false) :
    l.fields specs = (specs.mapIdx fun i spec =>
      ⟨spec.name, spec.type, spec.visibility, false, spec.initOnly, l.slots.length + i⟩,
      ⟨l.slots ++ specs.map (·.type), l.statics⟩) := by
  induction specs generalizing l with
  | nil => simp [fields]
  | cons spec rest ih =>
    have hstatic := h spec (List.mem_cons_self ..)
    rw [fields, ih _ fun other hother => h other (List.mem_cons_of_mem _ hother)]
    simp [hstatic, next, push, Nat.add_assoc, Nat.add_comm 1]

/-- Instance properties take the next slots in order, and the accessors of each stand together. -/
theorem properties_getElem? (l : Layout) (places : Nat) {specs : List PropertySpec}
    (h : ∀ spec ∈ specs, spec.isStatic = false ∧ spec.hasSlot = true) :
    (l.properties places specs).2.2 = ⟨l.slots ++ specs.map (·.type), l.statics⟩ ∧
    ∀ (i : Nat) (spec : PropertySpec), specs[i]? = some spec → ∃ place, places ≤ place ∧
      (l.properties places specs).1[i]? = some (spec.build (l.slots.length + i) place).1 ∧
      (spec.build (l.slots.length + i) place).2 <+:
        (l.properties places specs).2.1.drop (place - places) := by
  induction specs generalizing l places with
  | nil => simp [properties]
  | cons spec rest ih =>
    obtain ⟨hstatic, hslot⟩ := h spec (List.mem_cons_self ..)
    obtain ⟨hlast, hrest⟩ := ih (l.push spec.isStatic spec.type)
      (places + (spec.build (l.next spec.isStatic) places).2.length)
      fun other hother => h other (List.mem_cons_of_mem _ hother)
    have hnext : l.next spec.isStatic = l.slots.length := by rw [hstatic]; rfl
    have hpush : l.push spec.isStatic spec.type = ⟨l.slots ++ [spec.type], l.statics⟩ := by
      rw [hstatic]
      rfl
    simp only [properties, hslot, if_true]
    refine ⟨?_, fun i other hi => ?_⟩
    · rw [hlast, hpush]
      simp
    · cases i with
      | zero =>
        cases hi
        refine ⟨places, Nat.le_refl _, ?_, ?_⟩
        · rw [hnext]
          rfl
        · rw [hnext, Nat.sub_self]
          exact List.prefix_append ..
      | succ i =>
        obtain ⟨place, hle, hplace, haccessors⟩ := hrest i other hi
        have hlength : (l.push spec.isStatic spec.type).slots.length + i = l.slots.length + (i + 1) := by
          rw [hpush, List.length_append, List.length_singleton]
          omega
        rw [hlength] at hplace haccessors
        refine ⟨place, by omega, hplace, ?_⟩
        rw [List.drop_append, List.drop_eq_nil_of_le (by omega), List.nil_append]
        rwa [Nat.sub_sub]

end Layout

/-! ## The emitted model -/

namespace PropertyDescriptor

/-- The getter over a slot. -/
def getter (p : PropertyDescriptor) (slot : Nat) : Method :=
  ⟨"get_" ++ p.name, [], some (effectiveType p.type p.nullable), false, p.get, .loadSlot slot⟩

/-- The setter over a slot. -/
def setter (p : PropertyDescriptor) (slot : Nat) : Method :=
  ⟨"set_" ++ p.name, [⟨"value", effectiveType p.type p.nullable, none⟩], none, false, p.set,
    .storeSlot slot⟩

/-- A property is the described one over a slot, and its accessors are among the methods. -/
structure EmittedAs (p : PropertyDescriptor) (slot : Nat) (q : Property) (methods : List Method) :
    Prop where
  /-- Name. -/
  name : q.name = p.name
  /-- Type. -/
  type : q.type = effectiveType p.type p.nullable
  /-- It is a property of instances. -/
  isStatic : q.isStatic = false
  /-- Its slot. -/
  backing : q.backing? = some slot
  /-- Who may use the getter. -/
  get : q.get = p.get
  /-- Who may use the setter. -/
  set : q.set = p.set
  /-- The getter is there if its visibility is. -/
  getter : q.getter?.map (methods[·]?) = if p.get.exists then some (some (p.getter slot)) else none
  /-- The setter is there if its visibility is. -/
  setter : q.setter?.map (methods[·]?) = if p.set.exists then some (some (p.setter slot)) else none

end PropertyDescriptor

namespace Descriptor

/-- The slot of a member, by its place among the members: those of the base come first. -/
def slotAt (t : TypeTable) (d : Descriptor) (i : Nat) : Nat :=
  (t.inherited d.base?).length + i

/-- A model has the slots, members and accessors that a descriptor describes, and no others. -/
structure EmittedAs (t : TypeTable) (d : Descriptor) (m : TypeModel) : Prop where
  /-- Name. -/
  name : m.name = d.name
  /-- The type it derives from. -/
  base : m.base? = d.base?
  /-- The slots of the base, and then one for each member. -/
  slotTypes : m.slotTypes = t.inherited d.base? ++ d.members.map (·.type)
  /-- There are no static slots. -/
  staticTypes : m.staticTypes = []
  /-- Each field has the slot of its place. -/
  fields : m.fields = d.fields.mapIdx fun i f =>
    ⟨f.name, effectiveType f.type f.nullable, f.visibility, false, f.initOnly, d.slotAt t i⟩
  /-- There are as many properties as described. -/
  properties_length : m.properties.length = d.properties.length
  /-- Each property has the slot of its place, after the fields. -/
  properties : ∀ (i : Nat) (p : PropertyDescriptor), d.properties[i]? = some p →
    ∃ q, m.properties[i]? = some q ∧ p.EmittedAs (d.slotAt t (d.fields.length + i)) q m.methods
  /-- Methods are accessors. -/
  accessor : ∀ g ∈ m.methods, ∃ q ∈ m.properties, g.IsGetterOf q ∨ g.IsSetterOf q

variable {t : TypeTable} {d : Descriptor} {m : TypeModel}

/-- A property of the declaration is built as it is described. -/
theorem emittedAs_build (p : PropertyDescriptor) (slot place : Nat) {methods : List Method}
    {spec : PropertySpec}
    (hspec : spec = ⟨p.name, effectiveType p.type p.nullable, p.get, p.set, false, .slot⟩)
    (h : (spec.build slot place).2 <+: methods.drop place) :
    p.EmittedAs slot (spec.build slot place).1 methods := by
  have hget : spec.getMethod? slot = if p.get.exists then some (p.getter slot) else none := by
    subst hspec
    rfl
  have hset : spec.setMethod? slot = if p.set.exists then some (p.setter slot) else none := by
    subst hspec
    rfl
  have hmethod : ∀ k g, (spec.build slot place).2[k]? = some g → methods[place + k]? = some g := by
    intro k g hg
    obtain ⟨rest, hrest⟩ := h
    rw [← List.getElem?_drop, ← hrest]
    exact List.getElem?_append_left (List.getElem?_eq_some_iff.1 hg).1 ▸ hg
  have habsent : ∀ v : Visibility, (if v.exists = true then v else .absent) = v := by
    intro v
    cases v <;> rfl
  simp only [PropertySpec.build, hget, hset] at hmethod ⊢
  refine ⟨by rw [hspec], by rw [hspec], by rw [hspec], ?_, ?_, ?_, ?_, ?_⟩
  · subst hspec
    rfl
  · subst hspec
    simpa using habsent p.get
  · subst hspec
    simpa using habsent p.set
  · by_cases hg : p.get.exists = true
    · simp only [if_pos hg] at hmethod ⊢
      exact congrArg some (hmethod 0 _ rfl)
    · simp only [if_neg hg]
      rfl
  · by_cases hs : p.set.exists = true
    · simp only [if_pos hs] at hmethod ⊢
      refine congrArg some (hmethod _ _ ?_)
      rw [List.getElem?_append_right (Nat.le_refl _), Nat.sub_self]
      rfl
    · simp only [if_neg hs]
      rfl

theorem types_declaration (t : TypeTable) (d : Descriptor) :
    (d.declaration t).fields.map (·.type) ++ (d.declaration t).properties.map (·.type) =
      d.members.map (·.type) := by
  simp only [declaration, members, List.map_append, List.map_map]
  rfl

/-- What a descriptor is built as. -/
theorem emittedAs_of_build (h : t.build (d.declaration t) = .ok m) : d.EmittedAs t m := by
  obtain ⟨-, -, cs, -, rfl⟩ := TypeTable.build_eq_ok h
  have hmethods : (t.modelOf (d.declaration t) cs).methods = (t.propertyLayout (d.declaration t)).2.1 :=
    List.append_nil _
  have hinstance : ∀ spec ∈ (d.declaration t).fields, spec.isStatic = false := by
    simp [declaration]
  have hslots : ∀ spec ∈ (d.declaration t).properties, spec.isStatic = false ∧ spec.hasSlot = true := by
    simp [declaration, PropertySpec.hasSlot]
  have hfields : t.fieldLayout (d.declaration t) = _ :=
    Layout.fields_eq_mapIdx ⟨t.inherited d.base?, []⟩ hinstance
  obtain ⟨hlast, hproperties⟩ :=
    Layout.properties_getElem? (t.fieldLayout (d.declaration t)).2 0 hslots
  refine ⟨rfl, rfl, ?_, ?_, ?_, ?_, fun i p hp => ?_, fun g hg => ?_⟩
  · trans (t.propertyLayout (d.declaration t)).2.2.slots
    · rfl
    · rw [TypeTable.propertyLayout, hlast, hfields, List.append_assoc, types_declaration]
  · trans (t.propertyLayout (d.declaration t)).2.2.statics
    · rfl
    · rw [TypeTable.propertyLayout, hlast, hfields]
  · trans (t.fieldLayout (d.declaration t)).1
    · rfl
    · rw [hfields]
      refine List.ext_getElem? fun i => ?_
      simp only [declaration, List.getElem?_mapIdx, List.getElem?_map, Option.map_map]
      rfl
  · have hlength := (Layout.forall₂_properties (t.fieldLayout (d.declaration t)).2 0
      (d.declaration t).properties).length_eq
    rw [declaration, List.length_map] at hlength
    exact hlength.symm
  · have hspec : (d.declaration t).properties[i]? =
        some ⟨p.name, effectiveType p.type p.nullable, p.get, p.set, false, .slot⟩ := by
      rw [declaration, List.getElem?_map, hp]
      rfl
    obtain ⟨place, -, hplace, haccessors⟩ := hproperties i _ hspec
    have hslot : (t.fieldLayout (d.declaration t)).2.slots.length + i =
        d.slotAt t (d.fields.length + i) := by
      rw [hfields, slotAt, declaration]
      simp [Nat.add_assoc]
    rw [hslot] at hplace haccessors
    refine ⟨_, hplace, emittedAs_build p _ place rfl ?_⟩
    rwa [hmethods]
  · rw [hmethods] at hg
    exact Layout.accessor_of_mem _ _ _ g hg

/-! ## Slots of members -/

/-- What has a slot of its own is a member, and the slot is that of its place. -/
theorem EmittedAs.exists_of_share (h : d.EmittedAs t m) {share : Share} (hs : share ∈ m.shares false) :
    ∃ i member, d.members[i]? = some member ∧ share = ⟨member.name, d.slotAt t i, member.type⟩ := by
  rcases List.mem_append.1 hs with hs | hs
  · obtain ⟨f, hf, hs⟩ := List.mem_filterMap.1 hs
    rw [h.fields] at hf
    obtain ⟨i, hi, rfl⟩ := List.mem_mapIdx.1 hf
    cases hs
    refine ⟨i, .field d.fields[i], ?_, rfl⟩
    rw [members, List.getElem?_append_left (by simpa using hi), List.getElem?_map,
      List.getElem?_eq_getElem hi]
    rfl
  · obtain ⟨q, hq, hs⟩ := List.mem_filterMap.1 hs
    obtain ⟨i, hi, rfl⟩ := List.mem_iff_getElem.1 hq
    have hlt : i < d.properties.length := h.properties_length ▸ hi
    obtain ⟨q, hq, hp⟩ := h.properties i _ (List.getElem?_eq_getElem hlt)
    obtain rfl : m.properties[i] = q := Option.some.inj ((List.getElem?_eq_getElem hi).symm.trans hq)
    rw [Property.share?, if_pos hp.isStatic, hp.backing, hp.name, hp.type] at hs
    cases hs
    refine ⟨d.fields.length + i, .property d.properties[i], ?_, rfl⟩
    rw [members, List.getElem?_append_right (by simp), List.length_map, Nat.add_sub_cancel_left,
      List.getElem?_map, List.getElem?_eq_getElem hlt]
    rfl

/-! ## The order of parameters -/

/-- The members that the constructor takes, in the order of its parameters: required fields, required
properties, optional fields, optional properties. -/
def bound (d : Descriptor) : List MemberDescriptor :=
  (d.fields.filter (·.binding == .required)).map .field ++
    (d.properties.filter (·.binding == .required)).map .property ++
      ((d.fields.filter (·.binding.default?.isSome)).map .field ++
        (d.properties.filter (·.binding.default?.isSome)).map .property)

theorem bound_eq (d : Descriptor) : d.bound = d.members.filter (·.binding == .required) ++
    d.members.filter (·.binding.default?.isSome) := by
  simp only [bound, members, List.filter_append, List.filter_map]
  rfl

theorem parameters_eq (t : TypeTable) (d : Descriptor) : d.parameters t = d.bound.map (parameterFor t) := by
  rw [bound_eq]
  rfl

theorem mem_bound_iff {member : MemberDescriptor} :
    member ∈ d.bound ↔ member ∈ d.members ∧ member.binding.isBound = true := by
  rw [bound_eq, List.mem_append, List.mem_filter, List.mem_filter, ← and_or_left, beq_iff_eq,
    ConstructorBinding.isBound_iff]

/-- No member is taken twice. -/
theorem Wellformed.nodup_bound (hd : d.Wellformed t) : d.bound.Nodup := by
  have hnames := hd.parameterMembers
  rw [parameters_eq, List.map_map] at hnames
  exact hnames.of_map _

/-- A parameter is the one for a member: it has the name that is given or made for it, the member's type, and
the default converted to that type. -/
structure IsParameterFor (t : TypeTable) (member : MemberDescriptor) (p : Parameter) : Prop where
  /-- Name. -/
  name : p.name = member.parameterName
  /-- Type. -/
  type : p.type = member.type
  /-- A required member has no default. -/
  required : member.binding = .required → p.default? = none
  /-- The default of an optional member is converted. -/
  optional : ∀ v, member.binding = .optional v →
    ∃ w, t.cast member.type v = .ok w ∧ p.default? = some w

theorem Wellformed.isParameterFor (hd : d.Wellformed t) {member : MemberDescriptor}
    (hm : member ∈ d.members) : IsParameterFor t member (parameterFor t member).toParameter := by
  refine ⟨rfl, rfl, fun hrequired => ?_, fun v hoptional => ?_⟩
  · simp [parameterFor, ConstructorParameter.toParameter, hrequired, ConstructorBinding.default?]
  · have hdefault : member.binding.default? = some v := by rw [hoptional]; rfl
    obtain ⟨w, hw⟩ := hd.default member hm v hdefault
    refine ⟨w, hw, ?_⟩
    simp [parameterFor, ConstructorParameter.toParameter, hdefault, hw]

/-! ## The constructor -/

/-- Each step is for one member: it stores the member's parameter in the member's slot. -/
theorem Wellformed.step (hd : d.Wellformed t) (hbuild : t.build (d.declaration t) = .ok m)
    {inits : List SlotInit} (hinits : d.Resolved t inits) {init : SlotInit} (h : init ∈ inits) :
    ∃ i member, d.members[i]? = some member ∧ d.bound[init.parameter]? = some member ∧
      init.slot = d.slotAt t i := by
  obtain ⟨named, hnamed, hresolve⟩ := exists_of_mem_forall₂ hinits h
  obtain ⟨q, slot, hq, -, hslot, hresolve'⟩ := hd.resolveStep hnamed
  obtain rfl := Except.ok.inj (hresolve.symm.trans hresolve')
  have hm := emittedAs_of_build hbuild
  obtain ⟨-, -, cs, -, rfl⟩ := TypeTable.build_eq_ok hbuild
  obtain ⟨i, member, hi, hshare⟩ := hm.exists_of_share (TypeTable.ownSlot?_share hslot)
  rw [parameters_eq, List.getElem?_map] at hq
  obtain ⟨member', hmember', rfl⟩ := Option.map_eq_some_iff.1 hq
  have hmem' := (mem_bound_iff.1 (List.mem_of_getElem? hmember')).1
  obtain rfl := hd.eq_of_name hmem' (List.mem_of_getElem? hi) (congrArg Share.name hshare)
  exact ⟨i, member', hi, hmember', congrArg Share.slot hshare⟩

/-- The slots of an object that was constructed with some arguments. -/
structure Stores (t : TypeTable) (d : Descriptor) (args slots : List Value) : Prop where
  /-- There are the slots of the base and one for each member. -/
  length : slots.length = (t.inherited d.base?).length + d.members.length
  /-- The slots of the base are zero. -/
  inherited : ∀ (j : Nat) (type : ValueType), (t.inherited d.base?)[j]? = some type →
    slots[j]? = some type.zero
  /-- Each argument is in the slot of the member that its parameter is for. -/
  bound : ∀ (k : Nat) (member : MemberDescriptor), d.bound[k]? = some member →
    ∃ i, d.members[i]? = some member ∧ slots[d.slotAt t i]? = args[k]?
  /-- The slots of the other members are zero. -/
  unbound : ∀ (i : Nat) (member : MemberDescriptor), d.members[i]? = some member → member ∉ d.bound →
    slots[d.slotAt t i]? = some member.type.zero

theorem EmittedAs.slotType (h : d.EmittedAs t m) {i : Nat} {member : MemberDescriptor}
    (hi : d.members[i]? = some member) : m.slotTypes[d.slotAt t i]? = some member.type := by
  rw [h.slotTypes, slotAt, List.getElem?_append_right (Nat.le_add_right ..), Nat.add_sub_cancel_left,
    List.getElem?_map, hi]
  rfl

/-- Steps that store each parameter in the slot of its member, and all of them, make such an object. -/
theorem EmittedAs.stores (hm : d.EmittedAs t m) (hnodup : d.bound.Nodup) {inits : List SlotInit}
    (hstep : ∀ init ∈ inits, ∃ i member, d.members[i]? = some member ∧
      d.bound[init.parameter]? = some member ∧ init.slot = d.slotAt t i)
    (hevery : ∀ k < d.bound.length, ∃ init ∈ inits, init.parameter = k) {M : Machine}
    (hmodel : M.types.model t.size = m) {args : List Value}
    (hargs : List.Forall₂ (fun member v => M.types.conforms member.type v = true) d.bound args) :
    ∃ ws, List.Forall₂ (M.StepWrites t.size args) inits ws ∧
      d.Stores t args ((M.zeros t.size).writes ws).slots := by
  have hwrite : ∀ init ∈ inits, ∃ w, M.StepWrites t.size args init w := by
    intro init hinit
    obtain ⟨i, member, hi, hmember, hslot⟩ := hstep init hinit
    obtain ⟨v, hv, hconf⟩ := exists_getElem?_of_forall₂ hargs hmember
    refine ⟨(init.slot, v), rfl, member.type, ?_, ?_⟩
    · rw [hmodel, hslot]
      exact hm.slotType hi
    · rw [hv]
      exact TypeTable.cast_of_conforms hconf
  obtain ⟨ws, hws⟩ := exists_forall₂ hwrite
  have hwritten : ∀ w ∈ ws, ∃ i member, d.members[i]? = some member ∧ member ∈ d.bound ∧
      w.1 = d.slotAt t i := by
    intro w hw
    obtain ⟨init, hinit, hwrites⟩ := exists_of_mem_forall₂ hws hw
    obtain ⟨i, member, hi, hmember, hslot⟩ := hstep init hinit
    exact ⟨i, member, hi, List.mem_of_getElem? hmember, hwrites.slot.trans hslot⟩
  have hzero : ∀ (j : Nat) (type : ValueType), m.slotTypes[j]? = some type → (∀ w ∈ ws, w.1 ≠ j) →
      ((M.zeros t.size).writes ws).slots[j]? = some type.zero := by
    intro j type htype hfree
    rw [Record.getElem?_writes_of_notMem hfree, Machine.zeros, hmodel, List.getElem?_map, htype]
    rfl
  refine ⟨ws, hws, ?_, fun j type htype => ?_, fun k member hmember => ?_, fun i member hi hfree => ?_⟩
  · rw [Record.length_writes, Machine.zeros, hmodel, List.length_map, hm.slotTypes]
    simp
  · have hlt : j < (t.inherited d.base?).length := (List.getElem?_eq_some_iff.1 htype).1
    refine hzero j type ?_ fun w hw hj => ?_
    · rw [hm.slotTypes, List.getElem?_append_left hlt, htype]
    · obtain ⟨i, -, -, -, hslot⟩ := hwritten w hw
      rw [hj, slotAt] at hslot
      omega
  · obtain ⟨init, hinit, rfl⟩ := hevery k (List.getElem?_eq_some_iff.1 hmember).1
    obtain ⟨i, member', hi, hmember', hslot⟩ := hstep init hinit
    obtain rfl := Option.some.inj (hmember.symm.trans hmember')
    obtain ⟨v, hv, hconf⟩ := exists_getElem?_of_forall₂ hargs hmember
    -- a step for the same slot is for the same member, and so of the same parameter
    have hsame : ∀ other ∈ inits, other.slot = init.slot → other.parameter = init.parameter := by
      intro other hother heq
      obtain ⟨i', member', hi', hmember', hslot'⟩ := hstep other hother
      obtain rfl : i' = i := by
        rw [hslot, hslot', slotAt, slotAt] at heq
        omega
      obtain rfl := Option.some.inj (hi.symm.trans hi')
      exact (List.getElem?_inj (List.getElem?_eq_some_iff.1 hmember').1 hnodup).1
        (hmember'.trans hmember.symm)
    have hlast : ∀ w ∈ ([] : List (Nat × Value)), w.1 ≠ init.slot := by simp
    obtain ⟨type, w, htype, hcast, hheld⟩ := Machine.held_of_step hws hinit hsame hlast
    rw [hmodel, hslot, hm.slotType hi] at htype
    cases htype
    rw [hv, Option.getD_some, TypeTable.cast_of_conforms hconf] at hcast
    cases hcast
    refine ⟨i, hi, ?_⟩
    rw [hv, ← hslot]
    simpa using hheld
  · refine hzero _ _ (hm.slotType hi) fun w hw hwrites => hfree ?_
    obtain ⟨i', member', hi', hmember', hslot⟩ := hwritten w hw
    obtain rfl : i' = i := by
      rw [hwrites, slotAt, slotAt] at hslot
      omega
    obtain rfl := Option.some.inj (hi.symm.trans hi')
    exact hmember'

/-- A constructor takes the bound members, in the order of their parameters, and stores each argument in the
slot of its member. -/
structure Takes (t : TypeTable) (d : Descriptor) (m : TypeModel) (c : Constructor) : Prop where
  /-- Everyone may use it. -/
  visibility : c.visibility = .open
  /-- It assigns slots. -/
  body : ∃ inits, c.body = .assign inits
  /-- Its parameters are those for the bound members. -/
  parameters : List.Forall₂ (IsParameterFor t) d.bound c.parameters
  /-- It makes an object of the type out of arguments of the parameters' types, at any time later. -/
  constructs : ∀ (M : Machine) (s : Store) (args : List Value), (t.push m).Extends M.types →
    List.Forall₂ (fun p v => M.types.conforms p.type v = true) c.parameters args →
    ∃ slots, (M.construct ⟨t.size, 1, c⟩ args).perform s =
      (.ok ⟨s.heap.size, t.size⟩, s.push ⟨t.size, slots⟩) ∧ d.Stores t args slots

theorem Wellformed.takes (hd : d.Wellformed t) (hbuild : t.build (d.declaration t) = .ok m)
    {inits : List SlotInit} (hinits : d.Resolved t inits)
    (hconstructors : m.constructors = [emptyConstructor, d.assigningConstructor t inits]) :
    d.Takes t m (d.assigningConstructor t inits) := by
  have hm := emittedAs_of_build hbuild
  have hparameters : (d.assigningConstructor t inits).parameters =
      d.bound.map fun member => (parameterFor t member).toParameter := by
    rw [assigningConstructor, parameters_eq, List.map_map]
    rfl
  refine ⟨rfl, ⟨inits, rfl⟩, ?_, fun M s args hlater hargs => ?_⟩
  · rw [hparameters, List.forall₂_map_right_iff]
    exact List.forall₂_same.2 fun member hmember => hd.isParameterFor (mem_bound_iff.1 hmember).1
  · have hmodel : M.types.model t.size = m := by
      rw [hlater.model_eq (Nat.lt_succ_self t.size), TypeTable.model_push_size]
    have hevery : ∀ k < d.bound.length, ∃ init ∈ inits, init.parameter = k := by
      intro k hk
      have hr : (t.push m).HasConstructor ⟨t.size, 1, d.assigningConstructor t inits⟩ := by
        rw [TypeTable.HasConstructor, TypeTable.model_push_size, hconstructors]
        rfl
      obtain ⟨steps, hsteps⟩ := hd.constructs hbuild (.refl _) hr rfl
      cases hsteps.body
      have hk : k < (d.assigningConstructor t inits).parameters.length := by
        rwa [hparameters, List.length_map]
      exact hsteps.stored k _ (List.getElem?_eq_getElem hk)
    rw [hparameters, List.forall₂_map_left_iff] at hargs
    obtain ⟨ws, hws, hstores⟩ := hm.stores hd.nodup_bound (fun init => hd.step hbuild hinits) hevery
      hmodel hargs
    have hlength : args.length = (d.assigningConstructor t inits).parameters.length := by
      rw [hparameters, List.length_map, hargs.length_eq]
    refine ⟨_, ?_, hstores⟩
    rw [Machine.perform_construct (r := ⟨t.size, 1, d.assigningConstructor t inits⟩) rfl hlength hws,
      Machine.writes_zeros]

/-- **An accepted descriptor is emitted as what it describes.** -/
theorem emission_realises {o : SynthesisOptions} (h : t.validate o d = .ok ()) : ∃ m,
    (∀ e : Engine, e.emit t d = .ok (t.push m, e.register d.name ⟨d.signature, t.size⟩, t.size)) ∧
    d.EmittedAs t m ∧
    ((∀ member ∈ d.members, member.binding.isBound = false) ∧ m.constructors = [emptyConstructor] ∨
      (∃ member ∈ d.members, member.binding.isBound = true) ∧
        ∃ c, m.constructors = [emptyConstructor, c] ∧ d.Takes t m c) := by
  have hd := TypeTable.wellformed_of_validate h
  obtain ⟨m, hbuild⟩ := hd.exists_build
  refine ⟨m, fun e => Engine.emit_of_build hbuild, emittedAs_of_build hbuild, ?_⟩
  obtain ⟨hnone, hconstructors⟩ | ⟨hsome, inits, hconstructors, hinits⟩ := constructors_of_build hbuild
  · refine .inl ⟨fun member hmember => Bool.eq_false_iff.2 fun hbound => ?_, hconstructors⟩
    rw [parameters_eq, List.map_eq_nil_iff] at hnone
    have hmem := mem_bound_iff.2 ⟨hmember, hbound⟩
    rw [hnone] at hmem
    cases hmem
  · rw [parameters_eq, ne_eq, List.map_eq_nil_iff] at hsome
    obtain ⟨member, hmember⟩ := List.exists_mem_of_ne_nil _ hsome
    exact .inr ⟨⟨member, mem_bound_iff.1 hmember⟩, _, hconstructors, hd.takes hbuild hinits hconstructors⟩

/-- A point that takes its coordinate is made with it. -/
theorem emission_realises_point : ∃ m c,
    (Engine.new .default).emit .empty (Engine.point .required (some "x")) =
      .ok (TypeTable.empty.push m,
        (Engine.new .default).register "Point" ⟨(Engine.point .required (some "x")).signature, 0⟩, 0) ∧
    m.slotTypes = [.int32] ∧ m.constructors = [emptyConstructor, c] ∧
    c.parameters.map (fun p => (p.name, p.type)) = [("x", .int32)] ∧
    ∀ (M : Machine) (s : Store), (TypeTable.empty.push m).Extends M.types →
      (M.construct ⟨0, 1, c⟩ [.int32 7]).perform s = (.ok ⟨s.heap.size, 0⟩, s.push ⟨0, [.int32 7]⟩) := by
  have hvalid : TypeTable.empty.validate .default (Engine.point .required (some "x")) = .ok () :=
    TypeTable.validate_of_checks rfl rfl
  obtain ⟨m, hemit, hm, ⟨hnone, -⟩ | ⟨-, c, hconstructors, hc⟩⟩ := emission_realises hvalid
  · cases hnone _ (List.mem_cons_self ..)
  · have hbound : (Engine.point .required (some "x")).bound =
        [.property ⟨"X", .int32, false, .open, .open, .required, some "x"⟩] := rfl
    obtain ⟨p, rest, hp, hrest, hparameters⟩ := List.forall₂_cons_left_iff.1 (hbound ▸ hc.parameters)
    rw [List.forall₂_nil_left_iff.1 hrest] at hparameters
    refine ⟨m, c, hemit _, hm.slotTypes, hconstructors, ?_, fun M s hlater => ?_⟩
    · rw [hparameters, List.map_singleton, hp.name, hp.type]
      rfl
    · have hargs : List.Forall₂ (fun p v => M.types.conforms p.type v = true) c.parameters [.int32 7] := by
        rw [hparameters]
        exact .cons (by rw [hp.type]; rfl) .nil
      obtain ⟨slots, hrun, hstores⟩ := hc.constructs M s _ hlater hargs
      obtain ⟨slot, rfl⟩ := List.length_eq_one_iff.1 hstores.length
      obtain ⟨i, hi, hslot⟩ := hstores.bound 0 _ rfl
      obtain rfl : i = 0 := Nat.lt_one_iff.1 (List.getElem?_eq_some_iff.1 hi).1
      cases hslot
      exact hrun

end Descriptor
end Reshape
