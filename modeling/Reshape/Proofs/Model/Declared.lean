import Reshape.Proofs.Model.Layout

/-!
# Declared types

A table of types is made by declaring one type after the other over bases that are there already
(`TypeTable.Declared`).  Every handle of such a table is sound (`Declared.sound`): its members with
slots and their types follow those of the base, accessors belong to properties, and each step of a
constructor copies a parameter into a slot that the parameter converts to.  So along a base chain
slots keep their types (`slotTypes_prefix`), and members with different names have different slots
(`name_eq_of_slot_eq`).
-/

namespace Reshape

/-- The members of a type are laid out after inherited slots, and its accessors belong to its
properties. -/
structure TypeModel.LaidOut (m : TypeModel) (inherited : List ValueType) : Prop where
  /-- The instance slots are the inherited ones and those of the type's own members. -/
  slotTypes : m.slotTypes = inherited ++ (m.shares false).map Share.type
  /-- Own members take consecutive instance slots. -/
  consecutive : Consecutive inherited.length (m.shares false)
  /-- The static slots are those of the type's own static members. -/
  staticTypes : m.staticTypes = (m.shares true).map Share.type
  /-- Own static members take consecutive static slots. -/
  staticConsecutive : Consecutive 0 (m.shares true)
  /-- The accessors of each property stand where it says. -/
  placed : ∀ p ∈ m.properties, p.Placed 0 m.methods
  /-- Each method is supplied or is the accessor of a property. -/
  accessor : ∀ g ∈ m.methods, (∃ body, g.body = .native body) ∨
    ∃ p ∈ m.properties, g.IsGetterOf p ∨ g.IsSetterOf p

namespace TypeModel.LaidOut

variable {m : TypeModel} {inherited : List ValueType}

/-- Own members of a kind have slots of their own. -/
theorem nodup_slots (h : m.LaidOut inherited) (isStatic : Bool) :
    ((m.shares isStatic).map Share.slot).Nodup := by
  cases isStatic with
  | true =>
    rw [h.staticConsecutive]
    exact List.nodup_range'
  | false =>
    rw [h.consecutive]
    exact List.nodup_range'

/-- No two own fields have one slot. -/
theorem field_eq_of_slot_eq (h : m.LaidOut inherited) {f g : Field} (hf : f ∈ m.fields)
    (hg : g ∈ m.fields) (hstatic : f.isStatic = g.isStatic) (hslot : f.slot = g.slot) : f = g := by
  have hslots : ∀ fields : List Field, (fields.filterMap (Field.share? g.isStatic)).map Share.slot =
      (fields.filter (·.isStatic == g.isStatic)).map Field.slot := by
    intro fields
    induction fields with
    | nil => rfl
    | cons f fields ih => by_cases hf : f.isStatic = g.isStatic <;> simp [Field.share?, hf, ih]
  have hnodup := h.nodup_slots g.isStatic
  rw [shares, List.map_append, hslots] at hnodup
  refine List.inj_on_of_nodup_map (List.nodup_append.1 hnodup).1 ?_ ?_ hslot
  · simp [hf, hstatic]
  · simp [hg]

/-- An own field and an own property do not have one slot. -/
theorem slot_ne_of_property (h : m.LaidOut inherited) {f : Field} {p : Property}
    (hf : f ∈ m.fields) (hp : p ∈ m.properties) (hstatic : f.isStatic = p.isStatic) :
    p.backing? ≠ some f.slot := by
  intro hslot
  have hnodup := h.nodup_slots p.isStatic
  rw [shares, List.map_append] at hnodup
  refine (List.nodup_append.1 hnodup).2.2 f.slot ?_ f.slot ?_ rfl
  · refine List.mem_map.2 ⟨⟨f.name, f.slot, f.type⟩, List.mem_filterMap.2 ⟨f, hf, ?_⟩, rfl⟩
    simp [Field.share?, hstatic]
  · refine List.mem_map.2 ⟨⟨p.name, f.slot, p.type⟩, List.mem_filterMap.2 ⟨p, hp, ?_⟩, rfl⟩
    simp [Property.share?, hslot]

end TypeModel.LaidOut

namespace TypeTable

variable {t t' : TypeTable}

/-- The instance slots that a type takes over from its base. -/
def inherited (t : TypeTable) : Option TypeId → List ValueType
  | some base => (t.model base).slotTypes
  | none => []

/-- The parameters and steps of a constructor of a type fit the type. -/
structure ConstructorSound (t : TypeTable) (slotTypes : List ValueType) (c : Constructor) :
    Prop where
  /-- Defaults belong to their parameters' types. -/
  default : ∀ p ∈ c.parameters, ∀ v, p.default? = some v → t.conforms p.type v = true
  /-- Each step copies a parameter into a slot that it converts to. -/
  step : ∀ steps, c.body = .assign steps → ∀ step ∈ steps, ∃ p type rule,
    c.parameters[step.parameter]? = some p ∧ slotTypes[step.slot]? = some type ∧
      t.implicitRule? p.type type = some rule

/-- What holds of a handle of a table that was made by declaring types. -/
structure Sound (t : TypeTable) (id : TypeId) : Prop where
  /-- A base is older. -/
  base_lt : ∀ base, (t.model id).base? = some base → base < id
  /-- Members are laid out after those of the base. -/
  laidOut : (t.model id).LaidOut (t.inherited (t.model id).base?)
  /-- Constructors fit. -/
  constructors : ∀ c ∈ (t.model id).constructors, t.ConstructorSound (t.model id).slotTypes c

/-- The tables that are made by declaring types, each over a base that is there already. -/
inductive Declared : TypeTable → Prop
  /-- No type is declared. -/
  | empty : Declared .empty
  /-- One more type is declared. -/
  | declare {t : TypeTable} {d : Declaration} {m : TypeModel} (h : Declared t)
      (hbase : ∀ base, d.base? = some base → base < t.size) (hbuild : t.build d = .ok m) :
      Declared (t.push m)

/-! ## Base chains of sound handles -/

theorem lineage_eq_self_cons {id : TypeId} (hid : id < t.size)
    (hbase : ∀ base, (t.model id).base? = some base → base < id) :
    t.lineage id = id :: (match (t.model id).base? with
      | some base => t.lineage base
      | none => []) := by
  obtain ⟨l⟩ := t
  simp only [lineage, model, size] at *
  induction l with
  | nil => simp at hid
  | cons m older ih =>
    by_cases heq : id = older.length
    · rw [lineageIn, if_pos heq]
      simp only [modelIn, if_pos heq] at hbase ⊢
      cases hb : m.base? with
      | none => rfl
      | some base =>
        have hlt : base < older.length := heq ▸ hbase base hb
        simp only [lineageIn_cons_of_ne (Nat.ne_of_lt hlt)]
    · have hlt : id < older.length := Nat.lt_of_le_of_ne (Nat.le_of_lt_succ hid) heq
      simp only [modelIn, if_neg heq] at hbase ⊢
      rw [lineageIn_cons_of_ne heq, ih hlt hbase]
      cases hb : (modelIn older id).base? with
      | none => rfl
      | some base =>
        simp only [lineageIn_cons_of_ne (Nat.ne_of_lt (Nat.lt_trans (hbase base hb) hlt))]

/-- A type derives from its base. -/
theorem Sound.isSubtype_base {id base : TypeId} (h : t.Sound id) (hid : id < t.size)
    (hbase : (t.model id).base? = some base) : t.isSubtype id base = true := by
  rw [isSubtype_iff, lineage_eq_self_cons hid h.base_lt]
  simp only [hbase]
  exact List.mem_cons_of_mem _ (self_mem_lineageIn (Nat.lt_trans (h.base_lt base hbase) hid))

/-- What a type derives from is the type itself, or something that its base derives from. -/
theorem Sound.eq_or_isSubtype_base {id level : TypeId} (h : t.Sound id) (hsub : t.isSubtype id level = true) :
    level = id ∨ ∃ base, (t.model id).base? = some base ∧ t.isSubtype base level = true := by
  have hid : id < t.size := lt_of_isSubtype hsub
  rw [isSubtype_iff, lineage_eq_self_cons hid h.base_lt] at hsub
  rcases List.mem_cons.1 hsub with heq | hsub
  · exact .inl heq
  · cases hbase : (t.model id).base? with
    | none => simp [hbase] at hsub
    | some base =>
      simp only [hbase] at hsub
      exact .inr ⟨base, rfl, isSubtype_iff.2 hsub⟩

/-- The slots of a type begin with the slots of every type on its base chain. -/
theorem slotTypes_prefix (hs : ∀ id < t.size, t.Sound id) {id level : TypeId}
    (h : t.isSubtype id level = true) :
    (t.model level).slotTypes <+: (t.model id).slotTypes := by
  induction id using Nat.strong_induction_on with
  | _ id ih =>
    have hsound := hs id (lt_of_isSubtype h)
    rcases hsound.eq_or_isSubtype_base h with rfl | ⟨base, hbase, hsub⟩
    · exact List.prefix_rfl
    · have hown : (t.model base).slotTypes <+: (t.model id).slotTypes := by
        rw [hsound.laidOut.slotTypes, hbase]
        exact List.prefix_append ..
      exact (ih base (hsound.base_lt base hbase) hsub).trans hown

theorem slotType_of_prefix (hs : ∀ id < t.size, t.Sound id) {id level : TypeId}
    (h : t.isSubtype id level = true) {slot : Nat} {type : ValueType}
    (hslot : (t.model level).slotTypes[slot]? = some type) :
    (t.model id).slotTypes[slot]? = some type := by
  obtain ⟨more, hmore⟩ := slotTypes_prefix hs h
  rw [← hmore, List.getElem?_append_left (List.getElem?_eq_some_iff.1 hslot).1]
  exact hslot

/-! ## References -/

/-- The reference is to a field of a declared type. -/
def HasField (t : TypeTable) (f : FieldRef) : Prop :=
  (t.model f.owner).fields[f.index]? = some f.field

/-- The reference is to a method of a declared type. -/
def HasMethod (t : TypeTable) (r : MethodRef) : Prop :=
  (t.model r.owner).methods[r.index]? = some r.method

/-- The reference is to a property of a declared type, with its accessors. -/
def HasProperty (t : TypeTable) (p : PropertyRef) : Prop :=
  (t.model p.owner).properties[p.index]? = some p.property ∧
    p = t.propertyRef p.owner p.index p.property

/-- The reference is to a constructor of a declared type. -/
def HasConstructor (t : TypeTable) (r : ConstructorRef) : Prop :=
  (t.model r.owner).constructors[r.index]? = some r.constructor

/-- The reference is to a data member of a declared type. -/
def HasMember (t : TypeTable) : MemberRef → Prop
  | .field f => t.HasField f
  | .property p => t.HasProperty p

theorem modelIn_of_le {l : List TypeModel} {id : TypeId} (h : l.length ≤ id) :
    modelIn l id = default := by
  induction l with
  | nil => rfl
  | cons m older ih =>
    rw [modelIn, if_neg (Nat.ne_of_gt h)]
    exact ih (Nat.le_of_succ_le h)

theorem mem_zipIdx_map {α β : Type} {l : List α} {f : α × Nat → β} {b : β}
    (h : b ∈ l.zipIdx.map f) : ∃ i a, l[i]? = some a ∧ b = f (a, i) := by
  obtain ⟨⟨a, i⟩, hmem, rfl⟩ := List.mem_map.1 h
  exact ⟨i, a, List.mem_zipIdx_iff_getElem?.1 hmem, rfl⟩

theorem HasField.mem {f : FieldRef} (h : t.HasField f) : f.field ∈ (t.model f.owner).fields :=
  List.mem_of_getElem? h

theorem HasProperty.mem {p : PropertyRef} (h : t.HasProperty p) :
    p.property ∈ (t.model p.owner).properties :=
  List.mem_of_getElem? h.1

theorem HasMethod.mem {r : MethodRef} (h : t.HasMethod r) :
    r.method ∈ (t.model r.owner).methods :=
  List.mem_of_getElem? h

theorem HasConstructor.mem {r : ConstructorRef} (h : t.HasConstructor r) :
    r.constructor ∈ (t.model r.owner).constructors :=
  List.mem_of_getElem? h

/-- Only declared types have anything to refer to. -/
theorem lt_size_of_model {id : TypeId} (h : t.model id ≠ default) : id < t.size := by
  by_contra hge
  exact h (modelIn_of_le (Nat.not_lt.1 hge))

theorem HasField.owner_lt {f : FieldRef} (h : t.HasField f) : f.owner < t.size := by
  refine lt_size_of_model fun hd => ?_
  have := h.mem
  rw [hd] at this
  exact absurd this (by simp [default, instInhabitedTypeModel.default])

theorem HasProperty.owner_lt {p : PropertyRef} (h : t.HasProperty p) : p.owner < t.size := by
  refine lt_size_of_model fun hd => ?_
  have := h.mem
  rw [hd] at this
  exact absurd this (by simp [default, instInhabitedTypeModel.default])

theorem HasMethod.owner_lt {r : MethodRef} (h : t.HasMethod r) : r.owner < t.size := by
  refine lt_size_of_model fun hd => ?_
  have := h.mem
  rw [hd] at this
  exact absurd this (by simp [default, instInhabitedTypeModel.default])

theorem HasConstructor.owner_lt {r : ConstructorRef} (h : t.HasConstructor r) :
    r.owner < t.size := by
  refine lt_size_of_model fun hd => ?_
  have := h.mem
  rw [hd] at this
  exact absurd this (by simp [default, instInhabitedTypeModel.default])

theorem HasMember.owner_lt {m : MemberRef} (h : t.HasMember m) : m.owner < t.size := by
  cases m with
  | field f => exact HasField.owner_lt h
  | property p => exact HasProperty.owner_lt h

/-! References stay references in later tables. -/

theorem HasField.mono (he : t.Extends t') {f : FieldRef} (h : t.HasField f) : t'.HasField f := by
  rw [HasField, he.model_eq h.owner_lt]
  exact h

theorem HasMethod.mono (he : t.Extends t') {r : MethodRef} (h : t.HasMethod r) :
    t'.HasMethod r := by
  rw [HasMethod, he.model_eq h.owner_lt]
  exact h

theorem HasConstructor.mono (he : t.Extends t') {r : ConstructorRef} (h : t.HasConstructor r) :
    t'.HasConstructor r := by
  rw [HasConstructor, he.model_eq h.owner_lt]
  exact h

theorem HasProperty.mono (he : t.Extends t') {p : PropertyRef} (h : t.HasProperty p) :
    t'.HasProperty p := by
  have hmodel := he.model_eq h.owner_lt
  have hmethod : t'.methodAt? p.owner = t.methodAt? p.owner := by
    funext place
    rw [methodAt?, methodAt?, hmodel]
  refine ⟨hmodel ▸ h.1, h.2.trans ?_⟩
  rw [propertyRef, propertyRef, hmethod]

theorem HasMember.mono (he : t.Extends t') {m : MemberRef} (h : t.HasMember m) :
    t'.HasMember m := by
  cases m with
  | field f => exact HasField.mono he h
  | property p => exact HasProperty.mono he h

/-! ## Finding members -/

theorem HasMember.of_mem_ownMembers {owner : TypeId} {m : MemberRef}
    (h : m ∈ t.ownMembers owner) : t.HasMember m ∧ m.owner = owner := by
  rcases List.mem_append.1 h with h | h
  · obtain ⟨p, hp, rfl⟩ := List.mem_map.1 h
    obtain ⟨i, a, hi, rfl⟩ := mem_zipIdx_map hp
    exact ⟨⟨hi, rfl⟩, rfl⟩
  · obtain ⟨f, hf, rfl⟩ := List.mem_map.1 h
    obtain ⟨i, a, hi, rfl⟩ := mem_zipIdx_map hf
    exact ⟨hi, rfl⟩

theorem HasMember.mem_ownMembers {m : MemberRef} (h : t.HasMember m) : m ∈ t.ownMembers m.owner := by
  cases m with
  | field f =>
    refine List.mem_append_right _ (List.mem_map_of_mem (List.mem_map.2 ⟨(f.field, f.index), ?_, rfl⟩))
    exact List.mem_zipIdx_iff_getElem?.2 h
  | property p =>
    refine List.mem_append_left _ (List.mem_map_of_mem
      (List.mem_map.2 ⟨(p.property, p.index), List.mem_zipIdx_iff_getElem?.2 h.1, ?_⟩))
    exact h.2.symm

/-- The walk over a base chain meets the members that the types on it declare. -/
theorem mem_flatMap_ownMembers {id : TypeId} {m : MemberRef} :
    m ∈ (t.lineage id).flatMap t.ownMembers ↔ t.HasMember m ∧ t.isSubtype id m.owner = true := by
  constructor
  · intro h
    obtain ⟨level, hlevel, hm⟩ := List.mem_flatMap.1 h
    obtain ⟨hmember, howner⟩ := HasMember.of_mem_ownMembers hm
    exact ⟨hmember, howner ▸ isSubtype_iff.2 hlevel⟩
  · rintro ⟨hmember, hsub⟩
    exact List.mem_flatMap.2 ⟨m.owner, isSubtype_iff.1 hsub, hmember.mem_ownMembers⟩

theorem exists_mem_ownMembers_field {id : TypeId} {f : Field} (h : f ∈ (t.model id).fields) :
    ∃ place, .field ⟨id, place, f⟩ ∈ t.ownMembers id := by
  obtain ⟨place, hplace⟩ := List.mem_iff_getElem?.1 h
  refine ⟨place, List.mem_append_right _ (List.mem_map_of_mem ?_)⟩
  exact List.mem_map.2 ⟨(f, place), List.mem_zipIdx_iff_getElem?.2 hplace, rfl⟩

theorem exists_mem_ownMembers_property {id : TypeId} {p : Property}
    (h : p ∈ (t.model id).properties) :
    ∃ place, .property (t.propertyRef id place p) ∈ t.ownMembers id := by
  obtain ⟨place, hplace⟩ := List.mem_iff_getElem?.1 h
  refine ⟨place, List.mem_append_left _ (List.mem_map_of_mem ?_)⟩
  exact List.mem_map.2 ⟨(p, place), List.mem_zipIdx_iff_getElem?.2 hplace, rfl⟩

/-- The names of own members, properties first. -/
theorem map_name_ownMembers (t : TypeTable) (id : TypeId) :
    (t.ownMembers id).map MemberRef.name =
      (t.model id).properties.map (·.name) ++ (t.model id).fields.map (·.name) := by
  simp only [ownMembers, ownProperties, ownFields, List.map_append, List.map_map]
  congr 1
  · conv_rhs => rw [← List.zipIdx_map_fst 0 (t.model id).properties, List.map_map]
    rfl
  · conv_rhs => rw [← List.zipIdx_map_fst 0 (t.model id).fields, List.map_map]
    rfl

/-- A level is searched for one list of members, properties first. -/
theorem findMember?_eq_findSome? (t : TypeTable) (id : TypeId) (name : String) :
    t.findMember? id name =
      (t.lineage id).findSome? fun level => (t.ownMembers level).find? (·.name == name) := by
  refine congrArg (List.findSome? · (t.lineage id)) (funext fun level => ?_)
  have hproperty : (t.ownProperties level).find? ((·.name == name) ∘ MemberRef.property) =
      (t.ownProperties level).find? (·.property.name == name) := rfl
  have hfield : (t.ownFields level).find? ((·.name == name) ∘ MemberRef.field) =
      (t.ownFields level).find? (·.field.name == name) := rfl
  rw [ownMembers, List.find?_append, List.find?_map, List.find?_map, hproperty, hfield]
  cases (t.ownProperties level).find? (·.property.name == name) <;> rfl

/-- Lookup finds the first member of a name on the walk over the base chain. -/
theorem findMember?_eq_find? (t : TypeTable) (id : TypeId) (name : String) :
    t.findMember? id name = ((t.lineage id).flatMap t.ownMembers).find? (·.name == name) := by
  rw [findMember?_eq_findSome?, List.find?_flatMap]

/-- A member that is found by name is a member of that name, of the type or of a base. -/
theorem findMember?_spec {id : TypeId} {name : String} {m : MemberRef}
    (h : t.findMember? id name = some m) :
    t.HasMember m ∧ t.isSubtype id m.owner = true ∧ m.name = name := by
  rw [findMember?_eq_find?] at h
  obtain ⟨hmember, hsub⟩ := mem_flatMap_ownMembers.1 (List.mem_of_find?_eq_some h)
  exact ⟨hmember, hsub, by simpa using List.find?_some h⟩

/-- Among members with different names, what is found by a name is the member of that name. -/
theorem find?_name_eq_some_iff {l : List MemberRef} (hnodup : (l.map MemberRef.name).Nodup) {name : String}
    {m : MemberRef} : l.find? (·.name == name) = some m ↔ m ∈ l ∧ m.name = name := by
  constructor
  · intro h
    exact ⟨List.mem_of_find?_eq_some h, by simpa using List.find?_some h⟩
  · rintro ⟨hm, rfl⟩
    cases h : l.find? (·.name == m.name) with
    | none => exact absurd (beq_self_eq_true m.name) (List.find?_eq_none.1 h m hm)
    | some other =>
      have hname : other.name = m.name := by simpa using List.find?_some h
      rw [List.inj_on_of_nodup_map hnodup (List.mem_of_find?_eq_some h) hm hname]

/-- An own member is found by its name, if own members have different names. -/
theorem findMember?_of_own {id : TypeId} {rest : List TypeId} (hlineage : t.lineage id = id :: rest)
    (hnodup : ((t.ownMembers id).map MemberRef.name).Nodup) {m : MemberRef} (hm : m ∈ t.ownMembers id) :
    t.findMember? id m.name = some m := by
  rw [findMember?_eq_findSome?, hlineage, List.findSome?_cons, (find?_name_eq_some_iff hnodup).2 ⟨hm, rfl⟩]

/-- Keeping the first member of each name only leaves members out. -/
theorem firstOfEachName_sublist (seen : List String) (l : List MemberRef) :
    (firstOfEachName seen l).Sublist l := by
  induction l generalizing seen with
  | nil => exact .slnil
  | cons m rest ih =>
    rw [firstOfEachName]
    split
    · exact (ih seen).cons m
    · exact (ih (m.name :: seen)).cons_cons m

theorem mem_members_spec {id : TypeId} {m : MemberRef} (h : m ∈ t.members id) :
    t.HasMember m ∧ t.isSubtype id m.owner = true :=
  mem_flatMap_ownMembers.1 ((firstOfEachName_sublist _ _).subset h)

/-! ## Finding members in later tables -/

theorem Extends.ownProperties_eq (he : t.Extends t') {id : TypeId} (hid : id < t.size) :
    t'.ownProperties id = t.ownProperties id := by
  have hmethod : t'.methodAt? id = t.methodAt? id := by
    funext place
    rw [methodAt?, methodAt?, he.model_eq hid]
  simp only [ownProperties, propertyRef, he.model_eq hid, hmethod]

theorem Extends.ownFields_eq (he : t.Extends t') {id : TypeId} (hid : id < t.size) :
    t'.ownFields id = t.ownFields id := by
  simp only [ownFields, he.model_eq hid]

theorem Extends.ownMembers_eq (he : t.Extends t') {id : TypeId} (hid : id < t.size) :
    t'.ownMembers id = t.ownMembers id := by
  rw [ownMembers, he.ownProperties_eq hid, he.ownFields_eq hid, ownMembers]

/-- A name leads to the same member in later tables. -/
theorem Extends.findMember?_eq (he : t.Extends t') {id : TypeId} (hid : id < t.size) (name : String) :
    t'.findMember? id name = t.findMember? id name := by
  have hwalk : (t.lineage id).flatMap t'.ownMembers = (t.lineage id).flatMap t.ownMembers :=
    List.flatMap_congr fun level hlevel => he.ownMembers_eq (lt_of_mem_lineage hlevel)
  rw [findMember?_eq_find?, findMember?_eq_find?, he.lineage_eq hid, hwalk]

/-! ## Building -/

/-- The fields of a declaration laid out after the inherited slots. -/
def fieldLayout (t : TypeTable) (d : Declaration) : List Field × Layout :=
  Layout.fields ⟨t.inherited d.base?, []⟩ d.fields

/-- The properties of a declaration laid out after its fields. -/
def propertyLayout (t : TypeTable) (d : Declaration) : List Property × List Method × Layout :=
  (t.fieldLayout d).2.properties 0 d.properties

/-- The constructors that a declaration asks for. -/
def constructorSpecs (d : Declaration) : List ConstructorSpec :=
  if d.constructors.isEmpty then [ConstructorSpec.parameterless] else d.constructors

/-- The model of a declaration with its constructors. -/
def modelOf (t : TypeTable) (d : Declaration) (constructors : List Constructor) : TypeModel where
  name := d.name
  origin := d.origin
  base? := d.base?
  interfaces := sortedNames d.interfaces
  attributes := d.attributes
  fields := (t.fieldLayout d).1
  properties := (t.propertyLayout d).1
  methods := (t.propertyLayout d).2.1 ++ d.methods.map MethodSpec.build
  constructors := constructors
  slotTypes := (t.propertyLayout d).2.2.slots
  staticTypes := (t.propertyLayout d).2.2.statics

/-- What a declaration is built to: the member names pass their check, and each constructor is
built over the laid-out members. -/
theorem build_eq_ok {d : Declaration} {m : TypeModel} (h : t.build d = .ok m) :
    d.name.isEmpty = false ∧
    checkMemberNames d.name [] (d.fields.map (·.name) ++ d.properties.map (·.name)) = .ok () ∧
    ∃ constructors, List.Forall₂ (fun spec c =>
        t.buildConstructor d (t.fieldLayout d).1 (t.propertyLayout d).1 spec = .ok c)
        (constructorSpecs d) constructors ∧ m = t.modelOf d constructors := by
  rw [build] at h
  by_cases hname : d.name.isEmpty = true
  · rw [if_pos hname] at h
    cases h
  · rw [if_neg hname] at h
    obtain ⟨_, hnames, h⟩ := bind_eq_ok.1 h
    obtain ⟨constructors, hcs, h⟩ := bind_eq_ok.1 h
    cases h
    exact ⟨by simpa using hname, hnames, constructors, mapM_eq_ok.1 hcs, rfl⟩

theorem laidOut_modelOf (d : Declaration) (constructors : List Constructor) :
    (t.modelOf d constructors).LaidOut (t.inherited d.base?) := by
  have hgrows := (Layout.grows_fields ⟨t.inherited d.base?, []⟩ d.fields).trans
    (Layout.grows_properties (t.fieldLayout d).2 0 d.properties)
  obtain ⟨htypes, hcons⟩ := hgrows false
  obtain ⟨hstatic, hstaticCons⟩ := hgrows true
  refine ⟨htypes, hcons, ?_, hstaticCons, ?_, ?_⟩
  · simpa [Layout.types, TypeModel.shares, modelOf, propertyLayout, fieldLayout] using hstatic
  · intro p hp
    exact (Layout.properties_placed _ _ _ p hp).append_right
  · intro g hg
    rcases List.mem_append.1 hg with hg | hg
    · exact .inr (Layout.accessor_of_mem _ _ _ g hg)
    · obtain ⟨spec, -, rfl⟩ := List.mem_map.1 hg
      exact .inl ⟨spec.body, rfl⟩

/-! ## Members with slots -/

end TypeTable

/-- The share of a member among the static or among the instance slots. -/
def MemberRef.share? (isStatic : Bool) : MemberRef → Option Share
  | .field f => f.field.share? isStatic
  | .property p => p.property.share? isStatic

/-- A member with an instance slot has that slot as its share. -/
theorem MemberRef.share?_of_backingSlot? {m : MemberRef} {slot : Nat}
    (h : m.backingSlot? = some slot) : m.share? false = some ⟨m.name, slot, m.type⟩ := by
  cases m with
  | field f =>
    simp only [backingSlot?] at h
    split at h
    · cases h
    · rename_i hs
      cases h
      simp [share?, Field.share?, name, type, hs]
  | property p =>
    simp only [backingSlot?] at h
    split at h
    · cases h
    · rename_i hs
      simp [share?, Property.share?, name, type, hs, h]

namespace TypeTable

variable {t t' : TypeTable}

theorem HasMember.share_mem {m : MemberRef} (h : t.HasMember m) {isStatic : Bool} {share : Share}
    (hs : m.share? isStatic = some share) : share ∈ (t.model m.owner).shares isStatic := by
  cases m with
  | field f => exact List.mem_append_left _ (List.mem_filterMap.2 ⟨f.field, HasField.mem h, hs⟩)
  | property p =>
    exact List.mem_append_right _ (List.mem_filterMap.2 ⟨p.property, HasProperty.mem h, hs⟩)

/-- A share is that of an own member. -/
theorem exists_share?_of_mem_shares {id : TypeId} {isStatic : Bool} {share : Share}
    (h : share ∈ (t.model id).shares isStatic) : ∃ m ∈ t.ownMembers id, m.share? isStatic = some share := by
  rcases List.mem_append.1 h with h | h
  · obtain ⟨f, hf, h⟩ := List.mem_filterMap.1 h
    obtain ⟨place, hown⟩ := exists_mem_ownMembers_field hf
    exact ⟨_, hown, h⟩
  · obtain ⟨p, hp, h⟩ := List.mem_filterMap.1 h
    obtain ⟨place, hown⟩ := exists_mem_ownMembers_property hp
    exact ⟨_, hown, h⟩

/-- The share of an instance slot is that of an own member with the slot. -/
theorem exists_of_mem_shares {id : TypeId} {share : Share}
    (h : share ∈ (t.model id).shares false) : ∃ m ∈ t.ownMembers id,
      m.name = share.name ∧ m.type = share.type ∧ m.backingSlot? = some share.slot := by
  obtain ⟨m, hown, h⟩ := exists_share?_of_mem_shares h
  refine ⟨m, hown, ?_⟩
  cases m with
  | field f =>
    obtain ⟨hstatic, h⟩ := Option.ite_none_right_eq_some.1 h
    cases h
    exact ⟨rfl, rfl, by simp [MemberRef.backingSlot?, hstatic]⟩
  | property p =>
    obtain ⟨hstatic, h⟩ := Option.ite_none_right_eq_some.1 h
    obtain ⟨slot, hslot, rfl⟩ := Option.map_eq_some_iff.1 h
    exact ⟨rfl, rfl, by simp [MemberRef.backingSlot?, hstatic, hslot]⟩

/-- The slot of a member has the member's type. -/
theorem slotType_of_backingSlot? {m : MemberRef} (h : t.HasMember m) (hs : t.Sound m.owner)
    {slot : Nat} (hslot : m.backingSlot? = some slot) :
    (t.model m.owner).slotTypes[slot]? = some m.type := by
  have hmem := h.share_mem (MemberRef.share?_of_backingSlot? hslot)
  rw [hs.laidOut.slotTypes]
  exact hs.laidOut.consecutive.getElem? hmem

/-- Members that share a slot of a type and its bases belong to one type. -/
theorem owner_eq_of_slot_eq (hs : ∀ id < t.size, t.Sound id) {id : TypeId} {a b : MemberRef}
    (ha : t.HasMember a) (hb : t.HasMember b) (hia : t.isSubtype id a.owner = true)
    (hib : t.isSubtype id b.owner = true) {slot : Nat} (hsa : a.backingSlot? = some slot)
    (hsb : b.backingSlot? = some slot) : a.owner = b.owner := by
  have hslota := slotType_of_backingSlot? ha (hs _ ha.owner_lt) hsa
  have hslotb := slotType_of_backingSlot? hb (hs _ hb.owner_lt) hsb
  -- an own slot lies behind all slots of the base, so the owners cannot differ
  have hown : ∀ {low high : MemberRef}, t.HasMember high → t.isSubtype high.owner low.owner = true →
      high.owner ≠ low.owner → high.backingSlot? = some slot →
      (t.model low.owner).slotTypes[slot]? = some low.type → False := by
    intro low high hhigh hsub hne hslot hlow
    have hsound := hs _ hhigh.owner_lt
    have hmem := hhigh.share_mem (MemberRef.share?_of_backingSlot? hslot)
    have hle := hsound.laidOut.consecutive.le_slot hmem
    rcases hsound.eq_or_isSubtype_base hsub with heq | ⟨base, hbase, hsub⟩
    · exact hne heq.symm
    · have hpre := slotTypes_prefix hs hsub
      have hlt := (List.getElem?_eq_some_iff.1 hlow).1
      rw [hbase] at hle
      exact absurd (Nat.lt_of_lt_of_le hlt (hpre.length_le.trans hle)) (Nat.lt_irrefl _)
  by_contra heq
  rw [isSubtype_iff] at hia hib
  rcases List.suffix_or_suffix_of_suffix (lineageIn_suffix hia) (lineageIn_suffix hib) with h | h
  · exact hown hb (isSubtype_iff.2 (h.subset (self_mem_lineageIn ha.owner_lt)))
      (fun h => heq h.symm) hsb hslota
  · exact hown ha (isSubtype_iff.2 (h.subset (self_mem_lineageIn hb.owner_lt))) heq hsa hslotb

/-- Members of one name only share a slot of a type and its bases. -/
theorem name_eq_of_slot_eq (hs : ∀ id < t.size, t.Sound id) {id : TypeId} {a b : MemberRef}
    (ha : t.HasMember a) (hb : t.HasMember b) (hia : t.isSubtype id a.owner = true)
    (hib : t.isSubtype id b.owner = true) {slot : Nat} (hsa : a.backingSlot? = some slot)
    (hsb : b.backingSlot? = some slot) : a.name = b.name := by
  have hmema := ha.share_mem (MemberRef.share?_of_backingSlot? hsa)
  have hmemb := hb.share_mem (MemberRef.share?_of_backingSlot? hsb)
  rw [owner_eq_of_slot_eq hs ha hb hia hib hsa hsb] at hmema
  have hsound := hs _ hb.owner_lt
  exact congrArg Share.name (hsound.laidOut.consecutive.eq_of_slot_eq hmema hmemb rfl)

/-! ## Constructors -/

theorem checkParameters_default {type : String} {seen : List String} {parameters : List Parameter}
    (h : t.checkParameters type seen parameters = .ok ()) :
    ∀ p ∈ parameters, ∀ v, p.default? = some v → t.conforms p.type v = true := by
  induction parameters generalizing seen with
  | nil => simp
  | cons p rest ih =>
    rw [checkParameters] at h
    obtain ⟨-, h⟩ := guard_eq_ok.1 h
    intro q hq v hv
    split at h
    · rename_i w hw
      split at h
      · rename_i hconf
        rcases List.mem_cons.1 hq with rfl | hq
        · rw [hw] at hv
          cases hv
          exact hconf
        · exact ih h q hq v hv
      · cases h
    · rename_i hnone
      rcases List.mem_cons.1 hq with rfl | hq
      · rw [hnone] at hv
        cases hv
      · exact ih h q hq v hv

/-- A member name that resolves to an own slot resolves to the share of a member of that name. -/
theorem ownSlot?_share {fields : List Field} {properties : List Property} {member : String}
    {slot : Nat} {type : ValueType} (h : ownSlot? fields properties member = some (slot, type)) :
    (⟨member, slot, type⟩ : Share) ∈
      fields.filterMap (Field.share? false) ++ properties.filterMap (Property.share? false) := by
  unfold ownSlot? at h
  split at h
  · rename_i f hf
    cases h
    have hname := List.find?_some hf
    simp only [Bool.and_eq_true, beq_iff_eq, Bool.not_eq_true'] at hname
    refine List.mem_append_left _ (List.mem_filterMap.2 ⟨f, List.mem_of_find?_eq_some hf, ?_⟩)
    simp [Field.share?, hname]
  · obtain ⟨p, hp, h⟩ := Option.bind_eq_some_iff.1 h
    obtain ⟨s, hs, h⟩ := Option.map_eq_some_iff.1 h
    cases h
    have hname := List.find?_some hp
    simp only [Bool.and_eq_true, beq_iff_eq, Bool.not_eq_true'] at hname
    refine List.mem_append_right _ (List.mem_filterMap.2 ⟨p, List.mem_of_find?_eq_some hp, ?_⟩)
    simp [Property.share?, hname, hs]

/-- The slot that a member name resolves to has the type that is resolved with it. -/
theorem slotType_of_resolveSlot? (hs : ∀ id < t.size, t.Sound id) {d : Declaration}
    (constructors : List Constructor) {member : String} {slot : Nat} {type : ValueType}
    (h : t.resolveSlot? d.base? (t.fieldLayout d).1 (t.propertyLayout d).1 member =
      some (slot, type)) :
    (t.modelOf d constructors).slotTypes[slot]? = some type := by
  have hlaid := laidOut_modelOf (t := t) d constructors
  rw [hlaid.slotTypes]
  unfold resolveSlot? at h
  split at h
  · rename_i found hfound
    cases h
    exact hlaid.consecutive.getElem? (ownSlot?_share hfound)
  · obtain ⟨base, hbase, h⟩ := Option.bind_eq_some_iff.1 h
    obtain ⟨m, hm, h⟩ := Option.bind_eq_some_iff.1 h
    obtain ⟨s, hslot, h⟩ := Option.map_eq_some_iff.1 h
    cases h
    obtain ⟨hmem, hsub, -⟩ := findMember?_spec hm
    have hown := slotType_of_backingSlot? hmem (hs _ hmem.owner_lt) hslot
    have hinherited := slotType_of_prefix hs hsub hown
    rw [hbase, inherited, List.getElem?_append_left (List.getElem?_eq_some_iff.1 hinherited).1]
    exact hinherited

theorem constructorSound_of_buildConstructor (hs : ∀ id < t.size, t.Sound id) {d : Declaration}
    (constructors : List Constructor) {spec : ConstructorSpec} {c : Constructor}
    (h : t.buildConstructor d (t.fieldLayout d).1 (t.propertyLayout d).1 spec = .ok c) :
    t.ConstructorSound (t.modelOf d constructors).slotTypes c := by
  obtain ⟨_, hparameters, h⟩ := bind_eq_ok.1 h
  split at h
  · cases h
    exact ⟨checkParameters_default hparameters, by simp⟩
  · obtain ⟨resolved, hresolved, h⟩ := bind_eq_ok.1 h
    cases h
    refine ⟨checkParameters_default hparameters, ?_⟩
    intro steps hsteps step hstep
    cases hsteps
    obtain ⟨named, -, hnamed⟩ := exists_of_mem_forall₂ (mapM_eq_ok.1 hresolved) hstep
    unfold resolveStep at hnamed
    split at hnamed
    · cases hnamed
    · rename_i p hp
      split at hnamed
      · cases hnamed
      · rename_i slot type hslot
        split at hnamed
        · cases hnamed
        · rename_i rule hrule
          cases hnamed
          exact ⟨p, type, rule, hp, slotType_of_resolveSlot? hs constructors hslot, hrule⟩

theorem ConstructorSound.mono (he : t.Extends t') {slotTypes : List ValueType} {c : Constructor}
    (h : t.ConstructorSound slotTypes c) : t'.ConstructorSound slotTypes c := by
  refine ⟨fun p hp v hv => conforms_mono he (h.default p hp v hv), ?_⟩
  intro steps hsteps step hstep
  obtain ⟨p, type, rule, hp, hslot, hrule⟩ := h.step steps hsteps step hstep
  exact ⟨p, type, rule, hp, hslot, implicitRule?_mono he hrule⟩

/-! ## The tables that declaring makes -/

theorem Sound.mono (he : t.Extends t') {id : TypeId} (hid : id < t.size) (h : t.Sound id) :
    t'.Sound id := by
  have hmodel := he.model_eq hid
  constructor
  · rw [hmodel]
    exact h.base_lt
  · have hinherited : t'.inherited (t.model id).base? = t.inherited (t.model id).base? := by
      cases hb : (t.model id).base? with
      | none => rfl
      | some base =>
        have hlt : base < t.size := Nat.lt_trans (h.base_lt base hb) hid
        simp only [inherited, he.model_eq hlt]
    rw [hmodel, hinherited]
    exact h.laidOut
  · rw [hmodel]
    exact fun c hc => (h.constructors c hc).mono he

/-- Every handle of a table that was made by declaring types is sound. -/
theorem Declared.sound (h : t.Declared) : ∀ id < t.size, t.Sound id := by
  induction h with
  | empty => exact fun id hid => absurd hid (Nat.not_lt_zero id)
  | @declare t d m _ hbase hbuild ih =>
    intro id hid
    obtain ⟨-, -, constructors, hconstructors, rfl⟩ := build_eq_ok hbuild
    have he := extends_push t (t.modelOf d constructors)
    rcases Nat.lt_or_eq_of_le (Nat.le_of_lt_succ hid) with hlt | heq
    · exact (ih id hlt).mono he hlt
    · have heq : id = t.size := heq
      subst heq
      have hinherited : (t.push (t.modelOf d constructors)).inherited d.base? =
          t.inherited d.base? := by
        cases hb : d.base? with
        | none => rfl
        | some base => simp only [inherited, he.model_eq (hbase base hb)]
      constructor
      · rw [model_push_size]
        exact hbase
      · rw [model_push_size]
        exact hinherited ▸ laidOut_modelOf d constructors
      · rw [model_push_size]
        intro c hc
        obtain ⟨spec, -, hspec⟩ := exists_of_mem_forall₂ hconstructors hc
        exact (constructorSound_of_buildConstructor ih constructors hspec).mono he

end TypeTable
end Reshape
