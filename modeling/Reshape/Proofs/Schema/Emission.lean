import Reshape.Proofs.Model.Declared
import Reshape.Proofs.Schema.Validation
import Reshape.Schema.Engine

/-!
# Emission

A well-formed descriptor is always emitted (`Descriptor.exists_build`), and the model that comes of
it has the fields, properties and constructor parameters of the descriptor, each with its type, its
flags and its accessors (`Descriptor.Realised`, `Descriptor.realised_of_build`).
-/

namespace Reshape

/-! ## Checks that pass -/

theorem checkMemberNames_eq_ok {type : String} {seen names : List String}
    (hnamed : ∀ name ∈ names, name.isEmpty = false) (hnodup : names.Nodup)
    (hseen : ∀ name ∈ names, name ∉ seen) : checkMemberNames type seen names = .ok () := by
  induction names generalizing seen with
  | nil => rfl
  | cons name rest ih =>
    obtain ⟨hnotin, hnodup⟩ := List.nodup_cons.1 hnodup
    rw [checkMemberNames, if_neg (by simp [hnamed name (List.mem_cons_self ..)]),
      if_neg (by simpa using hseen name (List.mem_cons_self ..))]
    refine ih (fun other hother => hnamed other (List.mem_cons_of_mem _ hother)) hnodup ?_
    intro other hother hmem
    rcases List.mem_cons.1 hmem with rfl | hmem
    · exact hnotin hother
    · exact hseen other (List.mem_cons_of_mem _ hother) hmem

namespace TypeTable

variable {t : TypeTable}

theorem checkParameters_eq_ok {type : String} {seen : List String} {parameters : List Parameter}
    (hnodup : (parameters.map (·.name)).Nodup) (hseen : ∀ p ∈ parameters, p.name ∉ seen)
    (hdefault : ∀ p ∈ parameters, ∀ v, p.default? = some v → t.conforms p.type v = true) :
    t.checkParameters type seen parameters = .ok () := by
  induction parameters generalizing seen with
  | nil => rfl
  | cons p rest ih =>
    obtain ⟨hnotin, hnodup⟩ := List.nodup_cons.1 hnodup
    have hrest : t.checkParameters type (p.name :: seen) rest = .ok () := by
      refine ih hnodup ?_ fun q hq => hdefault q (List.mem_cons_of_mem _ hq)
      intro q hq hmem
      rcases List.mem_cons.1 hmem with heq | hmem
      · exact hnotin (List.mem_map.2 ⟨q, hq, heq⟩)
      · exact hseen q (List.mem_cons_of_mem _ hq) hmem
    rw [checkParameters, if_neg (by simpa using hseen p (List.mem_cons_self ..))]
    split
    · rename_i v hv
      rw [if_pos (hdefault p (List.mem_cons_self ..) v hv)]
      exact hrest
    · exact hrest

end TypeTable

namespace Descriptor

variable {t : TypeTable} {d : Descriptor}

/-! ## Members -/

theorem names_declaration (t : TypeTable) (d : Descriptor) :
    (d.declaration t).fields.map (·.name) ++ (d.declaration t).properties.map (·.name) =
      d.members.map (·.name) := by
  simp only [declaration, members, List.map_append, List.map_map]
  rfl

/-- Members are told apart by their names. -/
theorem Wellformed.eq_of_name (hd : d.Wellformed t) {a b : MemberDescriptor} (ha : a ∈ d.members)
    (hb : b ∈ d.members) (h : a.name = b.name) : a = b :=
  List.inj_on_of_nodup_map hd.memberNames ha hb h

theorem mem_members_field {f : FieldDescriptor} : .field f ∈ d.members ↔ f ∈ d.fields := by
  simp [members]

theorem mem_members_property {p : PropertyDescriptor} :
    .property p ∈ d.members ↔ p ∈ d.properties := by
  simp [members]

/-- A field that is laid out comes from a field of the descriptor. -/
theorem exists_of_mem_fieldLayout {f : Field} (h : f ∈ (t.fieldLayout (d.declaration t)).1) :
    ∃ m ∈ d.members, m.kind = .field ∧ f.name = m.name ∧ f.type = m.type := by
  obtain ⟨spec, hspec, slot, rfl⟩ := exists_of_mem_forall₂ (Layout.forall₂_fields _ _) h
  obtain ⟨g, hg, rfl⟩ := List.mem_map.1 hspec
  exact ⟨.field g, mem_members_field.2 hg, rfl, rfl, rfl⟩

/-- A property that is laid out comes from a property of the descriptor. -/
theorem exists_of_mem_propertyLayout {p : Property}
    (h : p ∈ (t.propertyLayout (d.declaration t)).1) :
    (∃ m ∈ d.members, p.name = m.name ∧ p.type = m.type) ∧ ∃ slot, p.backing? = some slot := by
  obtain ⟨spec, hspec, slot, place, rfl⟩ :=
    exists_of_mem_forall₂ (Layout.forall₂_properties _ _ _) h
  obtain ⟨q, hq, rfl⟩ := List.mem_map.1 hspec
  exact ⟨⟨.property q, mem_members_property.2 hq, rfl, rfl⟩, slot, rfl⟩

/-- Every member has a slot of its own type. -/
theorem Wellformed.ownSlot? (hd : d.Wellformed t) {m : MemberDescriptor} (hm : m ∈ d.members) :
    ∃ slot, TypeTable.ownSlot? (t.fieldLayout (d.declaration t)).1
      (t.propertyLayout (d.declaration t)).1 m.name = some (slot, m.type) := by
  rw [TypeTable.ownSlot?]
  split
  · rename_i f hf
    obtain ⟨m', hm', -, hname, htype⟩ := exists_of_mem_fieldLayout (List.mem_of_find?_eq_some hf)
    have hfound := List.find?_some hf
    simp only [Bool.and_eq_true, beq_iff_eq] at hfound
    have heq := hd.eq_of_name hm' hm (hname.symm.trans hfound.1)
    exact ⟨f.slot, by rw [htype, heq]⟩
  · rename_i hnone
    cases m with
    | field f =>
      -- the field itself would have been found
      exfalso
      have hspec : (⟨f.name, effectiveType f.type f.nullable, f.visibility, false, f.initOnly⟩ :
          FieldSpec) ∈ (d.declaration t).fields :=
        List.mem_map_of_mem (mem_members_field.1 hm)
      obtain ⟨g, hg, slot, rfl⟩ := exists_of_mem_forall₂
        (Layout.forall₂_fields ⟨t.inherited (d.declaration t).base?, []⟩ _).flip hspec
      exact List.find?_eq_none.1 hnone _ hg (by simp [MemberDescriptor.name])
    | property p =>
      have hspec : (⟨p.name, effectiveType p.type p.nullable, p.get, p.set, false, .slot⟩ :
          PropertySpec) ∈ (d.declaration t).properties :=
        List.mem_map_of_mem (mem_members_property.1 hm)
      obtain ⟨q, hq, slot, place, rfl⟩ := exists_of_mem_forall₂
        (Layout.forall₂_properties (t.fieldLayout (d.declaration t)).2 0 _).flip hspec
      cases hfound : (t.propertyLayout (d.declaration t)).1.find?
          fun r => r.name == MemberDescriptor.name (.property p) && !r.isStatic with
      | none =>
        exact absurd (List.find?_eq_none.1 hfound _ hq)
          (by simp [MemberDescriptor.name, PropertySpec.build])
      | some r =>
        obtain ⟨⟨m', hm', hname, htype⟩, slot', hslot'⟩ :=
          exists_of_mem_propertyLayout (List.mem_of_find?_eq_some hfound)
        have hr := List.find?_some hfound
        simp only [Bool.and_eq_true, beq_iff_eq] at hr
        have heq := hd.eq_of_name hm' hm (hname.symm.trans hr.1)
        exact ⟨slot', by rw [Option.bind_some, hslot', Option.map_some, htype, heq]⟩

/-! ## Constructors -/

theorem exists_of_mem_parameters {p : ConstructorParameter} (h : p ∈ d.parameters t) :
    ∃ m ∈ d.members, p = parameterFor t m := by
  obtain ⟨m, hm, rfl⟩ := List.mem_map.1 h
  rcases List.mem_append.1 hm with hm | hm
  · exact ⟨m, (List.mem_filter.1 hm).1, rfl⟩
  · exact ⟨m, (List.mem_filter.1 hm).1, rfl⟩

/-- Each step of the synthesized constructor resolves to the slot of the member that its parameter is
for. -/
theorem Wellformed.resolveStep (hd : d.Wellformed t) {step : Nat × String}
    (h : step ∈ d.steps (d.parameters t)) :
    ∃ q slot, (d.parameters t)[step.1]? = some q ∧ q.member = step.2 ∧
      TypeTable.ownSlot? (t.fieldLayout (d.declaration t)).1
        (t.propertyLayout (d.declaration t)).1 q.member = some (slot, q.type) ∧
      t.resolveStep (d.declaration t) (t.fieldLayout (d.declaration t)).1
        (t.propertyLayout (d.declaration t)).1 ((d.parameters t).map (·.toParameter)) step =
          .ok ⟨step.1, slot⟩ := by
  obtain ⟨m, hm, h⟩ := List.mem_filterMap.1 h
  obtain ⟨place, hplace, rfl⟩ := Option.map_eq_some_iff.1 h
  obtain ⟨hlt, hmatch, -⟩ := List.findIdx?_eq_some_iff_getElem.1 hplace
  have hget := List.getElem?_eq_getElem hlt
  obtain ⟨m', hm', hq⟩ := exists_of_mem_parameters (List.getElem_mem hlt)
  rw [hq] at hmatch hget
  obtain rfl := hd.eq_of_name hm' hm (by simpa [parameterFor] using hmatch)
  obtain ⟨slot, hslot⟩ := hd.ownSlot? hm
  have hparameter : ((d.parameters t).map (·.toParameter))[place]? =
      some (parameterFor t m').toParameter := by
    rw [List.getElem?_map, hget, Option.map_some]
  have hresolve : t.resolveSlot? (d.declaration t).base? (t.fieldLayout (d.declaration t)).1
      (t.propertyLayout (d.declaration t)).1 m'.name = some (slot, m'.type) := by
    rw [TypeTable.resolveSlot?, hslot]
  have hrule : t.classify (parameterFor t m').toParameter.type m'.type .implicit =
      some .identity :=
    TypeTable.implicitRule?_self m'.type
  refine ⟨parameterFor t m', slot, hget, rfl, hslot, ?_⟩
  simp only [TypeTable.resolveStep, hparameter, hresolve, hrule]

/-- Each constructor of a well-formed descriptor is built. -/
theorem Wellformed.buildConstructor (hd : d.Wellformed t) {spec : ConstructorSpec}
    (h : spec ∈ d.constructors t) :
    ∃ c, t.buildConstructor (d.declaration t) (t.fieldLayout (d.declaration t)).1
      (t.propertyLayout (d.declaration t)).1 spec = .ok c := by
  have hnone : ∃ c, t.buildConstructor (d.declaration t) (t.fieldLayout (d.declaration t)).1
      (t.propertyLayout (d.declaration t)).1 .parameterless = .ok c := ⟨_, rfl⟩
  have hfull : ∃ c, t.buildConstructor (d.declaration t) (t.fieldLayout (d.declaration t)).1
      (t.propertyLayout (d.declaration t)).1
      ⟨(d.parameters t).map (·.toParameter), .open, .assign (d.steps (d.parameters t))⟩ =
        .ok c := by
    have hparameters : t.checkParameters (d.declaration t).name []
        ((d.parameters t).map (·.toParameter)) = .ok () := by
      refine TypeTable.checkParameters_eq_ok ?_ (by simp) ?_
      · rw [List.map_map]
        exact hd.parameterNames
      · intro q hq v hv
        obtain ⟨p, hp, rfl⟩ := List.mem_map.1 hq
        obtain ⟨m, hm, rfl⟩ := exists_of_mem_parameters hp
        obtain ⟨u, hu, rfl⟩ := Option.map_eq_some_iff.1 hv
        obtain ⟨w, hw⟩ := hd.default m hm u hu
        simp only [hw]
        exact TypeTable.conforms_of_cast hw
    have hsteps : ∀ step ∈ d.steps (d.parameters t), ∃ init,
        t.resolveStep (d.declaration t) (t.fieldLayout (d.declaration t)).1
          (t.propertyLayout (d.declaration t)).1 ((d.parameters t).map (·.toParameter)) step =
            .ok init := by
      intro step hstep
      obtain ⟨-, slot, -, -, -, hresolve⟩ := hd.resolveStep hstep
      exact ⟨_, hresolve⟩
    obtain ⟨resolved, hresolved⟩ := exists_mapM_eq_ok hsteps
    exact ⟨_, bind_eq_ok.2 ⟨_, hparameters, bind_eq_ok.2 ⟨_, hresolved, rfl⟩⟩⟩
  rw [constructors] at h
  split at h
  · rw [List.mem_singleton] at h
    exact h ▸ hnone
  · rcases List.mem_cons.1 h with h | h
    · exact h ▸ hnone
    · rw [List.mem_singleton] at h
      exact h ▸ hfull

/-- **A well-formed descriptor is always emitted.** -/
theorem Wellformed.exists_build (hd : d.Wellformed t) :
    ∃ m, t.build (d.declaration t) = .ok m := by
  have hnames : checkMemberNames (d.declaration t).name []
      ((d.declaration t).fields.map (·.name) ++ (d.declaration t).properties.map (·.name)) =
        .ok () := by
    rw [names_declaration]
    refine checkMemberNames_eq_ok ?_ hd.memberNames (by simp)
    intro name hname
    obtain ⟨m, hm, rfl⟩ := List.mem_map.1 hname
    exact hd.memberNamed m hm
  have hne : (d.declaration t).constructors.isEmpty = false := by
    simp only [declaration, constructors]
    split <;> rfl
  obtain ⟨cs, hcs⟩ := exists_mapM_eq_ok fun spec hspec => hd.buildConstructor hspec
  refine ⟨t.modelOf (d.declaration t) cs, ?_⟩
  rw [TypeTable.build, if_neg (by simp [declaration, hd.named])]
  refine bind_eq_ok.2 ⟨_, hnames, bind_eq_ok.2 ⟨cs, ?_, rfl⟩⟩
  rw [hne]
  exact hcs

/-! ## The emitted model -/

/-- A model has what a descriptor asks for. -/
structure Realised (t : TypeTable) (d : Descriptor) (m : TypeModel) : Prop where
  /-- Its fields have the names and types of the descriptor's. -/
  fields : m.fields.map (fun f => (f.name, f.type)) =
    d.fields.map fun f => (f.name, effectiveType f.type f.nullable)
  /-- Its fields are write-once where the descriptor's are. -/
  initOnly : m.fields.map (·.initOnly) = d.fields.map (·.initOnly)
  /-- Its properties have the names and types of the descriptor's. -/
  properties : m.properties.map (fun p => (p.name, p.type)) =
    d.properties.map fun p => (p.name, effectiveType p.type p.nullable)
  /-- Getters exist for those who may use them. -/
  getters : m.properties.map (fun p => (p.getter?.isSome, p.get)) =
    d.properties.map fun p => (p.get.exists, p.get)
  /-- Setters exist for those who may use them. -/
  setters : m.properties.map (fun p => (p.setter?.isSome, p.set)) =
    d.properties.map fun p => (p.set.exists, p.set)
  /-- Its constructors take what the descriptor's do. -/
  constructors : m.constructors.map (·.parameters) = (d.constructors t).map (·.parameters)

/-- The parameters of a built constructor are those that were declared. -/
theorem parameters_of_buildConstructor {fields : List Field} {properties : List Property}
    {spec : ConstructorSpec} {c : Constructor}
    (h : t.buildConstructor (d.declaration t) fields properties spec = .ok c) :
    c.parameters = spec.parameters := by
  obtain ⟨_, -, h⟩ := bind_eq_ok.1 h
  split at h
  · cases h
    rfl
  · obtain ⟨_, -, h⟩ := bind_eq_ok.1 h
    cases h
    rfl

/-- What a descriptor is emitted as realises it. -/
theorem realised_of_build {m : TypeModel} (h : t.build (d.declaration t) = .ok m) :
    d.Realised t m := by
  obtain ⟨-, -, cs, hcs, rfl⟩ := TypeTable.build_eq_ok h
  have hfields := Layout.forall₂_fields ⟨t.inherited (d.declaration t).base?, []⟩
    (d.declaration t).fields
  have hproperties := Layout.forall₂_properties (t.fieldLayout (d.declaration t)).2 0
    (d.declaration t).properties
  -- properties of a synthesized type have slots, so accessors depend on visibility alone
  have hget : ∀ (p : PropertySpec) slot place, p.backing = .slot →
      ((p.build slot place).1.getter?.isSome, (p.build slot place).1.get) =
        (p.get.exists, p.get) := by
    intro p slot place hp
    cases hg : p.get <;>
      simp [PropertySpec.build, PropertySpec.getMethod?, PropertySpec.getBody?, hp, hg,
        Visibility.exists]
  have hset : ∀ (p : PropertySpec) slot place, p.backing = .slot →
      ((p.build slot place).1.setter?.isSome, (p.build slot place).1.set) =
        (p.set.exists, p.set) := by
    intro p slot place hp
    cases hs : p.set <;>
      simp [PropertySpec.build, PropertySpec.setMethod?, PropertySpec.setBody?, hp, hs,
        Visibility.exists]
  rw [declaration, List.forall₂_map_left_iff] at hfields hproperties
  refine ⟨?_, ?_, ?_, ?_, ?_, ?_⟩
  · refine map_eq_of_forall₂ hfields ?_
    rintro f g ⟨slot, rfl⟩
    rfl
  · refine map_eq_of_forall₂ hfields ?_
    rintro f g ⟨slot, rfl⟩
    rfl
  · refine map_eq_of_forall₂ hproperties ?_
    rintro p q ⟨slot, place, rfl⟩
    rfl
  · refine map_eq_of_forall₂ hproperties ?_
    rintro p q ⟨slot, place, rfl⟩
    exact hget _ slot place rfl
  · refine map_eq_of_forall₂ hproperties ?_
    rintro p q ⟨slot, place, rfl⟩
    exact hset _ slot place rfl
  · have hne : (d.declaration t).constructors.isEmpty = false := by
      simp only [declaration, constructors]
      split <;> rfl
    rw [TypeTable.constructorSpecs, hne] at hcs
    exact map_eq_of_forall₂ hcs fun spec c hc => parameters_of_buildConstructor hc

end Descriptor
end Reshape
