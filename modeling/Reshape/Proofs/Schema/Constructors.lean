import Reshape.Proofs.Schema.Emission

/-!
# Synthesized constructors

A synthesized type has a constructor that takes nothing and, if members are bound to the constructor, one
more that takes a parameter for each of them (`Descriptor.constructors_of_build`).  Parameters stand for
bound members, each for one of its own (`Descriptor.mem_parameters_iff`,
`Descriptor.Wellformed.parameterMembers`), and the constructor stores each of them in the slot of its
member (`Descriptor.Wellformed.constructs`).
-/

namespace Reshape

theorem ConstructorBinding.isBound_iff {b : ConstructorBinding} :
    b.isBound = true ↔ b = .required ∨ b.default?.isSome = true := by
  cases b <;> simp [isBound, default?]

namespace Descriptor

variable {t : TypeTable} {d : Descriptor}

/-! ## Parameters -/

/-- Without a given name, a parameter is called as its member in camel case. -/
theorem parameterFor_name {m : MemberDescriptor} (h : m.parameter? = none) :
    (parameterFor t m).name = Text.camel m.name := by
  rw [parameterFor, MemberDescriptor.parameterName, h, Option.getD_none]

/-- The parameters are those for the bound members. -/
theorem mem_parameters_iff {p : ConstructorParameter} :
    p ∈ d.parameters t ↔ ∃ m ∈ d.members, m.binding.isBound = true ∧ p = parameterFor t m := by
  simp only [parameters, List.mem_map, List.mem_append, List.mem_filter, beq_iff_eq,
    ConstructorBinding.isBound_iff]
  constructor
  · rintro ⟨m, ⟨hm, hb⟩ | ⟨hm, hb⟩, rfl⟩
    · exact ⟨m, hm, .inl hb, rfl⟩
    · exact ⟨m, hm, .inr hb, rfl⟩
  · rintro ⟨m, hm, hb | hb, rfl⟩
    · exact ⟨m, .inl ⟨hm, hb⟩, rfl⟩
    · exact ⟨m, .inr ⟨hm, hb⟩, rfl⟩

/-- No member has two parameters. -/
theorem Wellformed.parameterMembers (hd : d.Wellformed t) :
    ((d.parameters t).map (·.member)).Nodup := by
  have hnames : (d.parameters t).map (·.member) =
      (d.members.filter (·.binding == .required)).map (·.name) ++
        (d.members.filter (·.binding.default?.isSome)).map (·.name) := by
    simp only [parameters, List.map_map, List.map_append]
    rfl
  rw [hnames]
  refine List.nodup_append.2 ⟨hd.memberNames.sublist (List.filter_sublist.map _),
    hd.memberNames.sublist (List.filter_sublist.map _), ?_⟩
  rintro name hrequired _ hoptional rfl
  obtain ⟨a, ha, rfl⟩ := List.mem_map.1 hrequired
  obtain ⟨b, hb, heq⟩ := List.mem_map.1 hoptional
  obtain ⟨ha, hbound⟩ := List.mem_filter.1 ha
  obtain ⟨hb, hdefault⟩ := List.mem_filter.1 hb
  obtain rfl := hd.eq_of_name hb ha heq
  rw [beq_iff_eq.1 hbound] at hdefault
  cases hdefault

/-! ## Constructors -/

/-- What takes nothing and does nothing. -/
def emptyConstructor : Constructor := ⟨[], .open, .assign []⟩

/-- The constructor that takes the bound members, with the steps it is emitted with. -/
def assigningConstructor (t : TypeTable) (d : Descriptor) (inits : List SlotInit) : Constructor :=
  ⟨(d.parameters t).map (·.toParameter), .open, .assign inits⟩

/-- The steps that the named steps of the constructor resolve to. -/
def Resolved (t : TypeTable) (d : Descriptor) (inits : List SlotInit) : Prop :=
  List.Forall₂ (fun step init => t.resolveStep (d.declaration t) (t.fieldLayout (d.declaration t)).1
      (t.propertyLayout (d.declaration t)).1 ((d.parameters t).map (·.toParameter)) step = .ok init)
    (d.steps (d.parameters t)) inits

/-- The constructors that a descriptor is emitted with. -/
theorem constructors_of_build {model : TypeModel} (h : t.build (d.declaration t) = .ok model) :
    (d.parameters t = [] ∧ model.constructors = [emptyConstructor]) ∨
    (d.parameters t ≠ [] ∧ ∃ inits,
      model.constructors = [emptyConstructor, d.assigningConstructor t inits] ∧ d.Resolved t inits) := by
  obtain ⟨-, -, cs, hcs, rfl⟩ := TypeTable.build_eq_ok h
  have hempty : ∀ c, t.buildConstructor (d.declaration t) (t.fieldLayout (d.declaration t)).1
      (t.propertyLayout (d.declaration t)).1 .parameterless = .ok c → c = emptyConstructor := by
    rintro c ⟨⟩
    rfl
  by_cases hparameters : d.parameters t = []
  · have hspecs : TypeTable.constructorSpecs (d.declaration t) = [.parameterless] := by
      simp [TypeTable.constructorSpecs, declaration, constructors, hparameters]
    rw [hspecs] at hcs
    obtain _ | ⟨hc, hrest⟩ := hcs
    cases hrest
    exact .inl ⟨hparameters, congrArg (fun c => [c]) (hempty _ hc)⟩
  · have hspecs : TypeTable.constructorSpecs (d.declaration t) = [.parameterless,
        ⟨(d.parameters t).map (·.toParameter), .open, .assign (d.steps (d.parameters t))⟩] := by
      simp [TypeTable.constructorSpecs, declaration, constructors, hparameters]
    rw [hspecs] at hcs
    obtain _ | ⟨hc, hrest⟩ := hcs
    obtain _ | ⟨hc', hrest⟩ := hrest
    cases hrest
    obtain ⟨_, -, hc'⟩ := bind_eq_ok.1 hc'
    obtain ⟨inits, hinits, hc'⟩ := bind_eq_ok.1 hc'
    cases hc'
    exact .inr ⟨hparameters, inits, congrArg (fun c => [c, d.assigningConstructor t inits])
      (hempty _ hc), mapM_eq_ok.1 hinits⟩

/-! ## Where parameters are stored -/

/-- A constructor stores the parameters that it takes, each in the slot of the member that it is for, which
has its type. -/
structure Constructs (t t' : TypeTable) (d : Descriptor) (id : TypeId) (c : Constructor)
    (steps : List SlotInit) : Prop where
  /-- The constructor has steps. -/
  body : c.body = .assign steps
  /-- It takes parameters of the descriptor. -/
  parameter : ∀ (i : Nat) (p : Parameter), c.parameters[i]? = some p →
    ∃ q, (d.parameters t)[i]? = some q ∧ p = q.toParameter
  /-- Every parameter is stored. -/
  stored : ∀ (i : Nat) (p : Parameter), c.parameters[i]? = some p →
    ∃ step ∈ steps, step.parameter = i
  /-- What is stored goes where it belongs. -/
  own : ∀ step ∈ steps, ∃ q member, (d.parameters t)[step.parameter]? = some q ∧
    t'.findMember? id q.member = some member ∧ member.backingSlot? = some step.slot ∧
      member.type = q.type

variable {model : TypeModel} {t' : TypeTable}

/-- The own members of an emitted type are told apart by their names. -/
theorem Wellformed.ownMembers_names (hd : d.Wellformed t) (hbuild : t.build (d.declaration t) = .ok model) :
    (((t.push model).ownMembers t.size).map MemberRef.name).Nodup := by
  have hrealised := realised_of_build hbuild
  have hfields : model.fields.map (·.name) = d.fields.map (·.name) := by
    have h := congrArg (List.map Prod.fst) hrealised.fields
    simpa only [List.map_map, Function.comp_def] using h
  have hproperties : model.properties.map (·.name) = d.properties.map (·.name) := by
    have h := congrArg (List.map Prod.fst) hrealised.properties
    simpa only [List.map_map, Function.comp_def] using h
  have hmembers := hd.memberNames
  simp only [members, List.map_append, List.map_map] at hmembers
  rw [TypeTable.map_name_ownMembers, TypeTable.model_push_size, hfields, hproperties]
  exact (List.perm_append_comm.nodup_iff).1 hmembers

/-- A name that is laid out leads to the member with that slot. -/
theorem Wellformed.exists_member (hd : d.Wellformed t) (hbuild : t.build (d.declaration t) = .ok model)
    (hlater : (t.push model).Extends t') {name : String} {slot : Nat} {type : ValueType}
    (hslot : TypeTable.ownSlot? (t.fieldLayout (d.declaration t)).1
      (t.propertyLayout (d.declaration t)).1 name = some (slot, type)) : ∃ member,
    t'.findMember? t.size name = some member ∧ member.backingSlot? = some slot ∧
      member.type = type := by
  have hmodel : (t.push model).model t.size = model := TypeTable.model_push_size t model
  obtain ⟨-, -, cs, -, hbuilt⟩ := TypeTable.build_eq_ok hbuild
  have hshare : (⟨name, slot, type⟩ : Share) ∈ ((t.push model).model t.size).shares false := by
    rw [hmodel, hbuilt]
    exact TypeTable.ownSlot?_share hslot
  obtain ⟨member, hmember, hname, htype, hbacking⟩ := TypeTable.exists_of_mem_shares hshare
  have hfound := TypeTable.findMember?_of_own (TypeTable.lineage_push_size t model)
    (hd.ownMembers_names hbuild) hmember
  rw [hname] at hfound
  rw [hlater.findMember?_eq (Nat.lt_succ_self t.size)]
  exact ⟨member, hfound, hbacking, htype⟩

/-- **Each constructor of an emitted type stores its parameters where they belong.** -/
theorem Wellformed.constructs (hd : d.Wellformed t) (hbuild : t.build (d.declaration t) = .ok model)
    (hlater : (t.push model).Extends t') {r : ConstructorRef} (hr : t'.HasConstructor r)
    (howner : r.owner = t.size) : ∃ steps, d.Constructs t t' t.size r.constructor steps := by
  have hmem := hr.mem
  rw [howner, hlater.model_eq (Nat.lt_succ_self t.size), TypeTable.model_push_size] at hmem
  have hempty : d.Constructs t t' t.size emptyConstructor [] :=
    ⟨rfl, fun i p hp => (by cases hp), fun i p hp => (by cases hp), fun step hstep => (by cases hstep)⟩
  obtain ⟨-, hconstructors⟩ | ⟨-, steps, hconstructors, hsteps⟩ := constructors_of_build hbuild
  · rw [hconstructors] at hmem
    rw [List.mem_singleton.1 hmem]
    exact ⟨[], hempty⟩
  · rw [hconstructors] at hmem
    rcases List.mem_cons.1 hmem with heq | hmem
    · rw [heq]
      exact ⟨[], hempty⟩
    rw [List.mem_singleton.1 hmem]
    refine ⟨steps, rfl, fun i p hp => ?_, fun i p hp => ?_, fun step hstep => ?_⟩
    · rw [assigningConstructor, List.getElem?_map] at hp
      obtain ⟨q, hq, rfl⟩ := Option.map_eq_some_iff.1 hp
      exact ⟨q, hq, rfl⟩
    · rw [assigningConstructor, List.getElem?_map] at hp
      obtain ⟨q, hq, -⟩ := Option.map_eq_some_iff.1 hp
      obtain ⟨m, hm, -, rfl⟩ := mem_parameters_iff.1 (List.mem_of_getElem? hq)
      -- the parameter of the member is found at its place
      have hfind : (d.parameters t).findIdx? (·.member == m.name) = some i := by
        obtain ⟨hlt, hget⟩ := List.getElem?_eq_some_iff.1 hq
        refine List.findIdx?_eq_some_iff_getElem.2 ⟨hlt, by simp [hget, parameterFor], fun j hj => ?_⟩
        have hne := List.pairwise_iff_getElem.1 hd.parameterMembers j i
          (by rw [List.length_map]; omega) (by rwa [List.length_map]) hj
        simpa [hget, parameterFor] using hne
      have hnamed : (i, m.name) ∈ d.steps (d.parameters t) :=
        List.mem_filterMap.2 ⟨m, hm, by rw [hfind, Option.map_some]⟩
      obtain ⟨step, hstep, hresolve⟩ := exists_of_mem_forall₂ hsteps.flip hnamed
      obtain ⟨-, slot, -, -, -, hresolve'⟩ := hd.resolveStep hnamed
      obtain rfl := Except.ok.inj (hresolve.symm.trans hresolve')
      exact ⟨_, hstep, rfl⟩
    · obtain ⟨named, hnamed, hresolve⟩ := exists_of_mem_forall₂ hsteps hstep
      obtain ⟨q, slot, hq, -, hslot, hresolve'⟩ := hd.resolveStep hnamed
      obtain rfl := Except.ok.inj (hresolve.symm.trans hresolve')
      obtain ⟨member, hfound, hbacking, htype⟩ := hd.exists_member hbuild hlater hslot
      exact ⟨q, member, hq, hfound, hbacking, htype⟩

end Descriptor
end Reshape
