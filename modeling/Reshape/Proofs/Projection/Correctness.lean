import Reshape.Proofs.Projection.Bound
import Reshape.Proofs.Projection.Delivery

/-!
# Projections do what was configured

A compiled projection whose sources are fixed values or read members with slots, and whose constructor
copies parameters into slots, makes one fresh object from each source object and never fails
(`CompiledProjection.apply_delivers`).  Every slot of the object is accounted for (`Delivers`): that of a
configured member holds its source value, after the value map and the conversions on the way; a slot
that only a configured parameter or a default feeds holds that; and all others are zero.
-/

namespace Reshape

/-! ## Configurations -/

namespace Configuration

/-- Configurations are made by configuring one thing after the other, with references to what is
declared. -/
inductive Built (t : TypeTable) : Configuration → Prop
  /-- Nothing is configured yet. -/
  | new (source : TypeId) (target : TargetSpec) : Built t ⟨source, target, [], [], none, none⟩
  /-- The target is chosen. -/
  | target {c : Configuration} (h : Built t c) (target : TargetSpec) :
      Built t { c with target := target }
  /-- A member is configured. -/
  | member {c : Configuration} (h : Built t c) {m : MemberTarget}
      (hm : ∀ r, m.member = .declared r → t.HasMember r) : Built t (c.addMember m)
  /-- A parameter is configured. -/
  | parameter {c : Configuration} (h : Built t c) (p : ParameterTarget) : Built t (c.addParameter p)
  /-- The constructor is chosen. -/
  | constructor {c : Configuration} (h : Built t c) {r : ConstructorRef} (hr : t.HasConstructor r) :
      Built t { c with constructor? := some r }
  /-- How names are compared is chosen. -/
  | strategy {c : Configuration} (h : Built t c) (strategy : NameStrategy) :
      Built t { c with strategy? := some strategy }

/-- What references of a configuration refer to is declared, and no member is configured twice. -/
structure Genuine (t : TypeTable) (c : Configuration) : Prop where
  /-- Members have different names. -/
  nodup : (c.members.map MemberTarget.name).Nodup
  /-- Declared members are members. -/
  members : ∀ m ∈ c.members, ∀ r, m.member = .declared r → t.HasMember r
  /-- The chosen constructor is one. -/
  constructor : ∀ r, c.constructor? = some r → t.HasConstructor r

theorem Built.genuine {t : TypeTable} {c : Configuration} (h : c.Built t) : c.Genuine t := by
  induction h with
  | new source target => exact ⟨List.nodup_nil, by simp, by simp⟩
  | target _ _ ih => exact ⟨ih.nodup, ih.members, ih.constructor⟩
  | @member c _ mt hm ih =>
    refine ⟨?_, ?_, ih.constructor⟩
    · -- what was configured for the name before is dropped
      have hrest := ih.nodup.sublist ((List.filter_sublist (p := (·.name != mt.name))).map _)
      simp only [addMember, List.map_append, List.map_cons, List.map_nil]
      refine List.nodup_append.2 ⟨hrest, List.nodup_singleton _, ?_⟩
      intro name hname other hother
      obtain ⟨a, ha, rfl⟩ := List.mem_map.1 hname
      rw [List.mem_singleton.1 hother]
      simpa using (List.mem_filter.1 ha).2
    · intro a ha r hr
      rcases List.mem_append.1 ha with ha | ha
      · exact ih.members a (List.mem_filter.1 ha).1 r hr
      · rw [List.mem_singleton.1 ha] at hr
        exact hm r hr
  | parameter _ _ ih => exact ⟨ih.nodup, ih.members, ih.constructor⟩
  | constructor _ hr ih =>
    refine ⟨ih.nodup, ih.members, fun r' hr' => ?_⟩
    cases hr'
    exact hr
  | strategy _ _ ih => exact ⟨ih.nodup, ih.members, ih.constructor⟩

/-- How the sources of a configuration are read. -/
def reader (c : Configuration) (t : TypeTable) (strategy : NameStrategy) : Reader :=
  ⟨t, c.source, c.strategy?.getD strategy⟩

/-- Fixed values of sources are of declared types and in the store, and so are the keys of maps. -/
structure Supplied (b : Reader) (s : Store) (c : Configuration) : Prop where
  /-- Fixed values of members. -/
  members : ∀ mt ∈ c.members, b.Supplied s mt.source
  /-- Keys of the maps of members. -/
  memberKeys : ∀ mt ∈ c.members, ∀ map, mt.map? = some map → map.Supplied s
  /-- Fixed values of parameters. -/
  parameters : ∀ target ∈ c.parameters, b.Supplied s target.source
  /-- Keys of the maps of parameters. -/
  parameterKeys : ∀ target ∈ c.parameters, ∀ map, target.map? = some map → map.Supplied s

end Configuration

/-- A configured member stands for a member of the target with a slot. -/
structure MemberTarget.Stored (t : TypeTable) (target : TypeId) (mt : MemberTarget)
    (member : MemberRef) (slot : Nat) : Prop where
  /-- The member of the target. -/
  found : Compilation.targetMember t target mt.member = .ok member
  /-- Its slot. -/
  slot : member.backingSlot? = some slot

/-- From an object, a source gives a value of a type: what is read, after the value map. -/
def Reader.Gives (b : Reader) (m : Machine) (s : Store) (ref : ObjectRef) (wanted : Binding.Wanted)
    (source : Source) (map? : Option ValueMap) (type : ValueType) (v : Value) : Prop :=
  ∃ x, b.value? wanted s ref source = some x ∧
    Binding.finished m.types s map? (b.type wanted source) type x = .ok v

namespace CompiledProjection

/-- The parameters of the constructor. -/
def parameters (p : CompiledProjection) : List Parameter :=
  p.constructor.constructor.parameters

/-- All values are read from slots and stored in slots, and the constructor copies different parameters
into different slots: a parameter that a configured member feeds into the slot of that member. -/
structure SlotStored (b : Reader) (t : TypeTable) (c : Configuration) (p : CompiledProjection)
    (steps : List SlotInit) : Prop where
  /-- Sources of members. -/
  memberSources : ∀ mt ∈ c.members, b.SlotStored (.member mt.name) mt.source
  /-- Sources of parameters. -/
  parameterSources : ∀ target ∈ c.parameters, ∀ (i : Nat) (param : Parameter),
    Fitting.selected? p.parameters target.parameter = some i → p.parameters[i]? = some param →
      b.SlotStored (.parameter param.name) target.source
  /-- Configured members have slots. -/
  stored : ∀ mt ∈ c.members, ∃ member slot, mt.Stored t p.target member slot
  /-- The constructor has steps. -/
  body : p.constructor.constructor.body = .assign steps
  /-- No parameter is copied twice. -/
  parametersNodup : (steps.map (·.parameter)).Nodup
  /-- No slot is written twice. -/
  slotsNodup : (steps.map (·.slot)).Nodup
  /-- What a member feeds is copied into its slot. -/
  own : ∀ mt ∈ c.members, ∀ member slot, mt.Stored t p.target member slot →
    ∀ (i : Nat) (a : ConstructorArgument), p.args[i]? = some a → a.origin = .member mt.name →
      ⟨i, slot⟩ ∈ steps

/-- What the slots of a projected object hold. -/
structure Delivers (m : Machine) (s : Store) (ref : ObjectRef) (b : Reader) (t : TypeTable)
    (c : Configuration) (p : CompiledProjection) (steps : List SlotInit) (slots : List Value) :
    Prop where
  /-- There are the slots of the type. -/
  length : slots.length = (m.types.model p.target).slotTypes.length
  /-- A member that the constructor takes holds its source value, converted to the type of the
  parameter and then to its own. -/
  constructed : ∀ mt ∈ c.members, ∀ member slot, mt.Stored t p.target member slot →
    ∀ (i : Nat) (a : ConstructorArgument) (param : Parameter), p.args[i]? = some a →
      a.origin = .member mt.name → p.parameters[i]? = some param →
      ∃ v w, b.Gives m s ref (.member mt.name) mt.source mt.map? param.type v ∧
        m.types.cast member.type v = .ok w ∧ slots[slot]? = some w
  /-- Any other configured member holds its source value, converted to its type. -/
  assigned : ∀ mt ∈ c.members, ∀ member slot, mt.Stored t p.target member slot →
    (∀ a ∈ p.args, a.origin ≠ .member mt.name) →
      ∃ v, b.Gives m s ref (.member mt.name) mt.source mt.map? member.type v ∧
        slots[slot]? = some v
  /-- A slot that is fed only by a configured parameter holds its source value, converted to the type of
  the parameter and then to that of the slot. -/
  configured : ∀ target ∈ c.parameters, ∀ step ∈ steps,
    Fitting.selected? p.parameters target.parameter = some step.parameter →
    (∀ mt ∈ c.members, ∀ member, ¬ mt.Stored t p.target member step.slot) →
      ∃ param type v w, p.parameters[step.parameter]? = some param ∧
        (m.types.model p.target).slotTypes[step.slot]? = some type ∧
        b.Gives m s ref (.parameter param.name) target.source target.map? param.type v ∧
        m.types.cast type v = .ok w ∧ slots[step.slot]? = some w
  /-- A slot that is fed only by a parameter without source holds the default, converted to the type of
  the slot. -/
  defaulted : ∀ step ∈ steps,
    (∀ target ∈ c.parameters,
      Fitting.selected? p.parameters target.parameter ≠ some step.parameter) →
    (∀ mt ∈ c.members, ∀ member, ¬ mt.Stored t p.target member step.slot) →
      ∃ param type d w, p.parameters[step.parameter]? = some param ∧ param.default? = some d ∧
        (m.types.model p.target).slotTypes[step.slot]? = some type ∧
        m.types.cast type d = .ok w ∧ slots[step.slot]? = some w
  /-- All other slots are zero. -/
  zero : ∀ (slot : Nat) (type : ValueType), (m.types.model p.target).slotTypes[slot]? = some type →
    (∀ step ∈ steps, step.slot ≠ slot) →
    (∀ mt ∈ c.members, ∀ member, ¬ mt.Stored t p.target member slot) →
      slots[slot]? = some type.zero

/-! ## The parts of a projection -/

section Parts

open Compilation

variable {t₀ t : TypeTable} {strategy : NameStrategy} {c : Configuration} {p : CompiledProjection}
  {sources : List Expr} {feeds : Feeds} {m : Machine}

/-- The member that a configured member stands for is one of the target, of the same name. -/
theorem targetMember_spec {target : TypeId} {member : ProjectedMember}
    (hm : ∀ r, member = .declared r → t.HasMember r) {found : MemberRef}
    (h : targetMember t target member = .ok found) :
    t.HasMember found ∧ t.isSubtype target found.owner = true ∧ found.name = member.text := by
  have hstatic : ∀ {r : MemberRef}, (if r.isStatic then
      throw (Error.staticTargetMember r.owner r.name) else pure r : Except Error MemberRef) =
        .ok found → r = found := by
    intro r hr
    split at hr
    · cases hr
    · cases hr
      rfl
  cases member with
  | declared r =>
    by_cases hsub : t.isSubtype target r.owner = true
    · simp only [targetMember, hsub, if_true, pure_bind] at h
      obtain rfl := hstatic h
      exact ⟨hm _ rfl, hsub, rfl⟩
    · simp only [targetMember, hsub] at h
      cases h
  | name name =>
    cases hfound : t.findMember? target name with
    | some r =>
      simp only [targetMember, hfound, pure_bind] at h
      obtain rfl := hstatic h
      exact TypeTable.findMember?_spec hfound
    | none =>
      simp only [targetMember, hfound] at h
      cases h

/-- A place of the parameters with their feeds. -/
theorem getElem?_fed (c : Configuration) (sources : List Expr) {i : Nat} {param : Parameter}
    {feed? : Option Feed} (hparam : p.parameters[i]? = some param) (hfeed : feeds[i]? = some feed?) :
    (p.parameters.zip (feeds.map (fed? c sources)))[i]? = some (param, fed? c sources feed?) := by
  rw [List.getElem?_zip_eq_some, List.getElem?_map, hfeed]
  exact ⟨hparam, rfl⟩

theorem fed?_eq_member {feed? : Option Feed} {mt : MemberTarget} {e : Expr}
    (h : fed? c sources feed? = some (.member mt e)) : ∃ place, feed? = some (.member place) ∧
      c.members[place]? = some mt ∧ sources[place]? = some e := by
  match feed? with
  | some (.member place) =>
    obtain ⟨entry, hentry, hfed⟩ := Option.map_eq_some_iff.1 h
    cases hfed
    obtain ⟨hmt, he⟩ := List.getElem?_zip_eq_some.1 hentry
    exact ⟨place, rfl, hmt, he⟩
  | some (.parameter place) =>
    obtain ⟨target, -, hfed⟩ := Option.map_eq_some_iff.1 h
    cases hfed
  | none => cases h

theorem fed?_eq_parameter {feed? : Option Feed} {target : ParameterTarget}
    (h : fed? c sources feed? = some (.parameter target)) : ∃ place,
      feed? = some (.parameter place) ∧ c.parameters[place]? = some target := by
  match feed? with
  | some (.member place) =>
    obtain ⟨entry, -, hfed⟩ := Option.map_eq_some_iff.1 h
    cases hfed
  | some (.parameter place) =>
    obtain ⟨target', htarget, hfed⟩ := Option.map_eq_some_iff.1 h
    cases hfed
    exact ⟨place, rfl, htarget⟩
  | none => cases h

theorem hasConstructor_of_bound (hb : Bound t₀ t strategy c p sources feeds) (hc : c.Genuine t₀) :
    t.HasConstructor p.constructor := by
  rcases hb.resolved.origin with hchosen | hmem
  · exact (hc.constructor _ hchosen).mono hb.later
  · obtain ⟨i, ctor, hctor, hr⟩ := TypeTable.mem_zipIdx_map hmem
    rw [hr]
    exact hctor

/-- The constructor is sound. -/
theorem constructorSound_of_bound (hb : Bound t₀ t strategy c p sources feeds) (hc : c.Genuine t₀)
    (ht : t.Extends m.types) (hm : m.types.Declared) :
    m.types.ConstructorSound (m.types.model p.target).slotTypes p.constructor.constructor := by
  have hctor := (hasConstructor_of_bound hb hc).mono ht
  exact (hm.sound p.target hctor.owner_lt).constructors _ hctor.mem

/-- Each parameter has its feed. -/
theorem map_fst_fed (hb : Bound t₀ t strategy c p sources feeds) :
    (p.parameters.zip (feeds.map (fed? c sources))).map Prod.fst = p.parameters := by
  refine List.map_fst_zip (Nat.le_of_eq ?_)
  rw [List.length_map]
  exact hb.resolved.placed.length.symm

/-- Each argument has the type of its parameter. -/
theorem forall₂_type_args (hb : Bound t₀ t strategy c p sources feeds) :
    List.Forall₂ (fun param e => e.type = param.type) p.parameters (p.args.map (·.value)) := by
  have htypes : List.Forall₂ (fun (entry : Parameter × Option Fed) (a : ConstructorArgument) =>
      a.value.type = entry.1.type) (p.parameters.zip (feeds.map (fed? c sources))) p.args := by
    refine hb.args.imp fun entry a ha => ?_
    obtain ⟨param, fed⟩ := entry
    cases ha with
    | member _ hvalue => exact Binding.type_of_finish hvalue
    | parameter _ _ hvalue => exact Binding.type_of_finish hvalue
    | default _ hvalue =>
      obtain ⟨v, -, hvalue⟩ := bind_eq_ok.1 hvalue
      rw [← Except.ok.inj hvalue]
      rfl
  rw [← map_fst_fed hb, List.forall₂_map_left_iff, List.forall₂_map_right_iff]
  exact htypes

/-- The members that are assigned are members of the target with slots, whose initialisers have their
types. -/
theorem type_of_assigned (hm : m.types.Declared) (ht : t.Extends m.types) {mt : MemberTarget}
    {e : Expr} {a : MemberAssignment} (hmember : t.HasMember a.member)
    (ha : Assigned t p.target mt e a) {owner : TypeId} {type : ValueType} {name : String}
    (h : Expr.targetParts a.target = .ok (owner, type, name)) : a.value.type = type := by
  have hmember' := hmember.mono ht
  rw [Expr.type_of_targetParts hmember' (hm.sound _ hmember'.owner_lt) ha.target h]
  exact Binding.type_of_finish ha.value

theorem fed?_member {place : Nat} {mt : MemberTarget} {e : Expr} (hmt : c.members[place]? = some mt)
    (he : sources[place]? = some e) :
    fed? c sources (some (.member place)) = some (.member mt e) := by
  have hzip : (c.members.zip sources)[place]? = some (mt, e) :=
    List.getElem?_zip_eq_some.2 ⟨hmt, he⟩
  rw [fed?, hzip]
  rfl

theorem mem_leftOver {entry : MemberTarget × Expr} (h : entry ∈ leftOver c sources feeds) :
    ∃ place, c.members[place]? = some entry.1 ∧ sources[place]? = some entry.2 ∧
      feeds.uses place = false := by
  obtain ⟨⟨_, place⟩, hmem, rfl⟩ := List.mem_map.1 h
  obtain ⟨hmem, huses⟩ := List.mem_filter.1 hmem
  obtain ⟨hm, he⟩ := List.getElem?_zip_eq_some.1 (List.mem_zipIdx_iff_getElem?.1 hmem)
  exact ⟨place, hm, he, by simpa using huses⟩

theorem leftOver_mem {place : Nat} {mt : MemberTarget} {e : Expr}
    (hmt : c.members[place]? = some mt) (he : sources[place]? = some e)
    (huses : feeds.uses place = false) : (mt, e) ∈ leftOver c sources feeds := by
  have hzip : (c.members.zip sources)[place]? = some (mt, e) :=
    List.getElem?_zip_eq_some.2 ⟨hmt, he⟩
  refine List.mem_map.2 ⟨((mt, e), place), List.mem_filter.2 ⟨?_, ?_⟩, rfl⟩
  · exact List.mem_zipIdx_iff_getElem?.2 hzip
  · simp [huses]

/-- The member that a configured member stands for has its name. -/
theorem found_spec (hb : Bound t₀ t strategy c p sources feeds) (hc : c.Genuine t₀) {mt : MemberTarget}
    (hmt : mt ∈ c.members) {member : MemberRef} (h : targetMember t p.target mt.member = .ok member) :
    t.HasMember member ∧ t.isSubtype p.target member.owner = true ∧ member.name = mt.name :=
  targetMember_spec (fun r hr => (hc.members mt hmt r hr).mono hb.later) h

/-- Initialisers have the types of their members. -/
theorem type_of_initialiser (hb : Bound t₀ t strategy c p sources feeds) (hc : c.Genuine t₀)
    (ht : t.Extends m.types) (hm : m.types.Declared) :
    ∀ b ∈ p.assignments.map fun a => (a.target, a.value), ∀ owner type name,
      Expr.targetParts b.1 = .ok (owner, type, name) → b.2.type = type := by
  intro b hmem owner type name hparts
  obtain ⟨a, ha, rfl⟩ := List.mem_map.1 hmem
  obtain ⟨entry, hentry, hassigned⟩ := exists_of_mem_forall₂ hb.assignments ha
  obtain ⟨place, hmt, -, -⟩ := mem_leftOver hentry
  obtain ⟨hmember, -, -⟩ := found_spec hb hc (List.mem_of_getElem? hmt) hassigned.member
  exact type_of_assigned hm ht hmember hassigned hparts

/-- The projection is assembled from its arguments and assignments as they are. -/
theorem full_eq_assembled (hb : Bound t₀ t strategy c p sources feeds) (hc : c.Genuine t₀)
    (ht : t.Extends m.types) (hm : m.types.Declared) :
    p.full = Projection.assembled c.source p.constructor (p.args.map (·.value))
      (p.assignments.map fun a => (a.target, a.value)) :=
  Projection.assemble_eq (forall₂_type_args hb) (type_of_initialiser hb hc ht hm) hb.full

/-- The parameter of an argument that comes from a configured member is fed by that member. -/
theorem fed_of_origin (hb : Bound t₀ t strategy c p sources feeds) (hc : c.Genuine t₀) {i : Nat}
    {a : ConstructorArgument} (ha : p.args[i]? = some a) {mt : MemberTarget} (hmt : mt ∈ c.members)
    (horigin : a.origin = .member mt.name) : ∃ place e,
      feeds[i]? = some (some (.member place)) ∧ c.members[place]? = some mt ∧
        sources[place]? = some e := by
  obtain ⟨entry, hentry, hargued⟩ := exists_getElem?_of_forall₂ hb.args.flip ha
  obtain ⟨param, fed⟩ := entry
  obtain ⟨-, hfed⟩ := List.getElem?_zip_eq_some.1 hentry
  rw [List.getElem?_map] at hfed
  obtain ⟨feed?, hfeed, hfed⟩ := Option.map_eq_some_iff.1 hfed
  cases hargued with
  | @member mt' e _ horigin' hvalue =>
    obtain ⟨place, rfl, hmt', he⟩ := fed?_eq_member hfed
    have hname : mt'.name = mt.name := ArgumentOrigin.member.inj (horigin'.symm.trans horigin)
    obtain rfl := List.inj_on_of_nodup_map hc.nodup (List.mem_of_getElem? hmt') hmt hname
    exact ⟨place, e, hfeed, hmt', he⟩
  | parameter horigin' _ _ => cases horigin'.symm.trans horigin
  | default horigin' _ => cases horigin'.symm.trans horigin

/-- The source of a configured member by its place. -/
theorem source_reaches (hb : Bound t₀ t strategy c p sources feeds) {place : Nat} {mt : MemberTarget}
    {e : Expr} (hmt : c.members[place]? = some mt) (he : sources[place]? = some e) :
    (Binding.sourceExpr t₀ c.source strategy (.member mt.name) mt.source).Reaches e := by
  obtain ⟨e', he', hreaches⟩ := exists_getElem?_of_forall₂ hb.bound hmt
  rw [he] at he'
  cases he'
  exact hreaches

/-- The argument of a parameter that a configured member feeds comes from that member. -/
theorem origin_of_fed (hb : Bound t₀ t strategy c p sources feeds) {i place : Nat}
    (hfeed : feeds[i]? = some (some (.member place))) {mt : MemberTarget}
    (hmt : c.members[place]? = some mt) :
    ∃ a, p.args[i]? = some a ∧ a.origin = .member mt.name := by
  have hlt : i < p.parameters.length := by
    rw [parameters, ← hb.resolved.placed.length]
    exact (List.getElem?_eq_some_iff.1 hfeed).1
  obtain ⟨e, he, -⟩ := exists_getElem?_of_forall₂ hb.bound hmt
  have hentry := getElem?_fed c sources (List.getElem?_eq_getElem hlt) hfeed
  obtain ⟨a, ha, hargued⟩ := exists_getElem?_of_forall₂ hb.args hentry
  rw [fed?_member hmt he] at hargued
  cases hargued with
  | member horigin hvalue => exact ⟨a, ha, horigin⟩

/-- A member that stands for a slot of the target has the type of the slot. -/
theorem slotType_of_stored (hb : Bound t₀ t strategy c p sources feeds) (hc : c.Genuine t₀)
    (ht : t.Extends m.types) (hm : m.types.Declared) {mt : MemberTarget}
    (hmt : mt ∈ c.members) {member : MemberRef} {slot : Nat}
    (hstored : mt.Stored t p.target member slot) :
    (m.types.model p.target).slotTypes[slot]? = some member.type := by
  obtain ⟨hmember, hsub, -⟩ := found_spec hb hc hmt hstored.found
  have hmember' := hmember.mono ht
  exact TypeTable.slotType_of_prefix hm.sound (ht.isSubtype hsub)
    (TypeTable.slotType_of_backingSlot? hmember' (hm.sound _ hmember'.owner_lt) hstored.slot)

/-- Different configured members have different slots. -/
theorem eq_of_stored (hb : Bound t₀ t strategy c p sources feeds) (hc : c.Genuine t₀)
    (ht : t.Extends m.types) (hm : m.types.Declared)
    {mt mt' : MemberTarget} (hmt : mt ∈ c.members) (hmt' : mt' ∈ c.members)
    {member member' : MemberRef} {slot : Nat} (hstored : mt.Stored t p.target member slot)
    (hstored' : mt'.Stored t p.target member' slot) : mt = mt' := by
  obtain ⟨hmember, hsub, hname⟩ := found_spec hb hc hmt hstored.found
  obtain ⟨hmember', hsub', hname'⟩ := found_spec hb hc hmt' hstored'.found
  have hsame := TypeTable.name_eq_of_slot_eq hm.sound (hmember.mono ht) (hmember'.mono ht)
    (ht.isSubtype hsub) (ht.isSubtype hsub') hstored.slot hstored'.slot
  exact List.inj_on_of_nodup_map hc.nodup hmt hmt' (hname.symm.trans (hsame.trans hname'))

/-- What is left over has different names. -/
theorem nodup_leftOver (hb : Bound t₀ t strategy c p sources feeds) (hc : c.Genuine t₀) :
    ((leftOver c sources feeds).map fun entry => entry.1.name).Nodup := by
  have hfst : (c.members.zip sources).map Prod.fst = c.members :=
    List.map_fst_zip (Nat.le_of_eq hb.bound.length_eq)
  have hsub : (leftOver c sources feeds).Sublist (c.members.zip sources) := by
    have hfilter := (List.filter_sublist (l := (c.members.zip sources).zipIdx)
      (p := fun entry => !feeds.uses entry.2)).map Prod.fst
    rwa [List.zipIdx_map_fst] at hfilter
  have hnames := hc.nodup
  rw [← hfst, List.map_map] at hnames
  exact hnames.sublist (hsub.map _)

/-- A configured member that an argument comes from is used. -/
theorem uses_of_origin (hb : Bound t₀ t strategy c p sources feeds) (hc : c.Genuine t₀) {i : Nat}
    {a : ConstructorArgument} (ha : p.args[i]? = some a) {mt : MemberTarget}
    (horigin : a.origin = .member mt.name) {place : Nat} (hmt : c.members[place]? = some mt) :
    feeds.uses place = true := by
  obtain ⟨place', e, hfeed, hmt', -⟩ := fed_of_origin hb hc ha (List.mem_of_getElem? hmt) horigin
  have hsame : place = place' := (List.getElem?_inj (List.getElem?_eq_some_iff.1 hmt).1
    hc.nodup.of_map).1 (hmt.trans hmt'.symm)
  exact Feeds.uses_iff.2 ⟨i, hsame ▸ hfeed⟩

/-- A configured member that no argument comes from is left over. -/
theorem not_uses_of_origin (hb : Bound t₀ t strategy c p sources feeds) {place : Nat} {mt : MemberTarget}
    (hmt : c.members[place]? = some mt) (hnone : ∀ a ∈ p.args, a.origin ≠ .member mt.name) :
    feeds.uses place = false := by
  by_contra huses
  obtain ⟨i, hfeed⟩ := Feeds.uses_iff.1 (eq_true_of_ne_false huses)
  obtain ⟨a, ha, horigin⟩ := origin_of_fed hb hfeed hmt
  exact hnone a (List.mem_of_getElem? ha) horigin

end Parts

/-! ## What the parts denote -/

/-- What feeds a parameter gives it a value. -/
def FedGives (b : Reader) (m : Machine) (s : Store) (ref : ObjectRef) (p : Parameter) :
    Option Compilation.Fed → Value → Prop
  | some (.member mt _), v => b.Gives m s ref (.member mt.name) mt.source mt.map? p.type v
  | some (.parameter target), v =>
    b.Gives m s ref (.parameter p.name) target.source target.map? p.type v
  | none, v => m.types.cast p.type (p.default?.getD .null) = .ok v

/-- A projection that was compiled, and an object to run it on. -/
structure Run (t₀ t : TypeTable) (strategy : NameStrategy) (c : Configuration)
    (p : CompiledProjection) (sources : List Expr) (feeds : Feeds) (steps : List SlotInit)
    (m : Machine) (s : Store) (ref : ObjectRef) : Prop where
  /-- It was bound. -/
  bound : Compilation.Bound t₀ t (c.strategy?.getD strategy) c p sources feeds
  /-- The configuration is genuine. -/
  genuine : c.Genuine t₀
  /-- All values are in slots. -/
  stored : SlotStored (c.reader t₀ strategy) t c p steps
  /-- The machine has the types. -/
  later : t.Extends m.types
  /-- The types are declared. -/
  declared : m.types.Declared
  /-- The store is well typed. -/
  wellTyped : s.WellTyped m.types
  /-- Fixed values are in the store. -/
  supplied : c.Supplied (c.reader t₀ strategy) s
  /-- The object is in the store. -/
  live : s.Live (.object ref)
  /-- The object has the source type. -/
  sub : m.types.isSubtype ref.type c.source = true

section Run

open Compilation

variable {t₀ t : TypeTable} {strategy : NameStrategy} {c : Configuration} {p : CompiledProjection}
  {sources : List Expr} {feeds : Feeds} {steps : List SlotInit} {m : Machine} {s : Store}
  {ref : ObjectRef}

theorem Run.full_eq (h : Run t₀ t strategy c p sources feeds steps m s ref) :
    p.full = Projection.assembled c.source p.constructor (p.args.map (·.value))
      (p.assignments.map fun a => (a.target, a.value)) :=
  full_eq_assembled h.bound h.genuine h.later h.declared

/-- All bindings in arguments and initialisers have a slot. -/
theorem Run.each_hasSlot (h : Run t₀ t strategy c p sources feeds steps m s ref) :
    (∀ a ∈ p.args, a.value.Each (Expr.HasSlot (p.full.scope (.object ref)).layout)) ∧
      ∀ a ∈ p.assignments, a.value.Each (Expr.HasSlot (p.full.scope (.object ref)).layout) := by
  obtain ⟨hargs, hbindings⟩ := Projection.each_hasSlot_assembled h.full_eq (.object ref)
  exact ⟨fun a ha => hargs _ (List.mem_map_of_mem ha), fun a ha =>
    hbindings (a.target, a.value) (List.mem_map.2 ⟨a, ha, rfl⟩)⟩

/-- A finished source denotes what it gives. -/
theorem Run.denotes (h : Run t₀ t strategy c p sources feeds steps m s ref)
    {wanted : Binding.Wanted} {source : Source} {map? : Option ValueMap} {type : ValueType}
    {raw e : Expr} (hslots : (c.reader t₀ strategy).SlotStored wanted source)
    (hsupplied : (c.reader t₀ strategy).Supplied s source)
    (hkeys : ∀ map, map? = some map → map.Supplied s)
    (hraw : (Binding.sourceExpr t₀ c.source (c.strategy?.getD strategy) wanted source).Reaches raw)
    (he : (Binding.finish t raw map? type).Reaches e)
    (hslot : e.Each (Expr.HasSlot (p.full.scope (.object ref)).layout)) :
    ∃ v, (c.reader t₀ strategy).Gives m s ref wanted source map? type v ∧
      m.Denotes (p.full.scope (.object ref)) s (p.full.scope (.object ref)).Frame e v := by
  obtain ⟨n, n', hraw⟩ := hraw
  obtain ⟨k, k', he⟩ := he
  have hobject : m.Denotes (p.full.scope (.object ref)) s (p.full.scope (.object ref)).Frame
      (Binding.sourceObject c.source) (.object ref) := Machine.denotes_parameter rfl h.sub
  obtain ⟨htype, x, hx, hxlive, hxd⟩ := Reader.denotes_sourceExpr (c.reader t₀ strategy)
    (h.bound.later.trans h.later) h.declared h.wellTyped hobject h.live hslots hsupplied hraw
  obtain ⟨v, hv, hed, -⟩ := hxd.finish h.later h.wellTyped hxlive hkeys he hslot
  rw [htype] at hv
  exact ⟨v, ⟨x, hx, hv⟩, hed⟩

/-- The arguments denote what feeds their parameters gives. -/
theorem Run.exists_values (h : Run t₀ t strategy c p sources feeds steps m s ref) :
    ∃ vs, List.Forall₂ (fun entry v => FedGives (c.reader t₀ strategy) m s ref entry.1 entry.2 v)
        (p.parameters.zip (feeds.map (fed? c sources))) vs ∧
      List.Forall₂ (m.Denotes (p.full.scope (.object ref)) s (p.full.scope (.object ref)).Frame)
        (p.args.map (·.value)) vs := by
  obtain ⟨vs, hgives, hdenotes⟩ := exists_forall₂_of_forall₂ (T := fun a v =>
    m.Denotes (p.full.scope (.object ref)) s (p.full.scope (.object ref)).Frame a.value v)
    (S := fun entry v => FedGives (c.reader t₀ strategy) m s ref entry.1 entry.2 v)
    h.bound.args fun entry hentry a ha hargued => by
      have hslot := h.each_hasSlot.1 a ha
      obtain ⟨param, fed⟩ := entry
      obtain ⟨i, hi⟩ := List.mem_iff_getElem?.1 hentry
      obtain ⟨hparam, hfed⟩ := List.getElem?_zip_eq_some.1 hi
      rw [List.getElem?_map] at hfed
      obtain ⟨feed?, hfeed, hfed⟩ := Option.map_eq_some_iff.1 hfed
      cases hargued with
      | @member mt e _ horigin hvalue =>
        obtain ⟨place, -, hmt, he⟩ := fed?_eq_member hfed
        have hmem := List.mem_of_getElem? hmt
        exact h.denotes (h.stored.memberSources mt hmem) (h.supplied.members mt hmem)
          (h.supplied.memberKeys mt hmem) (source_reaches h.bound hmt he) hvalue hslot
      | @parameter target raw _ horigin hraw hvalue =>
        obtain ⟨place, rfl, htarget⟩ := fed?_eq_parameter hfed
        have hmem := List.mem_of_getElem? htarget
        -- with a parameter configured, the target is not new
        have hsame := h.bound.same (List.ne_nil_of_mem hmem)
        obtain ⟨target', htarget', hselected⟩ := h.bound.resolved.placed.allowed i _ hfeed
        rw [htarget] at htarget'
        cases htarget'
        rw [hsame] at hraw
        exact h.denotes (h.stored.parameterSources target hmem i param hselected hparam)
          (h.supplied.parameters target hmem) (h.supplied.parameterKeys target hmem) hraw hvalue hslot
      | default horigin hvalue =>
        obtain ⟨v, hv, hd, -⟩ := Machine.denotes_typedLiteral h.later hvalue
        exact ⟨v, hv, hd⟩
  exact ⟨vs, hgives, List.forall₂_map_left_iff.2 hdenotes⟩

/-! ## What the parts write -/

theorem Run.sound (h : Run t₀ t strategy c p sources feeds steps m s ref) :
    m.types.ConstructorSound (m.types.model p.target).slotTypes p.constructor.constructor :=
  constructorSound_of_bound h.bound h.genuine h.later h.declared

/-- The steps of the constructor convert their arguments: no conversion fails. -/
theorem Run.exists_stepWrites (h : Run t₀ t strategy c p sources feeds steps m s ref)
    {vs : List Value} (hvs : List.Forall₂
      (m.Denotes (p.full.scope (.object ref)) s (p.full.scope (.object ref)).Frame)
      (p.args.map (·.value)) vs) : ∃ ws, List.Forall₂ (m.StepWrites p.target vs) steps ws := by
  refine exists_forall₂ fun step hstep => ?_
  obtain ⟨param, type, rule, hparam, htype, hrule⟩ := h.sound.step steps h.stored.body step hstep
  obtain ⟨e, he, hetype⟩ := exists_getElem?_of_forall₂ (forall₂_type_args h.bound) hparam
  obtain ⟨v, hv, hd⟩ := exists_getElem?_of_forall₂ hvs he
  have hconf := hd.conforms
  rw [hetype] at hconf
  obtain ⟨w, hw⟩ := TypeTable.cast_of_implicitRule? hrule hconf
  refine ⟨(step.slot, w), rfl, type, htype, ?_⟩
  rw [hv]
  exact hw

/-- What is written for a configured member that is left over. -/
def LeftWrites (b : Reader) (m : Machine) (s : Store) (ref : ObjectRef) (t : TypeTable)
    (target : TypeId) (mt : MemberTarget) (w : Nat × Value) : Prop :=
  ∃ member, mt.Stored t target member w.1 ∧
    b.Gives m s ref (.member mt.name) mt.source mt.map? member.type w.2

/-- The initialisers write what the members that are left over give. -/
theorem Run.exists_initWrites (h : Run t₀ t strategy c p sources feeds steps m s ref) :
    ∃ ws, List.Forall₂ (fun entry w =>
        LeftWrites (c.reader t₀ strategy) m s ref t p.target entry.1 w)
        (leftOver c sources feeds) ws ∧
      List.Forall₂ (m.InitWrites (p.full.scope (.object ref)) s
        (p.full.scope (.object ref)).Frame p.target)
        (p.assignments.map fun a => (a.target, a.value)) ws := by
  obtain ⟨ws, hleft, hinit⟩ := exists_forall₂_of_forall₂ (T := fun a w =>
    m.InitWrites (p.full.scope (.object ref)) s (p.full.scope (.object ref)).Frame p.target
      (a.target, a.value) w)
    (S := fun entry w => LeftWrites (c.reader t₀ strategy) m s ref t p.target entry.1 w)
    h.bound.assignments fun entry hentry a ha hassigned => by
      obtain ⟨mt, e⟩ := entry
      obtain ⟨place, hmt, he, -⟩ := mem_leftOver hentry
      have hmem := List.mem_of_getElem? hmt
      obtain ⟨v, hv, hd⟩ := h.denotes (h.stored.memberSources mt hmem) (h.supplied.members mt hmem)
        (h.supplied.memberKeys mt hmem) (source_reaches h.bound hmt he) hassigned.value (h.each_hasSlot.2 a ha)
      obtain ⟨member, slot, hstored⟩ := h.stored.stored mt hmem
      have hfound : a.member = member := Except.ok.inj (hassigned.member.symm.trans hstored.found)
      obtain ⟨hmember, hsub, -⟩ := found_spec h.bound h.genuine hmem hassigned.member
      have hconf := hd.conforms
      rw [Binding.type_of_finish hassigned.value] at hconf
      refine ⟨(slot, v), ⟨member, hstored, hfound ▸ hv⟩, hd, ?_⟩
      rintro r hr
      have hwrite := Machine.perform_assign (s := s) h.declared.sound (hmember.mono h.later)
        hassigned.target (hfound ▸ hstored.slot) (r := r) (hr ▸ h.later.isSubtype hsub) hconf
      rw [hr] at hwrite
      exact hwrite
  exact ⟨ws, hleft, List.forall₂_map_left_iff.2 hinit⟩

/-! ## What the slots hold -/

variable {vs : List Value} {ws ws' : List (Nat × Value)}

/-- What an initialiser writes is given by a configured member that no parameter takes. -/
theorem exists_of_mem_left {b : Reader} {w : Nat × Value} (hw : w ∈ ws') (hleft : List.Forall₂
      (fun entry w => LeftWrites b m s ref t p.target entry.1 w) (leftOver c sources feeds) ws') :
    ∃ mt place, c.members[place]? = some mt ∧ feeds.uses place = false ∧
      LeftWrites b m s ref t p.target mt w := by
  obtain ⟨entry, hentry, hwrites⟩ := exists_of_mem_forall₂ hleft hw
  obtain ⟨place, hmt, -, huses⟩ := mem_leftOver hentry
  exact ⟨entry.1, place, hmt, huses, hwrites⟩

theorem Run.nodup_left (h : Run t₀ t strategy c p sources feeds steps m s ref) {b : Reader}
    (hleft : List.Forall₂ (fun entry w => LeftWrites b m s ref t p.target entry.1 w)
      (leftOver c sources feeds) ws') : (ws'.map (·.1)).Nodup := by
  refine nodup_of_forall₂ hleft (nodup_leftOver h.bound h.genuine) ?_
  rintro entry hentry entry' hentry' w w' ⟨member, hstored, -⟩ ⟨member', hstored', -⟩ hslot
  obtain ⟨place, hmt, -, -⟩ := mem_leftOver hentry
  obtain ⟨place', hmt', -, -⟩ := mem_leftOver hentry'
  rw [← hslot] at hstored'
  rw [eq_of_stored h.bound h.genuine h.later h.declared (List.mem_of_getElem? hmt)
    (List.mem_of_getElem? hmt') hstored hstored']

/-- What a step writes stays, if no initialiser writes the slot. -/
theorem Run.held_of_step (h : Run t₀ t strategy c p sources feeds steps m s ref)
    (hsteps : List.Forall₂ (m.StepWrites p.target vs) steps ws) {step : SlotInit}
    (hstep : step ∈ steps) (hleft : ∀ w ∈ ws', w.1 ≠ step.slot) : ∃ type w,
      (m.types.model p.target).slotTypes[step.slot]? = some type ∧
      m.types.cast type (vs[step.parameter]?.getD .null) = .ok w ∧
      ((m.zeros p.target).writes (ws ++ ws')).slots[step.slot]? = some w :=
  Machine.held_of_step hsteps hstep (fun _ hstep' hslot => congrArg SlotInit.parameter
    (List.inj_on_of_nodup_map h.stored.slotsNodup hstep' hstep hslot)) hleft

/-- The value of an argument is what feeds its parameter gives. -/
theorem gives_of_forall₂ {b : Reader}
    (hgives : List.Forall₂ (fun entry v => FedGives b m s ref entry.1 entry.2 v)
      (p.parameters.zip (feeds.map (fed? c sources))) vs) {i : Nat} {param : Parameter}
    (hparam : p.parameters[i]? = some param) {feed? : Option Feed} (hfeed : feeds[i]? = some feed?) :
    FedGives b m s ref param (fed? c sources feed?) (vs[i]?.getD .null) := by
  obtain ⟨v, hv, hgives⟩ := exists_getElem?_of_forall₂ hgives (getElem?_fed c sources hparam hfeed)
  rw [hv]
  exact hgives

/-- No initialiser writes the slot of a configured member that a parameter takes. -/
theorem Run.notMem_left (h : Run t₀ t strategy c p sources feeds steps m s ref) {b : Reader}
    (hleft : List.Forall₂ (fun entry w => LeftWrites b m s ref t p.target entry.1 w)
      (leftOver c sources feeds) ws') {mt : MemberTarget} (hmt : mt ∈ c.members) {member : MemberRef}
    {slot : Nat} (hstored : mt.Stored t p.target member slot) {i : Nat} {a : ConstructorArgument}
    (ha : p.args[i]? = some a) (horigin : a.origin = .member mt.name) : ∀ w ∈ ws', w.1 ≠ slot := by
  rintro w hw rfl
  obtain ⟨mt', place', hmt', huses', member', hstored', -⟩ := exists_of_mem_left hw hleft
  obtain rfl := eq_of_stored h.bound h.genuine h.later h.declared hmt (List.mem_of_getElem? hmt')
    hstored hstored'
  rw [uses_of_origin h.bound h.genuine ha horigin hmt'] at huses'
  cases huses'

/-- Only configured members are left over. -/
theorem notMem_left_of_free {b : Reader} (hleft : List.Forall₂ (fun entry w =>
      LeftWrites b m s ref t p.target entry.1 w) (leftOver c sources feeds) ws') {slot : Nat}
    (hfree : ∀ mt ∈ c.members, ∀ member, ¬ mt.Stored t p.target member slot) :
    ∀ w ∈ ws', w.1 ≠ slot := by
  rintro w hw rfl
  obtain ⟨mt, place, hmt, -, member, hstored, -⟩ := exists_of_mem_left hw hleft
  exact hfree mt (List.mem_of_getElem? hmt) member hstored

/-- Nothing feeds the parameter of a step, if no configured parameter selects it and its slot is of no
configured member. -/
theorem Run.unfed (h : Run t₀ t strategy c p sources feeds steps m s ref) {step : SlotInit}
    (hstep : step ∈ steps) (hnone : ∀ target ∈ c.parameters,
      Fitting.selected? p.parameters target.parameter ≠ some step.parameter)
    (hfree : ∀ mt ∈ c.members, ∀ member, ¬ mt.Stored t p.target member step.slot)
    {feed? : Option Feed} (hfeed : feeds[step.parameter]? = some feed?) : feed? = none := by
  match feed? with
  | none => rfl
  | some (.parameter place) =>
    obtain ⟨target, htarget, hselected⟩ := h.bound.resolved.placed.allowed _ _ hfeed
    exact absurd hselected (hnone target (List.mem_of_getElem? htarget))
  | some (.member place) =>
    obtain ⟨mt, -, hmt, -, -⟩ := h.bound.resolved.placed.allowed _ _ hfeed
    have hmem := List.mem_of_getElem? hmt
    obtain ⟨a, ha, horigin⟩ := origin_of_fed h.bound hfeed hmt
    obtain ⟨member, slot, hstored⟩ := h.stored.stored mt hmem
    -- the only step of the parameter writes the slot of the member
    have hown := h.stored.own mt hmem member slot hstored _ a ha horigin
    have hsame := List.inj_on_of_nodup_map h.stored.parametersNodup hown hstep rfl
    rw [← hsame] at hfree
    exact absurd hstored (hfree mt hmem member)

/-- **Every slot is accounted for.** -/
theorem Run.delivers (h : Run t₀ t strategy c p sources feeds steps m s ref)
    (hgives : List.Forall₂ (fun entry v =>
      FedGives (c.reader t₀ strategy) m s ref entry.1 entry.2 v)
      (p.parameters.zip (feeds.map (fed? c sources))) vs)
    (hsteps : List.Forall₂ (m.StepWrites p.target vs) steps ws)
    (hleft : List.Forall₂ (fun entry w =>
      LeftWrites (c.reader t₀ strategy) m s ref t p.target entry.1 w)
      (leftOver c sources feeds) ws') :
    Delivers m s ref (c.reader t₀ strategy) t c p steps
      ((m.zeros p.target).writes (ws ++ ws')).slots where
  length := by
    rw [Record.length_writes, Machine.zeros, List.length_map]
  constructed := by
    intro mt hmt member slot hstored i a param ha horigin hparam
    obtain ⟨place, e, hfeed, hplace, he⟩ := fed_of_origin h.bound h.genuine ha hmt horigin
    have hstep := h.stored.own mt hmt member slot hstored i a ha horigin
    have hnot := h.notMem_left hleft hmt hstored ha horigin
    obtain ⟨type, w, htype, hcast, hheld⟩ := h.held_of_step hsteps hstep hnot
    have hvalue := gives_of_forall₂ hgives hparam hfeed
    rw [fed?_member hplace he] at hvalue
    rw [slotType_of_stored h.bound h.genuine h.later h.declared hmt hstored] at htype
    cases htype
    exact ⟨_, w, hvalue, hcast, hheld⟩
  assigned := by
    intro mt hmt member slot hstored hnone
    obtain ⟨place, hplace⟩ := List.mem_iff_getElem?.1 hmt
    have huses := not_uses_of_origin h.bound hplace hnone
    obtain ⟨e, he, -⟩ := exists_getElem?_of_forall₂ h.bound.bound hplace
    obtain ⟨w, hw, member', hstored', hvalue⟩ :=
      exists_of_mem_forall₂ hleft.flip (leftOver_mem hplace he huses)
    obtain rfl : member' = member := Except.ok.inj (hstored'.found.symm.trans hstored.found)
    obtain rfl : w.1 = slot := Option.some.inj (hstored'.slot.symm.trans hstored.slot)
    have hlt : w.1 < ((m.zeros p.target).writes ws).slots.length := by
      rw [Record.length_writes, Machine.zeros, List.length_map]
      exact (List.getElem?_eq_some_iff.1
        (slotType_of_stored h.bound h.genuine h.later h.declared hmt hstored)).1
    refine ⟨w.2, hvalue, ?_⟩
    rw [Record.writes_append]
    exact Record.getElem?_writes_of_mem hw (h.nodup_left hleft) hlt
  configured := by
    intro target htarget step hstep hselected hfree
    obtain ⟨place, hplace⟩ := List.mem_iff_getElem?.1 htarget
    obtain ⟨i, hi, hfeed⟩ := h.bound.resolved.configured target place hplace
    obtain rfl : i = step.parameter := Option.some.inj (hi.symm.trans hselected)
    obtain ⟨type, w, htype, hcast, hheld⟩ :=
      h.held_of_step hsteps hstep (notMem_left_of_free hleft hfree)
    obtain ⟨param, -, -, hparam, -⟩ := h.sound.step steps h.stored.body step hstep
    have hvalue := gives_of_forall₂ hgives hparam hfeed
    rw [fed?, hplace] at hvalue
    exact ⟨param, type, _, w, hparam, htype, hvalue, hcast, hheld⟩
  defaulted := by
    intro step hstep hnone hfree
    obtain ⟨type, w, htype, hcast, hheld⟩ :=
      h.held_of_step hsteps hstep (notMem_left_of_free hleft hfree)
    obtain ⟨param, -, -, hparam, -⟩ := h.sound.step steps h.stored.body step hstep
    have hlt : step.parameter < feeds.length := by
      rw [h.bound.resolved.placed.length]
      exact (List.getElem?_eq_some_iff.1 hparam).1
    have hfeed := List.getElem?_eq_getElem hlt
    rw [h.unfed hstep hnone hfree hfeed] at hfeed
    have hoptional := h.bound.resolved.optional _ param hparam hfeed
    obtain ⟨d, hd⟩ := Option.isSome_iff_exists.1 hoptional
    have hvalue : m.types.cast param.type (param.default?.getD .null) =
        .ok (vs[step.parameter]?.getD .null) := gives_of_forall₂ hgives hparam hfeed
    -- a default is of its parameter's type already
    have hconf := h.sound.default param (List.mem_of_getElem? hparam) d hd
    rw [hd, Option.getD_some, TypeTable.cast_of_conforms hconf] at hvalue
    rw [← Except.ok.inj hvalue] at hcast
    exact ⟨param, type, d, w, hparam, hd, htype, hcast, hheld⟩
  zero := by
    intro slot type htype hsteps' hfree
    have hnot : ∀ w ∈ ws, w.1 ≠ slot := by
      intro w hw
      obtain ⟨step, hstep, hwrites⟩ := exists_of_mem_forall₂ hsteps hw
      rw [hwrites.slot]
      exact hsteps' step hstep
    rw [Record.writes_append, Record.getElem?_writes_of_notMem (notMem_left_of_free hleft hfree),
      Record.getElem?_writes_of_notMem hnot, Machine.zeros, List.getElem?_map, htype]
    rfl

end Run

/-! ## End to end -/

open Compilation (people codeField codedSource)

/-- The constructor of a badge: a code, and a rank with a default. -/
def badgeConstructor : Constructor where
  parameters := [⟨"Code", .int64, none⟩, ⟨"Rank", .int32, some (.int32 1)⟩]
  visibility := .open
  body := .assign [⟨0, 0⟩, ⟨1, 1⟩]

/-- Persons, and badges, whose numbers are wider. -/
def badges : TypeTable :=
  people.push ⟨"Badge", .declared, none, [], [],
    [⟨"Code", .int64, .open, false, false, 0⟩, ⟨"Rank", .int64, .open, false, false, 1⟩], [], [],
    [badgeConstructor], [.int64, .int64], []⟩

/-- The badge of a person. -/
def badgeConfiguration : Configuration :=
  ⟨0, .declared 1, [⟨.name "Code", .inferred, .auto, none, none⟩], [], none, none⟩

/-- The compiled badge of a person. -/
def badge : CompiledProjection where
  source := 0
  constructor := ⟨1, 0, badgeConstructor⟩
  args := [⟨"Code", .member "Code", .convert .widen codedSource .int64, none⟩,
    ⟨"Rank", .default, .constant (.int32 1) .int32, some (.constant (.int32 1) .int32)⟩]
  assignments := []
  full := .assembled 0 ⟨1, 0, badgeConstructor⟩
    [.convert .widen codedSource .int64, .constant (.int32 1) .int32] []

/-- A workshop with persons and badges. -/
def badgeShop : Workshop := ⟨badges, .new .default, .empty, 0⟩

theorem run_badge : (Compilation.compile .exact badgeConfiguration).run.run badgeShop =
    (.ok badge, badgeShop) := rfl

theorem declared_badges : badges.Declared := by
  have hpeople : people.Declared := .declare (d := ⟨"Person", .declared, none, [], [],
    [⟨"Code", .int32, .open, false, false⟩], [], [], []⟩) .empty (by simp) rfl
  exact .declare (d := ⟨"Badge", .declared, none, [], [],
    [⟨"Code", .int64, .open, false, false⟩, ⟨"Rank", .int64, .open, false, false⟩], [], [],
    [.assigning [(⟨"Code", .int64, none⟩, "Code"), (⟨"Rank", .int32, some (.int32 1)⟩, "Rank")]]⟩)
    hpeople (by simp) rfl
/-- A person whose code is seven. -/
def persons : Store :=
  (Store.empty.push ⟨0, [.int32 0]⟩).setSlot 0 0 (.int32 7)

/-- A machine for badges, without supplied bodies. -/
def badgeMachine : Machine := ⟨badges, fun _ _ _ => pure .null, fun _ _ _ => pure ()⟩

theorem wellTyped_persons : persons.WellTyped badges := by
  have hperson : 0 < badges.size := by decide
  have hzero := (Store.wellTyped_empty badges).push hperson
  exact hzero.setSlot (r := ⟨0, [.int32 0]⟩) rfl rfl rfl fun _ h => by simp [Value.refs] at h

theorem slotStored_badge : SlotStored (badgeConfiguration.reader badges .exact) badges
    badgeConfiguration badge [⟨0, 0⟩, ⟨1, 1⟩] where
  memberSources := by
    intro mt hmt
    obtain rfl := List.mem_singleton.1 hmt
    intro ms hms
    have hcode : (badgeConfiguration.reader badges .exact).members? (.member "Code") .inferred =
        some [.field ⟨0, 0, codeField⟩] := rfl
    cases hms.symm.trans hcode
    exact fun member hmember => List.mem_singleton.1 hmember ▸ rfl
  parameterSources := by simp [badgeConfiguration]
  stored := by
    intro mt hmt
    rw [List.mem_singleton.1 hmt]
    exact ⟨_, 0, rfl, rfl⟩
  body := rfl
  parametersNodup := by decide
  slotsNodup := by decide
  own := by
    intro mt hmt member slot hstored i a ha horigin
    rw [List.mem_singleton.1 hmt] at hstored
    obtain rfl := Except.ok.inj hstored.found
    cases hstored.slot
    match i, ha with
    | 0, _ => decide
    | 1, ha =>
      cases ha
      cases horigin

end CompiledProjection
end Reshape
