import Reshape.Proofs.Model.Declared

/-!
# Shadowing

What a name means on a type is decided twice: lookup goes up the base chain and takes the first member
of the name, and a constructor that is declared takes the first own member of the name that has an
instance slot and otherwise asks the base.  The two agree unless an own member without an instance slot
hides a member of the base that has one (`TypeTable.Masks`).  There the constructor writes the slot of
the hidden member, which the name no longer leads to
(`TypeTable.constructors_initialise_iff`).
-/

namespace Reshape
namespace TypeTable

variable {t : TypeTable}

/-! ## Own members by name -/

/-- Checked member names are all different. -/
theorem nodup_of_checkMemberNames {type : String} {seen names : List String}
    (h : checkMemberNames type seen names = .ok ()) :
    names.Nodup ∧ ∀ name ∈ names, name ∉ seen := by
  induction names generalizing seen with
  | nil => simp
  | cons name rest ih =>
    rw [checkMemberNames] at h
    obtain ⟨-, h⟩ := guard_eq_ok.1 h
    obtain ⟨hseen, h⟩ := guard_eq_ok.1 h
    obtain ⟨hnodup, hrest⟩ := ih h
    refine ⟨List.nodup_cons.2 ⟨fun hmem => ?_, hnodup⟩, ?_⟩
    · exact hrest name hmem (List.mem_cons_self ..)
    · intro other hother hmem
      rcases List.mem_cons.1 hother with rfl | hother
      · exact hseen (by simpa using hmem)
      · exact hrest other hother (List.mem_cons_of_mem _ hmem)

/-- The own members of a type with checked names are told apart by their names. -/
theorem nodup_ownMembers_modelOf {d : Declaration} {constructors : List Constructor}
    (h : checkMemberNames d.name [] (d.fields.map (·.name) ++ d.properties.map (·.name)) = .ok ()) :
    (((t.push (t.modelOf d constructors)).ownMembers t.size).map MemberRef.name).Nodup := by
  have hfields : (t.fieldLayout d).1.map (·.name) = d.fields.map (·.name) := by
    refine map_eq_of_forall₂ (Layout.forall₂_fields _ _) ?_
    rintro spec f ⟨slot, rfl⟩
    rfl
  have hproperties : (t.propertyLayout d).1.map (·.name) = d.properties.map (·.name) := by
    refine map_eq_of_forall₂ (Layout.forall₂_properties _ _ _) ?_
    rintro spec p ⟨slot, place, rfl⟩
    rfl
  rw [map_name_ownMembers, model_push_size]
  simp only [modelOf, hfields, hproperties]
  exact List.perm_append_comm.nodup_iff.1 (nodup_of_checkMemberNames h).1

section Own

variable {id : TypeId} (hnodup : ((t.ownMembers id).map MemberRef.name).Nodup)
include hnodup

/-- An own member of a name that resolves to no own slot has none. -/
theorem backingSlot?_of_ownSlot?_eq_none {own : MemberRef} (hown : own ∈ t.ownMembers id)
    (h : ownSlot? (t.model id).fields (t.model id).properties own.name = none) :
    own.backingSlot? = none := by
  have hsame : ∀ other ∈ t.ownMembers id, other.name = own.name → other = own :=
    fun other hother hname => List.inj_on_of_nodup_map hnodup hother hown hname
  rw [ownSlot?] at h
  split at h
  · cases h
  rename_i hfields
  rcases List.mem_append.1 hown with hmem | hmem
  · obtain ⟨p, hp, rfl⟩ := List.mem_map.1 hmem
    obtain ⟨place, property, hplace, rfl⟩ := mem_zipIdx_map hp
    cases hfound : (t.model id).properties.find?
        (fun p => p.name == property.name && !p.isStatic) with
    | none =>
      have hskipped := List.find?_eq_none.1 hfound property (List.mem_of_getElem? hplace)
      have hstatic : property.isStatic = true := by simpa using hskipped
      simp [MemberRef.backingSlot?, propertyRef, hstatic]
    | some other =>
      -- names are used once, so it is the property itself that was found
      obtain ⟨place', hother⟩ :=
        exists_mem_ownMembers_property (List.mem_of_find?_eq_some hfound)
      have hname := List.find?_some hfound
      simp only [Bool.and_eq_true, beq_iff_eq] at hname
      have heq := hsame _ hother hname.1
      have heq : other = property := congrArg PropertyRef.property (MemberRef.property.inj heq)
      have hbacking : (some other).bind (fun p => p.backing?.map fun slot => (slot, p.type)) = none := by
        rw [← hfound]
        exact h
      have hnone : property.backing? = none := by simpa [heq] using hbacking
      simp [MemberRef.backingSlot?, propertyRef, hnone]
  · obtain ⟨f, hf, rfl⟩ := List.mem_map.1 hmem
    obtain ⟨place, field, hplace, rfl⟩ := mem_zipIdx_map hf
    have hskipped := List.find?_eq_none.1 hfields field (List.mem_of_getElem? hplace)
    have hstatic : field.isStatic = true := by simpa [MemberRef.name] using hskipped
    simp [MemberRef.backingSlot?, hstatic]

/-- What a name resolves to first is the slot of the own member of that name. -/
theorem ownSlot?_eq_backingSlot? {own : MemberRef} (hown : own ∈ t.ownMembers id) :
    (ownSlot? (t.model id).fields (t.model id).properties own.name).map Prod.fst =
      own.backingSlot? := by
  cases h : ownSlot? (t.model id).fields (t.model id).properties own.name with
  | none => exact (backingSlot?_of_ownSlot?_eq_none hnodup hown h).symm
  | some found =>
    obtain ⟨other, hother, hname, -, hslot⟩ := exists_of_mem_shares (ownSlot?_share h)
    rw [← List.inj_on_of_nodup_map hnodup hother hown hname, hslot]
    rfl

end Own

/-! ## What a name means on a new definition -/

/-- A name that no own member has means what it means on the base. -/
theorem findMember?_push_of_forall_ne {m : TypeModel}
    (hbase : ∀ base, m.base? = some base → base < t.size) {name : String}
    (hother : ∀ own ∈ (t.push m).ownMembers t.size, own.name ≠ name) :
    (t.push m).findMember? t.size name = m.base?.bind fun base => t.findMember? base name := by
  have hown : ((t.push m).ownMembers t.size).find? (·.name == name) = none :=
    List.find?_eq_none.2 fun own hmem hname => hother own hmem (beq_iff_eq.1 hname)
  rw [findMember?_eq_findSome?, lineage_push_size, List.findSome?_cons, hown]
  cases hb : m.base? with
  | none => rfl
  | some base =>
    rw [Option.bind_some, ← (extends_push t m).findMember?_eq (hbase base hb), findMember?_eq_findSome?,
      (extends_push t m).lineage_eq (hbase base hb)]

/-- The member that a name leads to has an instance slot, and this is the one. -/
def LeadsTo (t : TypeTable) (id : TypeId) (name : String) (slot : Nat) : Prop :=
  ∃ seen, t.findMember? id name = some seen ∧ seen.backingSlot? = some slot

/-- An own member without an instance slot hides a member of the base that has one. -/
structure Masks (t : TypeTable) (id : TypeId) (name : String) (own hidden : MemberRef) : Prop where
  /-- The type has the one member itself. -/
  mem : own ∈ t.ownMembers id
  /-- It has the name. -/
  named : own.name = name
  /-- It has no instance slot. -/
  slotless : own.backingSlot? = none
  /-- On the base the name leads to the other member. -/
  base : ∃ base, (t.model id).base? = some base ∧ t.findMember? base name = some hidden
  /-- That one has an instance slot. -/
  backed : hidden.backingSlot?.isSome = true

/-- A name that resolves to no own slot resolves to what it leads to on the base. -/
theorem resolveSlot?_of_ownSlot?_eq_none {d : Declaration} {name : String}
    (h : ownSlot? (t.fieldLayout d).1 (t.propertyLayout d).1 name = none) :
    (t.resolveSlot? d.base? (t.fieldLayout d).1 (t.propertyLayout d).1 name).map Prod.fst =
      (d.base?.bind fun base => t.findMember? base name).bind MemberRef.backingSlot? := by
  rw [resolveSlot?, h]
  cases d.base? with
  | none => rfl
  | some base => cases hfound : t.findMember? base name <;> simp [hfound, Function.comp_def]

section Built

variable {d : Declaration} {constructors : List Constructor}

/-- A member is masked where an own member of its name has no instance slot and the base has a slot
for the name. -/
theorem exists_masks_iff (hbase : ∀ base, d.base? = some base → base < t.size) {name : String}
    {slot : Nat} :
    (∃ own hidden, (t.push (t.modelOf d constructors)).Masks t.size name own hidden ∧
        hidden.backingSlot? = some slot) ↔
      (∃ own ∈ (t.push (t.modelOf d constructors)).ownMembers t.size,
        own.name = name ∧ own.backingSlot? = none) ∧
      (d.base?.bind fun base => t.findMember? base name).bind MemberRef.backingSlot? = some slot := by
  have hmodel := model_push_size t (t.modelOf d constructors)
  have he := extends_push t (t.modelOf d constructors)
  constructor
  · rintro ⟨own, hidden, hmasks, hslot⟩
    obtain ⟨base, hb, hhidden⟩ := hmasks.base
    rw [hmodel] at hb
    have hb : d.base? = some base := hb
    rw [he.findMember?_eq (hbase base hb)] at hhidden
    refine ⟨⟨own, hmasks.mem, hmasks.named, hmasks.slotless⟩, ?_⟩
    rw [hb, Option.bind_some, hhidden, Option.bind_some, hslot]
  · rintro ⟨⟨own, hown, hname, hslotless⟩, h⟩
    obtain ⟨hidden, h, hslot⟩ := Option.bind_eq_some_iff.1 h
    obtain ⟨base, hb, hhidden⟩ := Option.bind_eq_some_iff.1 h
    refine ⟨own, hidden, ⟨hown, hname, hslotless, ⟨base, ?_, ?_⟩, by rw [hslot]; rfl⟩, hslot⟩
    · rw [hmodel]
      exact hb
    · rw [he.findMember?_eq (hbase base hb)]
      exact hhidden

/-- A name that no own member has leads where it leads on the base. -/
theorem leadsTo_iff_of_forall_ne (hbase : ∀ base, d.base? = some base → base < t.size) {name : String}
    {slot : Nat}
    (hother : ∀ own ∈ (t.push (t.modelOf d constructors)).ownMembers t.size, own.name ≠ name) :
    (t.push (t.modelOf d constructors)).LeadsTo t.size name slot ↔
      (d.base?.bind fun base => t.findMember? base name).bind MemberRef.backingSlot? = some slot := by
  rw [LeadsTo, findMember?_push_of_forall_ne hbase hother, Option.bind_eq_some_iff]
  exact Iff.rfl

/-- A name that no own member has resolves to no own slot. -/
theorem ownSlot?_eq_none_of_forall_ne {name : String}
    (hother : ∀ own ∈ (t.push (t.modelOf d constructors)).ownMembers t.size, own.name ≠ name) :
    ownSlot? (t.fieldLayout d).1 (t.propertyLayout d).1 name = none := by
  refine Option.eq_none_iff_forall_not_mem.2 fun ⟨slot, type⟩ hfound => ?_
  have hshare : (⟨name, slot, type⟩ : Share) ∈
      ((t.push (t.modelOf d constructors)).model t.size).shares false := by
    rw [model_push_size]
    exact ownSlot?_share hfound
  obtain ⟨own, hmem, hname, -⟩ := exists_of_mem_shares hshare
  exact hother own hmem hname

variable (hchecked : checkMemberNames d.name []
  (d.fields.map (·.name) ++ d.properties.map (·.name)) = .ok ())
include hchecked

/-- The name of an own member leads to the slot of that member. -/
theorem leadsTo_iff_of_mem {own : MemberRef} {slot : Nat}
    (hown : own ∈ (t.push (t.modelOf d constructors)).ownMembers t.size) :
    (t.push (t.modelOf d constructors)).LeadsTo t.size own.name slot ↔
      own.backingSlot? = some slot := by
  have hfound := findMember?_of_own (lineage_push_size _ _) (nodup_ownMembers_modelOf hchecked) hown
  simp [LeadsTo, hfound]

/-- A name leads to no slot where it is masked. -/
theorem Masks.not_leadsTo {name : String} {own hidden : MemberRef} {slot : Nat}
    (h : (t.push (t.modelOf d constructors)).Masks t.size name own hidden) :
    ¬(t.push (t.modelOf d constructors)).LeadsTo t.size name slot := by
  rw [← h.named, leadsTo_iff_of_mem hchecked h.mem, h.slotless]
  exact nofun

/-- The name of an own member resolves to its slot, and if it has none to what the name leads to on the
base. -/
theorem resolveSlot?_iff_of_mem {own : MemberRef} {slot : Nat}
    (hown : own ∈ (t.push (t.modelOf d constructors)).ownMembers t.size) :
    (t.resolveSlot? d.base? (t.fieldLayout d).1 (t.propertyLayout d).1 own.name).map Prod.fst = some slot ↔
      own.backingSlot? = some slot ∨ own.backingSlot? = none ∧
        (d.base?.bind fun base => t.findMember? base own.name).bind MemberRef.backingSlot? = some slot := by
  have hslot : (ownSlot? (t.fieldLayout d).1 (t.propertyLayout d).1 own.name).map Prod.fst =
      own.backingSlot? := by
    have hslot := ownSlot?_eq_backingSlot? (nodup_ownMembers_modelOf hchecked) hown
    rwa [model_push_size] at hslot
  rw [← hslot]
  cases hresolved : ownSlot? (t.fieldLayout d).1 (t.propertyLayout d).1 own.name with
  | some found =>
    rw [resolveSlot?, hresolved]
    simp
  | none =>
    rw [resolveSlot?_of_ownSlot?_eq_none hresolved]
    simp

variable (hbase : ∀ base, d.base? = some base → base < t.size)
include hbase

/-- **The slot that a constructor takes for a name** is the one that the name leads to, or the one of
the member that is masked. -/
theorem resolveSlot?_iff {name : String} {slot : Nat} :
    (t.resolveSlot? d.base? (t.fieldLayout d).1 (t.propertyLayout d).1 name).map Prod.fst = some slot ↔
      (t.push (t.modelOf d constructors)).LeadsTo t.size name slot ∨
        ∃ own hidden, (t.push (t.modelOf d constructors)).Masks t.size name own hidden ∧
          hidden.backingSlot? = some slot := by
  rw [exists_masks_iff hbase]
  by_cases hown : ∃ own ∈ (t.push (t.modelOf d constructors)).ownMembers t.size, own.name = name
  · obtain ⟨own, hown, rfl⟩ := hown
    have hslotless : (∃ other ∈ (t.push (t.modelOf d constructors)).ownMembers t.size,
        other.name = own.name ∧ other.backingSlot? = none) ↔ own.backingSlot? = none := by
      constructor
      · rintro ⟨other, hother, hname, hslotless⟩
        rwa [List.inj_on_of_nodup_map (nodup_ownMembers_modelOf hchecked) hother hown hname]
          at hslotless
      · exact fun hslotless => ⟨own, hown, rfl, hslotless⟩
    rw [leadsTo_iff_of_mem hchecked hown, resolveSlot?_iff_of_mem hchecked hown, hslotless]
  · have hother : ∀ own ∈ (t.push (t.modelOf d constructors)).ownMembers t.size, own.name ≠ name :=
      fun own hmem hname => hown ⟨own, hmem, hname⟩
    rw [resolveSlot?_of_ownSlot?_eq_none (ownSlot?_eq_none_of_forall_ne hother),
      leadsTo_iff_of_forall_ne hbase hother]
    refine ⟨.inl, ?_⟩
    rintro (h | ⟨⟨own, hmem, hname, -⟩, -⟩)
    · exact h
    · exact absurd hname (hother own hmem)

end Built

/-! ## Constructors -/

/-- A resolved step keeps its parameter and takes the slot that its name resolves to. -/
theorem resolveStep_eq_ok {d : Declaration} {fields : List Field} {properties : List Property}
    {parameters : List Parameter} {step : Nat × String} {init : SlotInit}
    (h : t.resolveStep d fields properties parameters step = .ok init) :
    init.parameter = step.1 ∧
      (t.resolveSlot? d.base? fields properties step.2).map Prod.fst = some init.slot := by
  unfold resolveStep at h
  split at h
  · cases h
  · split at h
    · cases h
    · rename_i slot type hslot
      split at h
      · cases h
      · cases h
        exact ⟨rfl, by rw [hslot]; rfl⟩

/-- A built constructor has the parameters that were declared, and its steps are the resolved ones. -/
theorem buildConstructor_eq_ok {d : Declaration} {fields : List Field} {properties : List Property}
    {spec : ConstructorSpec} {c : Constructor}
    (h : t.buildConstructor d fields properties spec = .ok c) :
    c.parameters = spec.parameters ∧ ∀ steps, spec.init = .assign steps → ∃ inits,
      c.body = .assign inits ∧ List.Forall₂ (fun step init =>
        t.resolveStep d fields properties spec.parameters step = .ok init) steps inits := by
  obtain ⟨_, -, h⟩ := bind_eq_ok.1 h
  split at h
  · rename_i body hinit
    cases h
    refine ⟨rfl, fun steps hsteps => ?_⟩
    cases hinit.symm.trans hsteps
  · rename_i named hinit
    obtain ⟨inits, hinits, h⟩ := bind_eq_ok.1 h
    cases h
    refine ⟨rfl, fun steps hsteps => ⟨inits, rfl, ?_⟩⟩
    cases hinit.symm.trans hsteps
    exact mapM_eq_ok.1 hinits

/-- **Constructors write what names lead to, except for masked members.**  Each step of a constructor
of a built type writes the slot of the member that its name leads to exactly if that name masks no
member, and otherwise the slot of the masked one; and a name that leads to no instance slot and masks
none makes the build fail. -/
theorem constructors_initialise_iff (d : Declaration)
    (hbase : ∀ base, d.base? = some base → base < t.size) :
    (∀ m, t.build d = .ok m → List.Forall₂ (fun spec c =>
      c.parameters = spec.parameters ∧ ∀ steps, spec.init = .assign steps → ∃ inits,
        c.body = .assign inits ∧ List.Forall₂ (fun step init => init.parameter = step.1 ∧
          ((t.push m).LeadsTo t.size step.2 init.slot ↔
            ¬∃ own hidden, (t.push m).Masks t.size step.2 own hidden) ∧
          ∀ own hidden, (t.push m).Masks t.size step.2 own hidden →
            hidden.backingSlot? = some init.slot) steps inits)
      (constructorSpecs d) m.constructors) ∧
    ∀ constructors, ∀ spec ∈ constructorSpecs d, ∀ steps, spec.init = .assign steps →
      ∀ step ∈ steps, (∀ slot, ¬(t.push (t.modelOf d constructors)).LeadsTo t.size step.2 slot) →
        (¬∃ own hidden, (t.push (t.modelOf d constructors)).Masks t.size step.2 own hidden) →
          ∃ e, t.build d = .error e := by
  constructor
  · intro m hm
    obtain ⟨-, hchecked, constructors, hconstructors, rfl⟩ := build_eq_ok hm
    refine hconstructors.imp fun spec c hc => ?_
    obtain ⟨hparameters, hsteps⟩ := buildConstructor_eq_ok hc
    refine ⟨hparameters, fun steps hinit => ?_⟩
    obtain ⟨inits, hbody, hinits⟩ := hsteps steps hinit
    refine ⟨inits, hbody, hinits.imp fun step init hstep => ?_⟩
    obtain ⟨hparameter, hslot⟩ := resolveStep_eq_ok hstep
    have hiff : ∀ slot, (t.resolveSlot? d.base? (t.fieldLayout d).1 (t.propertyLayout d).1
        step.2).map Prod.fst = some slot ↔ (t.push (t.modelOf d constructors)).LeadsTo t.size step.2 slot ∨
          ∃ own hidden, (t.push (t.modelOf d constructors)).Masks t.size step.2 own hidden ∧
            hidden.backingSlot? = some slot :=
      fun _ => resolveSlot?_iff hchecked hbase
    refine ⟨hparameter, ⟨?_, fun hunmasked => ?_⟩, fun own hidden hmasks => ?_⟩
    · rintro hleads ⟨own, hidden, hmasks⟩
      exact hmasks.not_leadsTo hchecked hleads
    · rcases (hiff init.slot).1 hslot with hleads | ⟨own, hidden, hmasks, -⟩
      · exact hleads
      · exact absurd ⟨own, hidden, hmasks⟩ hunmasked
    · obtain ⟨slot, hheld⟩ := Option.isSome_iff_exists.1 hmasks.backed
      rw [hheld, ← (hiff slot).2 (.inr ⟨own, hidden, hmasks, hheld⟩), hslot]
  · intro constructors spec hspec steps hinit step hstep hleads hunmasked
    cases hbuild : t.build d with
    | error e => exact ⟨e, rfl⟩
    | ok m =>
      exfalso
      obtain ⟨-, hchecked, built, hbuilt, -⟩ := build_eq_ok hbuild
      obtain ⟨c, -, hc⟩ := exists_of_mem_forall₂ hbuilt.flip hspec
      obtain ⟨inits, -, hinits⟩ := (buildConstructor_eq_ok hc).2 steps hinit
      obtain ⟨init, -, hinit⟩ := exists_of_mem_forall₂ hinits.flip hstep
      rcases (resolveSlot?_iff hchecked hbase).1 (resolveStep_eq_ok hinit).2 with
        h | ⟨own, hidden, hmasks, -⟩
      · exact hleads init.slot h
      · exact hunmasked ⟨own, hidden, hmasks⟩

/-! ## Branches of accounts -/

/-- Accounts have a code and a name. -/
def accounts : TypeTable :=
  TypeTable.empty.push ⟨"Account", .declared, none, [], [], [⟨"Code", .int32, .open, false, false, 0⟩,
    ⟨"Name", .text, .open, false, false, 1⟩], [], [], [⟨[], .open, .assign []⟩], [.int32, .text], []⟩

/-- Branches have a code in common and a name of their own, and a constructor for both. -/
def branch : Declaration where
  name := "Branch"
  origin := .declared
  base? := some 0
  interfaces := []
  attributes := []
  fields := [⟨"Code", .int32, .open, true, false⟩, ⟨"Name", .text, .open, false, false⟩]
  properties := []
  methods := []
  constructors := [⟨[⟨"code", .int32, none⟩, ⟨"name", .text, none⟩], .open,
    .assign [(0, "Code"), (1, "Name")]⟩]

/-- What the declaration of branches is built to. -/
def branchModel : TypeModel :=
  accounts.modelOf branch [⟨[⟨"code", .int32, none⟩, ⟨"name", .text, none⟩], .open,
    .assign [⟨0, 0⟩, ⟨1, 2⟩]⟩]

theorem declared_accounts : accounts.Declared :=
  .declare (d := ⟨"Account", .declared, none, [], [], [⟨"Code", .int32, .open, false, false⟩,
    ⟨"Name", .text, .open, false, false⟩], [], [], []⟩) .empty (by simp) rfl

theorem build_branch : accounts.build branch = .ok branchModel := rfl

/-- The code of branches hides the code that an account has a slot for. -/
theorem masks_branch : (accounts.push branchModel).Masks 1 "Code"
    (.field ⟨1, 0, ⟨"Code", .int32, .open, true, false, 0⟩⟩)
    (.field ⟨0, 0, ⟨"Code", .int32, .open, false, false, 0⟩⟩) :=
  ⟨List.mem_cons_self .., rfl, rfl, ⟨0, rfl, rfl⟩, rfl⟩

/-- The constructor of branches writes the branch's own name, and the code of the account. -/
theorem constructors_initialise_iff_branch :
    (∀ base, branch.base? = some base → base < accounts.size) ∧
    accounts.build branch = .ok branchModel ∧
    (accounts.push branchModel).LeadsTo 1 "Name" 2 ∧
    ¬(accounts.push branchModel).LeadsTo 1 "Code" 0 := by
  have hbase : ∀ base, branch.base? = some base → base < accounts.size := by
    rintro base ⟨⟩
    decide
  refine ⟨hbase, build_branch, ?_⟩
  obtain ⟨hbuilt, -⟩ := constructors_initialise_iff (t := accounts) branch hbase
  obtain _ | ⟨⟨-, hsteps⟩, -⟩ := hbuilt branchModel build_branch
  obtain ⟨inits, hbody, hinits⟩ := hsteps _ rfl
  cases hbody
  obtain _ | ⟨⟨-, hcode, -⟩, hrest⟩ := hinits
  obtain _ | ⟨⟨-, hname, -⟩, -⟩ := hrest
  refine ⟨hname.2 ?_, fun hleads => hcode.1 hleads ⟨_, _, masks_branch⟩⟩
  -- the name of the branch has a slot, so it masks nothing
  rintro ⟨own, hidden, hmasks⟩
  have hmem : own ∈ [.field ⟨1, 0, ⟨"Code", .int32, .open, true, false, 0⟩⟩,
      .field ⟨1, 1, ⟨"Name", .text, .open, false, false, 2⟩⟩] := hmasks.mem
  have hnamed : own.name = "Name" := hmasks.named
  have hslotless := hmasks.slotless
  simp only [List.mem_cons, List.not_mem_nil, or_false] at hmem
  rcases hmem with rfl | rfl
  · simp [MemberRef.name] at hnamed
  · simp [MemberRef.backingSlot?] at hslotless

/-- **A constructor can write what its name does not lead to**: the slot of a member of the base that
an own static member hides. -/
theorem exists_hidden_initialised : ¬∀ (t : TypeTable) (d : Declaration) (m : TypeModel), t.Declared →
    (∀ base, d.base? = some base → base < t.size) → t.build d = .ok m →
      List.Forall₂ (fun spec c => ∀ steps inits, spec.init = .assign steps →
        c.body = .assign inits → List.Forall₂ (fun step init =>
          (t.push m).LeadsTo t.size step.2 init.slot) steps inits)
        (constructorSpecs d) m.constructors := by
  intro h
  have hbase : ∀ base, branch.base? = some base → base < accounts.size := by
    rintro base ⟨⟩
    decide
  obtain _ | ⟨hsteps, -⟩ := h accounts branch branchModel declared_accounts hbase build_branch
  obtain _ | ⟨hcode, -⟩ := hsteps _ _ rfl rfl
  exact masks_branch.not_leadsTo (t := accounts) rfl hcode

end TypeTable
end Reshape
