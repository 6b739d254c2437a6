import Reshape.Proofs.Model.Shadowing
import Reshape.Proofs.Store.Receivers

/-!
# Which member has which slot

Each type has one member for each of its slots and one slot for each member that was declared with one
(`TypeTable.allocates_of_build`).  The instance slots are shared out over the whole base chain, those of the
base first, and members that are hidden keep theirs; each type shares out its static slots among its own
members.  The accessors of a property with a slot read and write that slot and no other.
-/

namespace Reshape

/-! ## Static slots -/

/-- The type keeps the static member in the slot. -/
structure MemberRef.OccupiesStatic (member : MemberRef) (t : TypeTable) (id : TypeId) (slot : Nat) : Prop where
  /-- The member is declared. -/
  hasMember : t.HasMember member
  /-- The type itself declares it. -/
  owner : member.owner = id
  /-- It belongs to the type and not to its instances. -/
  isStatic : member.isStatic = true
  /-- The slot is the member's. -/
  slot : member.slot? = some slot

namespace MemberRef

variable {m : MemberRef} {slot : Nat}

/-- A static member with a slot has that slot as its share. -/
theorem share?_of_isStatic (hstatic : m.isStatic = true) (h : m.slot? = some slot) :
    m.share? true = some ⟨m.name, slot, m.type⟩ := by
  cases m with
  | field f =>
    cases h
    exact if_pos hstatic
  | property p =>
    have hbacking : p.property.backing? = some slot := h
    exact (if_pos hstatic).trans (by rw [hbacking]; rfl)

theorem of_share?_true {share : Share} (h : m.share? true = some share) :
    m.isStatic = true ∧ m.slot? = some share.slot := by
  cases m with
  | field f =>
    obtain ⟨hstatic, h⟩ := Option.ite_none_right_eq_some.1 h
    cases h
    exact ⟨hstatic, rfl⟩
  | property p =>
    obtain ⟨hstatic, h⟩ := Option.ite_none_right_eq_some.1 h
    obtain ⟨slot, hslot, rfl⟩ := Option.map_eq_some_iff.1 h
    exact ⟨hstatic, hslot⟩

end MemberRef

/-! ## One member for each slot -/

namespace TypeTable

variable {t : TypeTable} {id : TypeId} {slot : Nat}

/-- The members that a declared type has itself are told apart by their names. -/
theorem Declared.nodup_ownMembers (h : t.Declared) (hid : id < t.size) :
    ((t.ownMembers id).map MemberRef.name).Nodup := by
  induction h with
  | empty => exact absurd hid (Nat.not_lt_zero id)
  | @declare t d m _ _ hbuild ih =>
    obtain ⟨-, hnames, constructors, -, rfl⟩ := build_eq_ok hbuild
    rcases Nat.lt_or_eq_of_le (Nat.le_of_lt_succ hid) with hlt | rfl
    · have he := extends_push t (t.modelOf d constructors)
      rw [he.ownMembers_eq hlt]
      exact ih hlt
    · exact nodup_ownMembers_modelOf hnames

/-- Two members of one type that have one name are one. -/
theorem Declared.member_eq (h : t.Declared) {a b : MemberRef} (ha : t.HasMember a) (hb : t.HasMember b)
    (howner : a.owner = b.owner) (hname : a.name = b.name) : a = b :=
  List.inj_on_of_nodup_map (h.nodup_ownMembers hb.owner_lt) (howner ▸ ha.mem_ownMembers) hb.mem_ownMembers hname

/-- Each instance slot has one member of the base chain. -/
theorem Declared.existsUnique_occupies (h : t.Declared) (hid : id < t.size)
    (hslot : slot < (t.model id).slotTypes.length) : ∃! holder : MemberRef, holder.Occupies t id slot := by
  obtain ⟨holder, hholder⟩ := exists_occupies h.sound hid hslot
  refine ⟨holder, hholder, fun other hother => ?_⟩
  obtain ⟨howner, hname⟩ := hother.unique hholder h.sound
  exact h.member_eq hother.hasMember hholder.hasMember howner hname

/-- A static slot has the type of its member. -/
theorem Declared.staticType (h : t.Declared) {holder : MemberRef} (hholder : holder.OccupiesStatic t id slot) :
    (t.model id).staticTypes[slot]? = some holder.type := by
  obtain ⟨hmember, rfl, hstatic, hslot⟩ := hholder
  have hlaid := (h.sound _ hmember.owner_lt).laidOut
  have hmem := hmember.share_mem (MemberRef.share?_of_isStatic hstatic hslot)
  rw [hlaid.staticTypes]
  exact @Consecutive.getElem? [] _ hlaid.staticConsecutive _ hmem

/-- Each static slot has one member of the type. -/
theorem Declared.existsUnique_occupiesStatic (h : t.Declared) (hid : id < t.size)
    (hslot : slot < (t.model id).staticTypes.length) :
    ∃! holder : MemberRef, holder.OccupiesStatic t id slot := by
  have hlaid := (h.sound id hid).laidOut
  have hlt : slot < 0 + ((t.model id).shares true).length := by
    rwa [hlaid.staticTypes, List.length_map, ← Nat.zero_add (List.length _)] at hslot
  obtain ⟨share, hshare, rfl⟩ := hlaid.staticConsecutive.exists_of_slot (Nat.zero_le _) hlt
  obtain ⟨holder, hown, hholder⟩ := exists_share?_of_mem_shares hshare
  obtain ⟨hmember, rfl⟩ := HasMember.of_mem_ownMembers hown
  obtain ⟨hstatic, hheld⟩ := MemberRef.of_share?_true hholder
  refine ⟨holder, ⟨hmember, rfl, hstatic, hheld⟩, fun other hother => ?_⟩
  obtain ⟨hmember', howner, hstatic', hheld'⟩ := hother
  -- both shares have the slot, so they are one, and so are the names
  have hmem := hmember.share_mem (MemberRef.share?_of_isStatic hstatic hheld)
  have hmem' := hmember'.share_mem (MemberRef.share?_of_isStatic hstatic' hheld')
  rw [howner] at hmem'
  have hname := congrArg Share.name (hlaid.staticConsecutive.eq_of_slot_eq hmem' hmem rfl)
  exact h.member_eq hmember' hmember howner hname

/-! ## Members as they were declared -/

/-- A field as it was declared. -/
structure FieldAs (spec : FieldSpec) (f : Field) : Prop where
  /-- The name was declared. -/
  name : f.name = spec.name
  /-- The type was declared. -/
  type : f.type = spec.type
  /-- What it belongs to was declared. -/
  isStatic : f.isStatic = spec.isStatic

/-- A property as it was declared. -/
structure PropertyAs (spec : PropertySpec) (p : Property) : Prop where
  /-- The name was declared. -/
  name : p.name = spec.name
  /-- The type was declared. -/
  type : p.type = spec.type
  /-- What it belongs to was declared. -/
  isStatic : p.isStatic = spec.isStatic
  /-- It has a slot if it was declared with one. -/
  hasSlot : p.backing?.isSome = true ↔ spec.backing = .slot
  /-- With a slot it has a getter if that is to be seen. -/
  hasGetter : spec.backing = .slot → (p.getter?.isSome = true ↔ spec.get.exists = true)
  /-- With a slot it has a setter if that is to be seen. -/
  hasSetter : spec.backing = .slot → (p.setter?.isSome = true ↔ spec.set.exists = true)

theorem propertyAs_build (spec : PropertySpec) (slot places : Nat) : PropertyAs spec (spec.build slot places).1 where
  name := rfl
  type := rfl
  isStatic := rfl
  hasSlot := by simp [PropertySpec.build, PropertySpec.hasSlot]
  hasGetter h := by simp [PropertySpec.build, PropertySpec.getMethod?, PropertySpec.getBody?, h]
  hasSetter h := by simp [PropertySpec.build, PropertySpec.setMethod?, PropertySpec.setBody?, h]

/-- The slots of a type are shared out among the members of its declaration and of its base. -/
structure Allocates (t : TypeTable) (d : Declaration) (id : TypeId) : Prop where
  /-- The slots begin with those of the base. -/
  inherited : ∀ base, d.base? = some base → (t.model base).slotTypes <+: (t.model id).slotTypes
  /-- The type derives from the base that was declared. -/
  lineage : t.lineage id = id :: (match d.base? with
    | some base => t.lineage base
    | none => [])
  /-- The fields are those that were declared. -/
  fields : List.Forall₂ FieldAs d.fields (t.model id).fields
  /-- The properties are those that were declared. -/
  properties : List.Forall₂ PropertyAs d.properties (t.model id).properties
  /-- The slot of an instance member, own or inherited, hidden or not, has the member's type. -/
  slotType : ∀ (holder : MemberRef) slot, holder.Occupies t id slot →
    (t.model id).slotTypes[slot]? = some holder.type
  /-- Each instance slot is that of one member. -/
  occupied : ∀ slot < (t.model id).slotTypes.length, ∃! holder : MemberRef, holder.Occupies t id slot
  /-- The slot of an own static member has the member's type. -/
  staticType : ∀ (holder : MemberRef) slot, holder.OccupiesStatic t id slot →
    (t.model id).staticTypes[slot]? = some holder.type
  /-- Each static slot is that of one own member. -/
  staticOccupied : ∀ slot < (t.model id).staticTypes.length, ∃! holder : MemberRef, holder.OccupiesStatic t id slot
  /-- The getter of a property with a slot is a method of the type that reads the slot. -/
  getter : ∀ p ∈ (t.model id).properties, ∀ slot, p.backing? = some slot → ∀ place, p.getter? = some place →
    ∃ g, (t.model id).methods[place]? = some g ∧ g.isStatic = p.isStatic ∧
      g.body = if p.isStatic then .loadStatic slot else .loadSlot slot
  /-- The setter of a property with a slot is a method of the type that writes the slot. -/
  setter : ∀ p ∈ (t.model id).properties, ∀ slot, p.backing? = some slot → ∀ place, p.setter? = some place →
    ∃ g, (t.model id).methods[place]? = some g ∧ g.isStatic = p.isStatic ∧
      g.body = if p.isStatic then .storeStatic slot else .storeSlot slot

/-- **Slots are shared out one to one.**  When a type is built over a chain of bases, its instance slots begin
with those of its base.  Each is the slot of one member of the type or of its bases, hidden members included, and
each static slot is that of one static member of the type itself; all have the types that their members were
declared with.  The accessors of a property with a slot are methods of the type that read and write this slot.
Later types change nothing. -/
theorem allocates_of_build {t t' : TypeTable} {d : Declaration} {m : TypeModel} (h : t'.Declared)
    (hbuild : t.build d = .ok m) (hlater : (t.push m).Extends t') : t'.Allocates d t.size := by
  have hlt : t.size < t'.size := hlater.size_le
  have hmodel : t'.model t.size = m := by
    rw [hlater.model_eq (Nat.lt_succ_self t.size), model_push_size]
  have hsound := h.sound t.size hlt
  obtain ⟨-, -, constructors, -, rfl⟩ := build_eq_ok hbuild
  have hbase : (t'.model t.size).base? = d.base? := congrArg TypeModel.base? hmodel
  refine ⟨fun base hb => ?_, ?_, ?_, ?_, fun holder slot hholder => hholder.slotType h.sound,
    fun slot => h.existsUnique_occupies hlt, fun holder slot => h.staticType,
    fun slot => h.existsUnique_occupiesStatic hlt, fun p hp slot hslot place hplace => ?_,
    fun p hp slot hslot place hplace => ?_⟩
  · exact slotTypes_prefix h.sound (hsound.isSubtype_base hlt (hbase.trans hb))
  · have hlineage := lineage_eq_self_cons hlt hsound.base_lt
    rw [hbase] at hlineage
    exact hlineage
  · rw [hmodel]
    refine (Layout.forall₂_fields _ _).imp ?_
    rintro spec f ⟨slot, rfl⟩
    exact ⟨rfl, rfl, rfl⟩
  · rw [hmodel]
    refine (Layout.forall₂_properties _ _ _).imp ?_
    rintro spec p ⟨slot, place, rfl⟩
    exact propertyAs_build spec slot place
  · obtain ⟨-, g, hg, hgetter⟩ := (hsound.laidOut.placed p hp).getter place hplace
    exact ⟨g, hg, hgetter.isStatic, hgetter.body slot hslot⟩
  · obtain ⟨-, g, hg, hsetter⟩ := (hsound.laidOut.placed p hp).setter place hplace
    exact ⟨g, hg, hsetter.isStatic, hsetter.body slot hslot⟩

/-! ## A till at a branch -/

/-- Accounts and branches. -/
def branches : TypeTable := accounts.push branchModel

/-- Tills hide the name of their branch.  They have a balance of their own and count all tills, and their label
is computed. -/
def till : Declaration where
  name := "Till"
  origin := .declared
  base? := some 1
  interfaces := []
  attributes := []
  fields := [⟨"Name", .any, .open, false, false⟩]
  properties := [⟨"Label", .text, .open, .absent, false, .native (some 0) none⟩,
    ⟨"Balance", .int64, .open, .open, false, .slot⟩, ⟨"Count", .uint32, .open, .absent, true, .slot⟩]
  methods := []
  constructors := []

/-- What the declaration of tills is built to. -/
def tillModel : TypeModel :=
  branches.modelOf till [⟨[], .open, .assign []⟩]

theorem declared_branches : branches.Declared :=
  .declare declared_accounts (by rintro base ⟨⟩; decide) build_branch

/-- Of the five slots of a till, an account has the first two and a branch the third. -/
theorem allocates_till : (branches.push tillModel).Declared ∧ branches.build till = .ok tillModel ∧
    (branches.push tillModel).Allocates till 2 ∧
    ((branches.push tillModel).model 2).slotTypes = [.int32, .text, .text, .any, .int64] ∧
    ((branches.push tillModel).model 2).staticTypes = [.uint32] := by
  have hbuild : branches.build till = .ok tillModel := rfl
  have hdeclared : (branches.push tillModel).Declared :=
    .declare declared_branches (by rintro base ⟨⟩; decide) hbuild
  exact ⟨hdeclared, hbuild, allocates_of_build hdeclared hbuild (.refl _), rfl, rfl⟩

end TypeTable
end Reshape
