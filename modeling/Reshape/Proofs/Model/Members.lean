import Reshape.Proofs.Model.Allocation

/-!
# Visible members

A member of a derived type hides the members of its name on the bases.  What remains visible is found in two ways:
the list of members walks over the whole base chain and keeps the first member of each name, and lookup stops at
the first level that has the name, where it asks for a property before it asks for a field.  Both see the same
walk, and leaving out what comes later does not change what comes first (`TypeTable.findMember?_eq_find?_members`).
The walk meets derived levels before their bases (`TypeTable.pairwise_flatMap_ownMembers`), so nothing hides what is
found first (`TypeTable.visible_of_findMember?`).  The list therefore has each visible member once, and lookup finds
the entry of the name (`TypeTable.Declared.members_agree`).
-/

namespace Reshape
namespace TypeTable

/-! ## Keeping the first member of each name -/

section Kept

variable {seen : List String} {l : List MemberRef}

/-- The members that are kept have different names, and none that was seen before. -/
theorem nodup_firstOfEachName : ((firstOfEachName seen l).map MemberRef.name).Nodup ∧
    ∀ m ∈ firstOfEachName seen l, m.name ∉ seen := by
  induction l generalizing seen with
  | nil => simp [firstOfEachName]
  | cons m rest ih =>
    rw [firstOfEachName]
    split
    · exact ih
    · rename_i hseen
      obtain ⟨hnodup, hnew⟩ := @ih (m.name :: seen)
      refine ⟨List.nodup_cons.2 ⟨fun hmem => ?_, hnodup⟩, fun other hother => ?_⟩
      · obtain ⟨other, hother, hname⟩ := List.mem_map.1 hmem
        exact hnew other hother (hname ▸ List.mem_cons_self ..)
      · rcases List.mem_cons.1 hother with rfl | hother
        · simpa using hseen
        · exact fun hmem => hnew other hother (List.mem_cons_of_mem _ hmem)

/-- The first member of a name is kept, if the name was not seen before. -/
theorem find?_firstOfEachName {name : String} (h : name ∉ seen) :
    (firstOfEachName seen l).find? (·.name == name) = l.find? (·.name == name) := by
  induction l generalizing seen with
  | nil => rfl
  | cons m rest ih =>
    rw [firstOfEachName]
    by_cases hname : m.name = name
    · have hnew : ¬seen.contains m.name = true := by simpa [hname] using h
      rw [if_neg hnew, List.find?_cons_of_pos (by simpa), List.find?_cons_of_pos (by simpa)]
    · rw [List.find?_cons_of_neg (by simpa)]
      split
      · exact ih h
      · rw [List.find?_cons_of_neg (by simpa)]
        exact ih (List.not_mem_cons_of_ne_of_not_mem (Ne.symm hname) h)

end Kept

/-! ## The list of members and lookup -/

variable {t : TypeTable} {id : TypeId}

/-- Listed members have different names. -/
theorem nodup_members (t : TypeTable) (id : TypeId) : ((t.members id).map MemberRef.name).Nodup :=
  nodup_firstOfEachName.1

/-- Lookup finds in the list what it finds on the base chain. -/
theorem findMember?_eq_find?_members (t : TypeTable) (id : TypeId) (name : String) :
    t.findMember? id name = (t.members id).find? (·.name == name) := by
  rw [findMember?_eq_find?, members, find?_firstOfEachName List.not_mem_nil]

/-- A name leads to the listed member of that name. -/
theorem findMember?_eq_some_iff {name : String} {m : MemberRef} :
    t.findMember? id name = some m ↔ m ∈ t.members id ∧ m.name = name := by
  rw [findMember?_eq_find?_members, find?_name_eq_some_iff (nodup_members t id)]

/-- A name that is declared somewhere on the base chain leads to a member. -/
theorem exists_findMember? {own : MemberRef} (hown : t.HasMember own) (hchain : t.isSubtype id own.owner = true) :
    ∃ m, t.findMember? id own.name = some m := by
  cases h : t.findMember? id own.name with
  | some m => exact ⟨m, rfl⟩
  | none =>
    rw [findMember?_eq_find?] at h
    exact absurd (beq_self_eq_true own.name) (List.find?_eq_none.1 h own (mem_flatMap_ownMembers.2 ⟨hown, hchain⟩))

/-! ## What nothing hides -/

/-- A member of the base chain that no other member of the chain hides. -/
structure Visible (t : TypeTable) (id : TypeId) (m : MemberRef) : Prop where
  /-- The member is declared. -/
  hasMember : t.HasMember m
  /-- The type itself or one of its bases declares it. -/
  chain : t.isSubtype id m.owner = true
  /-- What else the chain declares by the name stands on the same level or further up. -/
  nearest : ∀ other, t.HasMember other → t.isSubtype id other.owner = true → other.name = m.name →
    t.isSubtype m.owner other.owner = true

/-- The walk over a base chain meets the members of derived levels first. -/
theorem pairwise_flatMap_ownMembers (t : TypeTable) (id : TypeId) :
    ((t.lineage id).flatMap t.ownMembers).Pairwise fun a b => t.isSubtype a.owner b.owner = true := by
  have howner : ∀ {level : TypeId}, ∀ m ∈ t.ownMembers level, m.owner = level :=
    fun m hm => (HasMember.of_mem_ownMembers hm).2
  refine List.pairwise_flatMap.2 ⟨fun level hlevel => ?_, (pairwise_lineage t id).imp fun hsub a ha b hb => ?_⟩
  · refine List.pairwise_of_forall_mem_list fun a ha b hb => ?_
    rw [howner a ha, howner b hb]
    exact isSubtype_refl (lt_of_mem_lineage hlevel)
  · rw [howner a ha, howner b hb]
    exact hsub

/-- Nothing hides what lookup finds. -/
theorem visible_of_findMember? {name : String} {m : MemberRef} (h : t.findMember? id name = some m) :
    t.Visible id m := by
  obtain ⟨hmember, hchain, rfl⟩ := findMember?_spec h
  rw [findMember?_eq_find?] at h
  obtain ⟨-, before, after, hwalk, hbefore⟩ := List.find?_eq_some_iff_append.1 h
  have hordered := pairwise_flatMap_ownMembers t id
  rw [hwalk] at hordered
  refine ⟨hmember, hchain, fun other hother hsub hname => ?_⟩
  have hmem := mem_flatMap_ownMembers.2 ⟨hother, hsub⟩
  rw [hwalk] at hmem
  -- members before the one that was found have other names, and those after it have no lower level
  rcases List.mem_append.1 hmem with hmem | hmem
  · exact absurd (hbefore other hmem) (by simp [hname])
  · rcases List.mem_cons.1 hmem with rfl | hmem
    · exact isSubtype_refl hmember.owner_lt
    · exact List.rel_of_pairwise_cons (List.pairwise_append.1 hordered).2.1 hmem

/-- No two visible members have one name. -/
theorem Declared.visible_eq (h : t.Declared) {a b : MemberRef} (ha : t.Visible id a) (hb : t.Visible id b)
    (hname : a.name = b.name) : a = b := by
  have hab := ha.nearest b hb.hasMember hb.chain hname.symm
  have hba := hb.nearest a ha.hasMember ha.chain hname
  exact h.member_eq ha.hasMember hb.hasMember (isSubtype_antisymm hab hba) hname

/-- The listed members are the visible ones. -/
theorem Declared.mem_members_iff (h : t.Declared) {m : MemberRef} : m ∈ t.members id ↔ t.Visible id m := by
  constructor
  · exact fun hm => visible_of_findMember? (findMember?_eq_some_iff.2 ⟨hm, rfl⟩)
  · intro hm
    obtain ⟨found, hfound⟩ := exists_findMember? hm.hasMember hm.chain
    obtain ⟨hmem, hname⟩ := findMember?_eq_some_iff.1 hfound
    exact h.visible_eq (visible_of_findMember? hfound) hm hname ▸ hmem

/-- **The list of members and lookup agree.**  The members that are listed for a type are those that nothing on its
base chain hides.  Each name that the chain declares is listed once, derived levels first, and lookup finds exactly
the entry of the name, or nothing where there is none. -/
theorem Declared.members_agree (h : t.Declared) (id : TypeId) :
    (∀ m, m ∈ t.members id ↔ t.Visible id m) ∧
    (∀ own, t.HasMember own → t.isSubtype id own.owner = true →
      ((t.members id).map MemberRef.name).count own.name = 1) ∧
    (t.members id).Pairwise (fun a b => t.isSubtype a.owner b.owner = true) ∧
    ∀ name, (∀ m, t.findMember? id name = some m ↔ m ∈ t.members id ∧ m.name = name) ∧
      (t.findMember? id name = none ↔ ∀ m ∈ t.members id, m.name ≠ name) := by
  refine ⟨fun m => h.mem_members_iff, fun own hown hchain => ?_, ?_,
    fun name => ⟨fun m => findMember?_eq_some_iff, ?_⟩⟩
  · obtain ⟨m, hfound⟩ := exists_findMember? hown hchain
    obtain ⟨hmem, hname⟩ := findMember?_eq_some_iff.1 hfound
    rw [← hname]
    exact List.count_eq_one_of_mem (nodup_members t id) (List.mem_map_of_mem hmem)
  · exact (pairwise_flatMap_ownMembers t id).sublist (firstOfEachName_sublist _ _)
  · rw [findMember?_eq_find?_members, List.find?_eq_none]
    simp only [beq_iff_eq, ne_eq]

/-! ## A kiosk with a till -/

/-- Accounts, branches and tills. -/
def tills : TypeTable := branches.push tillModel

/-- Kiosks compute their name, which hides a field, and keep their balance in a field, which hides a property. -/
def kiosk : Declaration where
  name := "Kiosk"
  origin := .declared
  base? := some 2
  interfaces := []
  attributes := []
  fields := [⟨"Balance", .int32, .open, false, false⟩]
  properties := [⟨"Name", .text, .open, .absent, false, .native (some 1) none⟩]
  methods := []
  constructors := []

/-- What the declaration of kiosks is built to. -/
def kioskModel : TypeModel :=
  tills.modelOf kiosk [⟨[], .open, .assign []⟩]

theorem declared_tills : tills.Declared :=
  .declare (d := till) declared_branches (by rintro base ⟨⟩; decide) rfl

/-- Of the ten members on the chain of a kiosk five are visible, the code on the level of branches. -/
theorem members_agree_kiosk : (tills.push kioskModel).Declared ∧
    ((tills.push kioskModel).members 3).map (fun m => (m.name, m.owner)) =
      [("Name", 3), ("Balance", 3), ("Label", 2), ("Count", 2), ("Code", 1)] ∧
    (tills.push kioskModel).Visible 3 (.field ⟨1, 0, ⟨"Code", .int32, .open, true, false, 0⟩⟩) ∧
    ¬(tills.push kioskModel).Visible 3 (.field ⟨0, 0, ⟨"Code", .int32, .open, false, false, 0⟩⟩) ∧
    (tills.push kioskModel).findMember? 3 "Balance" =
      some (.field ⟨3, 0, ⟨"Balance", .int32, .open, false, false, 5⟩⟩) ∧
    (tills.push kioskModel).findMember? 3 "Rate" = none := by
  have hdeclared : (tills.push kioskModel).Declared :=
    .declare (d := kiosk) declared_tills (by rintro base ⟨⟩; decide) rfl
  obtain ⟨hvisible, -, -, hlookup⟩ := hdeclared.members_agree 3
  refine ⟨hdeclared, by decide, (hvisible _).1 (by decide), fun h => ?_, ((hlookup "Balance").1 _).2 ?_,
    (hlookup "Rate").2.2 (by decide)⟩
  · exact absurd ((hvisible _).2 h) (by decide)
  · exact ⟨by decide, rfl⟩

end TypeTable
end Reshape
