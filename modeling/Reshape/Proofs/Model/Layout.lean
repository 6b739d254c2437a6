import Mathlib.Data.List.Nodup
import Reshape.Model.Declaration
import Reshape.Proofs.Conversion.Cast

/-!
# Layouts

What laying out the members of a type gives.  The members that have slots of their own
(`TypeModel.shares`) take consecutive slots after those that were there, one each
(`Layout.grows_fields`, `Layout.grows_properties`), and the accessors of a property stand where the
property says (`Layout.properties_placed`), so that each generated method belongs to a property
(`Layout.accessor_of_mem`).
-/

namespace Reshape

/-! ## Consecutive slots -/

/-- A member that has a slot of its own. -/
structure Share where
  /-- Name of the member. -/
  name : String
  /-- Its slot. -/
  slot : Nat
  /-- Its type. -/
  type : ValueType

/-- The slots follow one another from a first one on. -/
def Consecutive (start : Nat) (shares : List Share) : Prop :=
  shares.map Share.slot = List.range' start shares.length

namespace Consecutive

theorem nil (start : Nat) : Consecutive start [] := rfl

theorem append {start : Nat} {l l' : List Share} (h : Consecutive start l)
    (h' : Consecutive (start + l.length) l') : Consecutive start (l ++ l') := by
  unfold Consecutive at *
  rw [List.map_append, h, h', List.length_append, ← List.range'_append_1]

theorem le_slot {start : Nat} {l : List Share} (h : Consecutive start l) {share : Share}
    (hs : share ∈ l) : start ≤ share.slot := by
  have hmem : share.slot ∈ l.map Share.slot := List.mem_map_of_mem hs
  rw [h, List.mem_range'_1] at hmem
  exact hmem.1

/-- The slots have no gap. -/
theorem exists_of_slot {start : Nat} {l : List Share} (h : Consecutive start l) {slot : Nat}
    (hle : start ≤ slot) (hlt : slot < start + l.length) : ∃ share ∈ l, share.slot = slot := by
  have hmem : slot ∈ l.map Share.slot := by
    rw [h, List.mem_range'_1]
    exact ⟨hle, hlt⟩
  exact List.mem_map.1 hmem

/-- A share is found in the types at its slot. -/
theorem getElem? {inherited : List ValueType} {l : List Share}
    (h : Consecutive inherited.length l) {share : Share} (hs : share ∈ l) :
    (inherited ++ l.map Share.type)[share.slot]? = some share.type := by
  obtain ⟨i, hi, rfl⟩ := List.mem_iff_getElem.1 hs
  have hslot : l[i].slot = inherited.length + i := by
    have := congrArg (·[i]?) h
    simpa [hi] using this
  rw [hslot, List.getElem?_append_right (Nat.le_add_right ..)]
  simp [hi]

/-- No two shares have one slot. -/
theorem eq_of_slot_eq {start : Nat} {l : List Share} (h : Consecutive start l) {a b : Share}
    (ha : a ∈ l) (hb : b ∈ l) (hab : a.slot = b.slot) : a = b := by
  have hnodup : (l.map Share.slot).Nodup := by
    rw [h]
    exact List.nodup_range'
  exact List.inj_on_of_nodup_map hnodup ha hb hab

end Consecutive

/-! ## The shares of a type -/

/-- The share of a field among the static or among the instance slots. -/
def Field.share? (isStatic : Bool) (f : Field) : Option Share :=
  if f.isStatic = isStatic then some ⟨f.name, f.slot, f.type⟩ else none

/-- The share of a property among the static or among the instance slots. -/
def Property.share? (isStatic : Bool) (p : Property) : Option Share :=
  if p.isStatic = isStatic then p.backing?.map fun slot => ⟨p.name, slot, p.type⟩ else none

/-- The members that a type declares itself and that have static or instance slots. -/
def TypeModel.shares (m : TypeModel) (isStatic : Bool) : List Share :=
  m.fields.filterMap (Field.share? isStatic) ++ m.properties.filterMap (Property.share? isStatic)

/-- The types of the static or of the instance slots. -/
def Layout.types (l : Layout) (isStatic : Bool) : List ValueType :=
  if isStatic then l.statics else l.slots

theorem Layout.next_eq (l : Layout) (isStatic : Bool) :
    l.next isStatic = (l.types isStatic).length := by
  cases isStatic <;> rfl

theorem Layout.types_push (l : Layout) (isStatic other : Bool) (type : ValueType) :
    (l.push isStatic type).types other =
      l.types other ++ if isStatic = other then [type] else [] := by
  cases isStatic <;> cases other <;> simp [Layout.push, Layout.types]

/-- What a step of laying out adds: shares after the slots that were there, and their types. -/
def Layout.Grows (l l' : Layout) (shares : Bool → List Share) : Prop :=
  ∀ isStatic, l'.types isStatic = l.types isStatic ++ (shares isStatic).map Share.type ∧
    Consecutive (l.types isStatic).length (shares isStatic)

theorem Layout.Grows.refl (l : Layout) : l.Grows l fun _ => [] := by
  intro isStatic
  exact ⟨by simp, Consecutive.nil _⟩

theorem Layout.Grows.trans {l₁ l₂ l₃ : Layout} {a b : Bool → List Share} (h : l₁.Grows l₂ a)
    (h' : l₂.Grows l₃ b) : l₁.Grows l₃ fun isStatic => a isStatic ++ b isStatic := by
  intro isStatic
  obtain ⟨htypes, hcons⟩ := h isStatic
  obtain ⟨htypes', hcons'⟩ := h' isStatic
  refine ⟨by simp [htypes', htypes], hcons.append ?_⟩
  rw [htypes] at hcons'
  simpa using hcons'

/-- One pushed slot, for the member of that name. -/
theorem Layout.grows_push (l : Layout) (isStatic : Bool) (name : String) (type : ValueType) :
    l.Grows (l.push isStatic type) fun other =>
      if isStatic = other then [⟨name, l.next isStatic, type⟩] else [] := by
  intro other
  rw [Layout.types_push, Layout.next_eq]
  by_cases h : isStatic = other
  · subst h
    simp only [if_true]
    exact ⟨rfl, rfl⟩
  · simp only [if_neg h]
    exact ⟨rfl, rfl⟩

theorem Layout.grows_fields (l : Layout) (specs : List FieldSpec) :
    l.Grows (l.fields specs).2 fun isStatic =>
      (l.fields specs).1.filterMap (Field.share? isStatic) := by
  induction specs generalizing l with
  | nil => exact Layout.Grows.refl l
  | cons spec rest ih =>
    have hpush := l.grows_push spec.isStatic spec.name spec.type
    have hrest := ih (l.push spec.isStatic spec.type)
    intro isStatic
    obtain ⟨htypes, hcons⟩ := hpush.trans hrest isStatic
    have hshares : (l.fields (spec :: rest)).1.filterMap (Field.share? isStatic) =
        (if spec.isStatic = isStatic then [⟨spec.name, l.next spec.isStatic, spec.type⟩] else []) ++
          ((l.push spec.isStatic spec.type).fields rest).1.filterMap (Field.share? isStatic) := by
      rw [Layout.fields, List.filterMap_cons]
      by_cases h : spec.isStatic = isStatic <;> simp [Field.share?, h]
    simp only [hshares]
    exact ⟨htypes, hcons⟩

theorem Layout.grows_properties (l : Layout) (places : Nat) (specs : List PropertySpec) :
    l.Grows (l.properties places specs).2.2 fun isStatic =>
      (l.properties places specs).1.filterMap (Property.share? isStatic) := by
  induction specs generalizing l places with
  | nil => exact Layout.Grows.refl l
  | cons spec rest ih =>
    intro isStatic
    have hbuild : (spec.build (l.next spec.isStatic) places).1.share? isStatic =
        if spec.isStatic = isStatic ∧ spec.hasSlot = true then
          some ⟨spec.name, l.next spec.isStatic, spec.type⟩ else none := by
      by_cases h : spec.isStatic = isStatic <;> by_cases hs : spec.hasSlot = true <;>
        simp [Property.share?, PropertySpec.build, h, hs]
    by_cases hs : spec.hasSlot = true
    · have hpush := l.grows_push spec.isStatic spec.name spec.type
      obtain ⟨htypes, hcons⟩ := hpush.trans (ih (l.push spec.isStatic spec.type)
        (places + (spec.build (l.next spec.isStatic) places).2.length)) isStatic
      simp only [Layout.properties, hs, if_true, List.filterMap_cons, hbuild, and_true]
      by_cases h : spec.isStatic = isStatic
      · simp only [if_pos h] at htypes hcons ⊢
        exact ⟨htypes, hcons⟩
      · simp only [if_neg h] at htypes hcons ⊢
        exact ⟨htypes, hcons⟩
    · simp only [Bool.not_eq_true] at hs
      obtain ⟨htypes, hcons⟩ := ih l
        (places + (spec.build (l.next spec.isStatic) places).2.length) isStatic
      simp only [Layout.properties, hs, List.filterMap_cons, hbuild, and_false, if_false,
        Bool.false_eq_true]
      exact ⟨htypes, hcons⟩

/-- Each field is laid out as it was declared, at some slot. -/
theorem Layout.forall₂_fields (l : Layout) (specs : List FieldSpec) :
    List.Forall₂ (fun spec f => ∃ slot,
      f = ⟨spec.name, spec.type, spec.visibility, spec.isStatic, spec.initOnly, slot⟩)
      specs (l.fields specs).1 := by
  induction specs generalizing l with
  | nil => exact .nil
  | cons spec rest ih => exact .cons ⟨_, rfl⟩ (ih _)

/-- Each property is built as it was declared, for some slot and place. -/
theorem Layout.forall₂_properties (l : Layout) (places : Nat) (specs : List PropertySpec) :
    List.Forall₂ (fun spec p => ∃ slot place, p = (spec.build slot place).1)
      specs (l.properties places specs).1 := by
  induction specs generalizing l places with
  | nil => exact .nil
  | cons spec rest ih => exact .cons ⟨_, _, rfl⟩ (ih _ _)

/-! ## Accessors -/

/-- A method that reads a property. -/
structure Method.IsGetterOf (g : Method) (p : Property) : Prop where
  /-- It takes nothing. -/
  parameters : g.parameters = []
  /-- It yields a value of the property's type. -/
  result : g.result? = some p.type
  /-- It belongs to what the property belongs to. -/
  isStatic : g.isStatic = p.isStatic
  /-- Without a slot it runs a supplied body. -/
  native : p.backing? = none → ∃ body, g.body = .native body
  /-- With a slot it reads the slot. -/
  body : ∀ slot, p.backing? = some slot →
    g.body = if p.isStatic then .loadStatic slot else .loadSlot slot

/-- A method that writes a property. -/
structure Method.IsSetterOf (s : Method) (p : Property) : Prop where
  /-- It takes a value of the property's type. -/
  parameters : s.parameters = [⟨"value", p.type, none⟩]
  /-- It yields nothing. -/
  result : s.result? = none
  /-- It belongs to what the property belongs to. -/
  isStatic : s.isStatic = p.isStatic
  /-- Without a slot it runs a supplied body. -/
  native : p.backing? = none → ∃ body, s.body = .native body
  /-- With a slot it writes the slot. -/
  body : ∀ slot, p.backing? = some slot →
    s.body = if p.isStatic then .storeStatic slot else .storeSlot slot

/-- The accessors of a property stand where it says, in methods that are counted from a place. -/
structure Property.Placed (p : Property) (first : Nat) (methods : List Method) : Prop where
  /-- The getter, if there is one. -/
  getter : ∀ place, p.getter? = some place →
    first ≤ place ∧ ∃ g, methods[place - first]? = some g ∧ g.IsGetterOf p
  /-- The setter, if there is one. -/
  setter : ∀ place, p.setter? = some place →
    first ≤ place ∧ ∃ s, methods[place - first]? = some s ∧ s.IsSetterOf p

/-- A property has a slot of its own where its accessors are generated, and none where they are supplied. -/
theorem PropertySpec.backing?_build (spec : PropertySpec) (slot places : Nat) :
    spec.backing = .slot ∧ (spec.build slot places).1.backing? = some slot ∨
      ∃ get set, spec.backing = .native get set ∧ (spec.build slot places).1.backing? = none := by
  cases h : spec.backing with
  | slot => simp [PropertySpec.build, PropertySpec.hasSlot, h]
  | native get set => simp [PropertySpec.build, PropertySpec.hasSlot, h]

theorem PropertySpec.isGetterOf_getMethod? {spec : PropertySpec} {slot places : Nat} {g : Method}
    (h : spec.getMethod? slot = some g) : g.IsGetterOf (spec.build slot places).1 := by
  obtain ⟨body, hbody, h⟩ := Option.bind_eq_some_iff.1 h
  obtain ⟨-, h⟩ := Option.ite_none_right_eq_some.1 h
  cases h
  rcases spec.backing?_build slot places with ⟨hb, hbacking⟩ | ⟨get, set, hb, hbacking⟩
  · rw [PropertySpec.getBody?, hb] at hbody
    cases hbody
    refine ⟨rfl, rfl, rfl, fun hnone => ?_, fun s hs => ?_⟩
    · cases hbacking.symm.trans hnone
    · cases hbacking.symm.trans hs
      rfl
  · rw [PropertySpec.getBody?, hb] at hbody
    obtain ⟨id, -, rfl⟩ := Option.map_eq_some_iff.1 hbody
    refine ⟨rfl, rfl, rfl, fun _ => ⟨id, rfl⟩, fun s hs => ?_⟩
    cases hbacking.symm.trans hs

theorem PropertySpec.isSetterOf_setMethod? {spec : PropertySpec} {slot places : Nat} {g : Method}
    (h : spec.setMethod? slot = some g) : g.IsSetterOf (spec.build slot places).1 := by
  obtain ⟨body, hbody, h⟩ := Option.bind_eq_some_iff.1 h
  obtain ⟨-, h⟩ := Option.ite_none_right_eq_some.1 h
  cases h
  rcases spec.backing?_build slot places with ⟨hb, hbacking⟩ | ⟨get, set, hb, hbacking⟩
  · rw [PropertySpec.setBody?, hb] at hbody
    cases hbody
    refine ⟨rfl, rfl, rfl, fun hnone => ?_, fun s hs => ?_⟩
    · cases hbacking.symm.trans hnone
    · cases hbacking.symm.trans hs
      rfl
  · rw [PropertySpec.setBody?, hb] at hbody
    obtain ⟨id, -, rfl⟩ := Option.map_eq_some_iff.1 hbody
    refine ⟨rfl, rfl, rfl, fun _ => ⟨id, rfl⟩, fun s hs => ?_⟩
    cases hbacking.symm.trans hs

theorem PropertySpec.placed_build (spec : PropertySpec) (slot places : Nat) :
    (spec.build slot places).1.Placed places (spec.build slot places).2 := by
  constructor
  · intro place h
    obtain ⟨g, hg, rfl⟩ := Option.map_eq_some_iff.1 h
    exact ⟨Nat.le_refl _, g, by simp [PropertySpec.build, hg], isGetterOf_getMethod? hg⟩
  · intro place h
    obtain ⟨s, hs, rfl⟩ := Option.map_eq_some_iff.1 h
    refine ⟨Nat.le_add_right .., s, ?_, isSetterOf_setMethod? hs⟩
    cases hg : spec.getMethod? slot <;> simp [PropertySpec.build, hg, hs]

theorem Property.Placed.append_left {p : Property} {first : Nat} {front methods : List Method}
    (h : p.Placed (first + front.length) methods) : p.Placed first (front ++ methods) := by
  constructor
  · intro place hp
    obtain ⟨hle, g, hg, hgetter⟩ := h.getter place hp
    refine ⟨by omega, g, ?_, hgetter⟩
    rw [List.getElem?_append_right (by omega), ← hg]
    congr 1
    omega
  · intro place hp
    obtain ⟨hle, g, hg, hsetter⟩ := h.setter place hp
    refine ⟨by omega, g, ?_, hsetter⟩
    rw [List.getElem?_append_right (by omega), ← hg]
    congr 1
    omega

theorem Property.Placed.append_right {p : Property} {first : Nat} {methods more : List Method}
    (h : p.Placed first methods) : p.Placed first (methods ++ more) := by
  constructor
  · intro place hp
    obtain ⟨hle, g, hg, hgetter⟩ := h.getter place hp
    exact ⟨hle, g, List.getElem?_append_left (List.getElem?_eq_some_iff.1 hg).1 ▸ hg, hgetter⟩
  · intro place hp
    obtain ⟨hle, g, hg, hsetter⟩ := h.setter place hp
    exact ⟨hle, g, List.getElem?_append_left (List.getElem?_eq_some_iff.1 hg).1 ▸ hg, hsetter⟩

/-- Every accessor that is laid out belongs to a property that is laid out, and stands where that
property says. -/
theorem Layout.properties_placed (l : Layout) (places : Nat) (specs : List PropertySpec) :
    ∀ p ∈ (l.properties places specs).1, p.Placed places (l.properties places specs).2.1 := by
  induction specs generalizing l places with
  | nil => simp [Layout.properties]
  | cons spec rest ih =>
    intro p hp
    simp only [Layout.properties] at hp ⊢
    rcases List.mem_cons.1 hp with rfl | hp
    · exact (spec.placed_build _ _).append_right
    · exact (ih _ _ p hp).append_left

theorem Layout.accessor_of_mem (l : Layout) (places : Nat) (specs : List PropertySpec) :
    ∀ g ∈ (l.properties places specs).2.1, ∃ p ∈ (l.properties places specs).1,
      g.IsGetterOf p ∨ g.IsSetterOf p := by
  induction specs generalizing l places with
  | nil => simp [Layout.properties]
  | cons spec rest ih =>
    intro g hg
    simp only [Layout.properties] at hg ⊢
    rcases List.mem_append.1 hg with hg | hg
    · refine ⟨_, List.mem_cons_self .., ?_⟩
      rcases List.mem_append.1 hg with hg | hg
      · exact .inl (PropertySpec.isGetterOf_getMethod? (Option.mem_toList.1 hg))
      · exact .inr (PropertySpec.isSetterOf_setMethod? (Option.mem_toList.1 hg))
    · obtain ⟨p, hp, h⟩ := ih _ _ g hg
      exact ⟨p, List.mem_cons_of_mem _ hp, h⟩

end Reshape
