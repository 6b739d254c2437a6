import Reshape.Proofs.Model.Declared
import Reshape.Store.Access

/-!
# Well-typed stores

A store is well typed when every slot of every object, and every static slot that was written, holds
a value of its declared type, and every reference in it leads to an object of the type that it names
(`Store.WellTyped`).  Objects are never removed and never change their type (`Store.Grows`).  Each
operation on objects keeps both, whether it succeeds or fails (`Action.Keeps`).
-/

namespace Reshape

/-! ## References -/

namespace Value

mutual

/-- The references in a value. -/
def refs : Value → List ObjectRef
  | list items => refsOfAll items
  | object ref => [ref]
  | _ => []

/-- The references in several values. -/
def refsOfAll : List Value → List ObjectRef
  | [] => []
  | v :: vs => refs v ++ refsOfAll vs

end

theorem refsOfAll_eq (vs : List Value) : refsOfAll vs = vs.flatMap refs := by
  induction vs with
  | nil => rfl
  | cons v vs ih => rw [refsOfAll, ih, List.flatMap_cons]

end Value

/-- A number has no references. -/
theorem Value.refs_of_castNumber? {v w : Value} {target : ValueType}
    (h : v.castNumber? target = some w) : w.refs = [] := by
  unfold Value.castNumber? at h
  split at h
  · cases h; rfl
  · cases h; rfl
  · obtain ⟨x, -, rfl⟩ := Option.map_eq_some_iff.1 h
    rfl
  · cases h; rfl
  · obtain ⟨n, -, h⟩ := Option.bind_eq_some_iff.1 h
    cases target <;> simp only [Value.ofInteger?] at h <;> try contradiction
    case float32 | float64 =>
      obtain ⟨_, h⟩ := Option.ite_none_right_eq_some.1 h
      obtain ⟨x, -, rfl⟩ := Option.map_eq_some_iff.1 h
      rfl
    all_goals
      obtain ⟨_, h⟩ := Option.ite_none_right_eq_some.1 h
      cases h
      rfl

/-- A cast does not make references. -/
theorem TypeTable.refs_of_cast {t : TypeTable} {type : ValueType} {v w : Value}
    (h : t.cast type v = .ok w) : w.refs ⊆ v.refs := by
  induction type generalizing v w with
  | any =>
    cases h
    exact List.Subset.refl _
  | nullable inner ih =>
    by_cases hv : v = .null
    · subst hv
      cases h
      exact List.Subset.refl _
    · exact ih (by cases v <;> simp_all [TypeTable.cast])
  | list element ih =>
    cases v <;> simp only [TypeTable.cast, reduceCtorEq] at h
    case null => cases h; exact List.Subset.refl _
    case list items =>
      obtain ⟨ws, hws, rfl⟩ := map_eq_ok.1 h
      simp only [Value.refs, Value.refsOfAll_eq]
      intro ref href
      obtain ⟨x, hx, hxref⟩ := List.mem_flatMap.1 href
      obtain ⟨y, hy, hxy⟩ := exists_of_mem_forall₂ (mapM_eq_ok.1 hws) hx
      exact List.mem_flatMap.2 ⟨y, hy, ih hxy hxref⟩
  | object expected =>
    cases v <;> simp only [TypeTable.cast, reduceCtorEq] at h
    case null => cases h; exact List.Subset.refl _
    case object ref =>
      split at h
      · cases h; exact List.Subset.refl _
      · cases h
  | blob | bool | text =>
    cases v <;> simp [TypeTable.cast, ValueType.acceptsNull, ValueType.isPlain, Value.isNumeric,
      ValueType.isNumeric, ValueType.isInteger, ValueType.isFloat] at h <;>
      (subst h; exact List.Subset.refl _)
  | float32 | float64 | int32 | int64 | uint32 | uint64 =>
    rw [Value.refs_of_castNumber? (TypeTable.castNumber?_of_cast rfl h)]
    exact List.nil_subset _

namespace Store

/-- Every reference in a value leads to an object of the type that it names. -/
def Live (s : Store) (v : Value) : Prop :=
  ∀ ref ∈ v.refs, ∃ r, s.record? ref.address = some r ∧ r.type = ref.type

/-- Every object is still there, and of its type. -/
def Grows (s s' : Store) : Prop :=
  ∀ address r, s.record? address = some r → ∃ r', s'.record? address = some r' ∧ r'.type = r.type

theorem Grows.refl (s : Store) : s.Grows s := fun _ r h => ⟨r, h, rfl⟩

theorem Grows.trans {s₁ s₂ s₃ : Store} (h : s₁.Grows s₂) (h' : s₂.Grows s₃) : s₁.Grows s₃ := by
  intro address r hr
  obtain ⟨r₂, hr₂, htype₂⟩ := h address r hr
  obtain ⟨r₃, hr₃, htype₃⟩ := h' address r₂ hr₂
  exact ⟨r₃, hr₃, htype₃.trans htype₂⟩

theorem Live.mono {s s' : Store} (h : s.Grows s') {v : Value} (hv : s.Live v) : s'.Live v := by
  intro ref href
  obtain ⟨r, hr, htype⟩ := hv ref href
  obtain ⟨r', hr', htype'⟩ := h _ r hr
  exact ⟨r', hr', htype'.trans htype⟩

theorem Live.cast {s : Store} {t : TypeTable} {type : ValueType} {v w : Value}
    (h : t.cast type v = .ok w) (hv : s.Live v) : s.Live w :=
  fun ref href => hv ref (TypeTable.refs_of_cast h href)

theorem live_null (s : Store) : s.Live .null := fun _ h => by simp [Value.refs] at h

theorem live_bool (s : Store) (b : Bool) : s.Live (.bool b) := fun _ h => by simp [Value.refs] at h

theorem live_zero (s : Store) (type : ValueType) : s.Live type.zero := by
  cases type <;> exact fun _ h => by simp [ValueType.zero, Value.refs] at h

theorem live_item {s : Store} {items : List Value} (h : s.Live (.list items)) {v : Value}
    (hv : v ∈ items) : s.Live v := by
  intro ref href
  refine h ref ?_
  rw [Value.refs, Value.refsOfAll_eq]
  exact List.mem_flatMap.2 ⟨v, hv, href⟩

/-- The object of a live reference. -/
theorem live_object {s : Store} {ref : ObjectRef} :
    s.Live (.object ref) ↔ ∃ r, s.record? ref.address = some r ∧ r.type = ref.type := by
  constructor
  · intro h
    exact h ref (by simp [Value.refs])
  · intro h ref' href'
    simp only [Value.refs, List.mem_singleton] at href'
    exact href' ▸ h

/-! ## Well-typed stores -/

/-- Every slot holds a value of its declared type, and every reference leads to an object. -/
structure WellTyped (t : TypeTable) (s : Store) : Prop where
  /-- The type of each object is declared. -/
  declared : ∀ address r, s.record? address = some r → r.type < t.size
  /-- An object has the slots of its type, each with a value of the declared type. -/
  slots : ∀ address r, s.record? address = some r →
    List.Forall₂ (fun type v => t.conforms type v = true) (t.model r.type).slotTypes r.slots
  /-- References in slots lead to objects. -/
  slotsLive : ∀ address r, s.record? address = some r → ∀ v ∈ r.slots, s.Live v
  /-- A static slot that was written is declared and holds a value of its type. -/
  statics : ∀ key v, s.static? key = some v → ∃ type,
    (t.model key.owner).staticTypes[key.slot]? = some type ∧ t.conforms type v = true
  /-- References in static slots lead to objects. -/
  staticsLive : ∀ key v, s.static? key = some v → s.Live v

/-- Every object is of a declared type and has the slots of its type, each with a value of the declared
type.  Of references it is not asked that they lead anywhere. -/
structure SlotsTyped (t : TypeTable) (s : Store) : Prop where
  /-- The type of each object is declared. -/
  declared : ∀ address r, s.record? address = some r → r.type < t.size
  /-- An object has the slots of its type, each with a value of the declared type. -/
  slots : ∀ address r, s.record? address = some r →
    List.Forall₂ (fun type v => t.conforms type v = true) (t.model r.type).slotTypes r.slots

/-- Every reference that a slot holds leads to an object of the type that it names. -/
structure Linked (s : Store) : Prop where
  /-- References in slots of objects. -/
  slotsLive : ∀ address r, s.record? address = some r → ∀ v ∈ r.slots, s.Live v
  /-- References in static slots. -/
  staticsLive : ∀ key v, s.static? key = some v → s.Live v

/-- Every slot of an object, and every static field that was written, holds a value of its declared type, and
every reference leads to an object.  The static slot of a property may hold any value: its setter stores what
it is given. -/
structure FieldsTyped (t : TypeTable) (s : Store) : Prop extends SlotsTyped t s, Linked s where
  /-- A static field that was written holds a value of its type. -/
  statics : ∀ f, t.HasField f → f.field.isStatic = true → ∀ v,
    s.static? ⟨f.owner, f.field.slot⟩ = some v → t.conforms f.field.type v = true

theorem WellTyped.slotsTyped {t : TypeTable} {s : Store} (h : s.WellTyped t) : s.SlotsTyped t :=
  ⟨h.declared, h.slots⟩

theorem WellTyped.linked {t : TypeTable} {s : Store} (h : s.WellTyped t) : s.Linked :=
  ⟨h.slotsLive, h.staticsLive⟩

theorem wellTyped_empty (t : TypeTable) : Store.empty.WellTyped t := by
  have hrecord : ∀ address, Store.empty.record? address = none := fun _ => rfl
  have hstatic : ∀ key, Store.empty.static? key = none := fun _ => rfl
  constructor <;> simp [hrecord, hstatic]

/-! ## Updates -/

theorem record?_push (s : Store) (r : Record) (address : Nat) :
    (s.push r).record? address =
      if address = s.heap.size then some r else s.record? address := by
  simp only [record?, push, Array.getElem?_push]

theorem record?_setSlot (s : Store) (address slot : Nat) (v : Value) (place : Nat) :
    (s.setSlot address slot v).record? place =
      (s.record? place).map fun r =>
        if address = place then { r with slots := r.slots.set slot v } else r := by
  simp only [record?, setSlot, Array.getElem?_modify]
  by_cases h : address = place
  · simp [h]
  · simp [h]

theorem static?_setStatic (s : Store) (key other : StaticSlot) (v : Value) :
    (s.setStatic key v).static? other = if key = other then some v else s.static? other := by
  unfold setStatic static?
  by_cases h : key = other
  · simp [h]
  · rw [List.find?_cons_of_neg (by simpa using h), if_neg h, List.find?_filter]
    congr 2
    funext entry
    by_cases he : entry.1 = other
    · simp [he, Ne.symm h]
    · simp [he]

theorem lt_size_of_record? {s : Store} {address : Nat} {r : Record}
    (h : s.record? address = some r) : address < s.heap.size :=
  (Array.getElem?_eq_some_iff.1 h).1

theorem grows_push (s : Store) (r : Record) : s.Grows (s.push r) := by
  intro address r' h
  refine ⟨r', ?_, rfl⟩
  rw [record?_push, if_neg (Nat.ne_of_lt (lt_size_of_record? h))]
  exact h

theorem grows_setSlot (s : Store) (address slot : Nat) (v : Value) :
    s.Grows (s.setSlot address slot v) := by
  intro place r h
  rw [record?_setSlot, h]
  refine ⟨_, rfl, ?_⟩
  split <;> rfl

theorem grows_setStatic (s : Store) (key : StaticSlot) (v : Value) :
    s.Grows (s.setStatic key v) :=
  fun _ r h => ⟨r, h, rfl⟩

theorem SlotsTyped.push {t : TypeTable} {s : Store} (h : s.SlotsTyped t) {type : TypeId}
    (htype : type < t.size) :
    (s.push ⟨type, (t.model type).slotTypes.map ValueType.zero⟩).SlotsTyped t := by
  constructor
  · intro address r hr
    rw [record?_push] at hr
    split at hr
    · cases hr
      exact htype
    · exact h.declared address r hr
  · intro address r hr
    rw [record?_push] at hr
    split at hr
    · cases hr
      rw [List.forall₂_map_right_iff]
      exact List.forall₂_same.2 fun type _ => TypeTable.conforms_zero type
    · exact h.slots address r hr

theorem Linked.push {s : Store} (h : s.Linked) {r : Record} (hr : ∀ v ∈ r.slots, s.Live v) :
    (s.push r).Linked := by
  have hg := s.grows_push r
  refine ⟨fun address r' hr' v hv => ?_, fun key v hv => (h.staticsLive key v hv).mono hg⟩
  rw [record?_push] at hr'
  split at hr'
  · cases hr'
    exact (hr v hv).mono hg
  · exact (h.slotsLive address r' hr' v hv).mono hg

/-- Zero values have no references. -/
theorem live_zeros (s : Store) (types : List ValueType) : ∀ v ∈ types.map ValueType.zero, s.Live v := by
  intro v hv
  obtain ⟨type, -, rfl⟩ := List.mem_map.1 hv
  exact live_zero s type

theorem WellTyped.push {t : TypeTable} {s : Store} (h : s.WellTyped t) {type : TypeId}
    (htype : type < t.size) :
    (s.push ⟨type, (t.model type).slotTypes.map ValueType.zero⟩).WellTyped t := by
  have htyped := h.slotsTyped.push htype
  have hlinked := h.linked.push (r := ⟨type, _⟩) (s.live_zeros (t.model type).slotTypes)
  exact ⟨htyped.declared, htyped.slots, hlinked.slotsLive, h.statics, hlinked.staticsLive⟩

theorem FieldsTyped.push {t : TypeTable} {s : Store} (h : s.FieldsTyped t) {type : TypeId}
    (htype : type < t.size) :
    (s.push ⟨type, (t.model type).slotTypes.map ValueType.zero⟩).FieldsTyped t :=
  ⟨h.toSlotsTyped.push htype, h.toLinked.push (s.live_zeros _), h.statics⟩

theorem forall₂_set {α β : Type} {R : α → β → Prop} {l : List α} {l' : List β}
    (h : List.Forall₂ R l l') {i : Nat} {a : α} {b : β} (ha : l[i]? = some a) (hab : R a b) :
    List.Forall₂ R l (l'.set i b) := by
  induction h generalizing i with
  | nil => simp at ha
  | cons hcons _ ih =>
    cases i with
    | zero =>
      cases ha
      exact .cons hab ‹_›
    | succ i => exact .cons hcons (ih ha)

/-- An object afterwards is one from before, with at most the one slot replaced. -/
theorem exists_of_record?_setSlot {s : Store} {address slot place : Nat} {v : Value} {r : Record}
    (h : (s.setSlot address slot v).record? place = some r) :
    ∃ r₀, s.record? place = some r₀ ∧ r.type = r₀.type ∧
      (r.slots = r₀.slots ∨ place = address ∧ r.slots = r₀.slots.set slot v) := by
  rw [record?_setSlot] at h
  obtain ⟨r₀, hr₀, rfl⟩ := Option.map_eq_some_iff.1 h
  refine ⟨r₀, hr₀, ?_⟩
  split
  · rename_i heq
    exact ⟨rfl, .inr ⟨heq.symm, rfl⟩⟩
  · exact ⟨rfl, .inl rfl⟩

theorem SlotsTyped.setSlot {t : TypeTable} {s : Store} (h : s.SlotsTyped t) {address slot : Nat}
    {r : Record} (hr : s.record? address = some r) {type : ValueType}
    (htype : (t.model r.type).slotTypes[slot]? = some type) {v : Value}
    (hv : t.conforms type v = true) : (s.setSlot address slot v).SlotsTyped t := by
  constructor
  · intro place r' hr'
    obtain ⟨r₀, hr₀, htype', -⟩ := exists_of_record?_setSlot hr'
    exact htype' ▸ h.declared place r₀ hr₀
  · intro place r' hr'
    obtain ⟨r₀, hr₀, htype', hslots⟩ := exists_of_record?_setSlot hr'
    rw [htype']
    rcases hslots with hslots | ⟨rfl, hslots⟩
    · rw [hslots]
      exact h.slots place r₀ hr₀
    · rw [hslots]
      cases hr.symm.trans hr₀
      exact forall₂_set (h.slots place r hr) htype hv

theorem Linked.setSlot {s : Store} (h : s.Linked) (address slot : Nat) {v : Value} (hv : s.Live v) :
    (s.setSlot address slot v).Linked := by
  have hg := s.grows_setSlot address slot v
  refine ⟨?_, fun key v hv => (h.staticsLive key v hv).mono hg⟩
  intro place r' hr' w hw
  obtain ⟨r₀, hr₀, -, hslots⟩ := exists_of_record?_setSlot hr'
  rcases hslots with hslots | ⟨rfl, hslots⟩
  · exact (h.slotsLive place r₀ hr₀ w (hslots ▸ hw)).mono hg
  · rw [hslots] at hw
    rcases List.mem_or_eq_of_mem_set hw with hw | rfl
    · exact (h.slotsLive place r₀ hr₀ w hw).mono hg
    · exact hv.mono hg

theorem Linked.setStatic {s : Store} (h : s.Linked) (key : StaticSlot) {v : Value} (hv : s.Live v) :
    (s.setStatic key v).Linked := by
  refine ⟨h.slotsLive, fun other w hw => ?_⟩
  rw [static?_setStatic] at hw
  split at hw
  · cases hw
    exact hv
  · exact h.staticsLive other w hw

theorem WellTyped.setSlot {t : TypeTable} {s : Store} (h : s.WellTyped t) {address slot : Nat}
    {r : Record} (hr : s.record? address = some r) {type : ValueType}
    (htype : (t.model r.type).slotTypes[slot]? = some type) {v : Value}
    (hv : t.conforms type v = true) (hlive : s.Live v) :
    (s.setSlot address slot v).WellTyped t := by
  have htyped := h.slotsTyped.setSlot hr htype hv
  have hlinked := h.linked.setSlot address slot hlive
  exact ⟨htyped.declared, htyped.slots, hlinked.slotsLive, h.statics, hlinked.staticsLive⟩

theorem WellTyped.setStatic {t : TypeTable} {s : Store} (h : s.WellTyped t) {key : StaticSlot}
    {type : ValueType} (htype : (t.model key.owner).staticTypes[key.slot]? = some type) {v : Value}
    (hv : t.conforms type v = true) (hlive : s.Live v) : (s.setStatic key v).WellTyped t := by
  refine ⟨h.declared, h.slots, h.slotsLive, ?_, (h.linked.setStatic key hlive).staticsLive⟩
  intro other w hw
  rw [static?_setStatic] at hw
  split at hw
  · rename_i heq
    cases hw
    exact heq ▸ ⟨type, htype, hv⟩
  · exact h.statics other w hw

theorem FieldsTyped.setSlot {t : TypeTable} {s : Store} (h : s.FieldsTyped t) {address slot : Nat}
    {r : Record} (hr : s.record? address = some r) {type : ValueType}
    (htype : (t.model r.type).slotTypes[slot]? = some type) {v : Value}
    (hv : t.conforms type v = true) (hlive : s.Live v) :
    (s.setSlot address slot v).FieldsTyped t :=
  ⟨h.toSlotsTyped.setSlot hr htype hv, h.toLinked.setSlot address slot hlive, h.statics⟩

theorem FieldsTyped.setStatic {t : TypeTable} {s : Store} (h : s.FieldsTyped t) {key : StaticSlot} {v : Value}
    (hv : ∀ f, t.HasField f → f.field.isStatic = true → key = ⟨f.owner, f.field.slot⟩ →
      t.conforms f.field.type v = true)
    (hlive : s.Live v) : (s.setStatic key v).FieldsTyped t := by
  refine ⟨⟨h.declared, h.slots⟩, h.toLinked.setStatic key hlive, fun f hf hstatic w hw => ?_⟩
  rw [static?_setStatic] at hw
  split at hw
  · rename_i hkey
    cases hw
    exact hv f hf hstatic hkey
  · exact h.statics f hf hstatic w hw

/-- What an object holds in a slot conforms to the type of the slot. -/
theorem SlotsTyped.conforms {t : TypeTable} {s : Store} (hs : s.SlotsTyped t) {address : Nat} {r : Record}
    (hr : s.record? address = some r) {slot : Nat} {type : ValueType}
    (htype : (t.model r.type).slotTypes[slot]? = some type) {v : Value}
    (hv : r.slots[slot]? = some v) : t.conforms type v = true := by
  obtain ⟨w, hw, hconf⟩ := exists_getElem?_of_forall₂ (hs.slots address r hr) htype
  rw [hv] at hw
  cases hw
  exact hconf

/-- What is read through a reference conforms to the type of the slot. -/
theorem SlotsTyped.conforms_of_live {t : TypeTable} {s : Store} (hs : s.SlotsTyped t) {ref : ObjectRef}
    (hlive : s.Live (.object ref)) {slot : Nat} {type : ValueType}
    (htype : (t.model ref.type).slotTypes[slot]? = some type) {r : Record}
    (hr : s.record? ref.address = some r) {v : Value} (hv : r.slots[slot]? = some v) :
    t.conforms type v = true := by
  obtain ⟨r', hr', hrtype⟩ := live_object.1 hlive
  cases hr.symm.trans hr'
  exact hs.conforms hr (hrtype ▸ htype) hv

/-- What a static slot is read as has references to objects only, also if it was never written. -/
theorem Linked.live_static {s : Store} (h : s.Linked) (key : StaticSlot) (type : ValueType) :
    s.Live ((s.static? key).getD type.zero) := by
  cases hv : s.static? key with
  | none => exact live_zero s type
  | some v => exact h.staticsLive key v hv

/-- The value in a slot of an object. -/
theorem WellTyped.slot {t : TypeTable} {s : Store} (h : s.WellTyped t) {address : Nat} {r : Record}
    (hr : s.record? address = some r) {slot : Nat} {type : ValueType}
    (htype : (t.model r.type).slotTypes[slot]? = some type) :
    ∃ v, r.slots[slot]? = some v ∧ t.conforms type v = true ∧ s.Live v := by
  obtain ⟨v, hv, hconf⟩ := exists_getElem?_of_forall₂ (h.slots address r hr) htype
  exact ⟨v, hv, hconf, h.slotsLive address r hr v (List.mem_of_getElem? hv)⟩

end Store
end Reshape
