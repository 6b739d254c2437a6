import Reshape.Proofs.Number.Comparison
import Reshape.Proofs.Store.Typing

/-!
# Relations between objects

Two values are `Related` by a relation on objects if they have the same shape, numbers equal as numbers
are, and related objects at the same places.  A `Store.Bisimulation` relates only objects that are the
same, or have the same type and related slots.  The largest one (`Store.Equates`) is symmetric, is
transitive in a store whose references lead somewhere (`Store.Closed`), and relates a value to
itself unless there is a NaN in it outside of all objects.
-/

namespace Reshape

/-! ## Related values -/

namespace Value

mutual

/-- Equal scalars, lists item by item, and related objects. -/
def Related (R : ObjectRef → ObjectRef → Prop) : Value → Value → Prop
  | .blob a, .blob b => a = b
  | .bool a, .bool b => a = b
  | .float32 a, .float32 b => (a == b) = true
  | .float64 a, .float64 b => (a == b) = true
  | .int32 a, .int32 b => a = b
  | .int64 a, .int64 b => a = b
  | .list a, .list b => RelatedItems R a b
  | .null, .null => True
  | .object a, .object b => R a b
  | .text a, .text b => a = b
  | .uint32 a, .uint32 b => a = b
  | .uint64 a, .uint64 b => a = b
  | _, _ => False

/-- Lists of the same length with related items. -/
def RelatedItems (R : ObjectRef → ObjectRef → Prop) : List Value → List Value → Prop
  | [], [] => True
  | a :: as, b :: bs => Related R a b ∧ RelatedItems R as bs
  | _, _ => False

end

mutual

/-- No NaN is in the value, apart from what objects hold. -/
def NaNFree : Value → Prop
  | .float32 x => x.isNaN = false
  | .float64 x => x.isNaN = false
  | .list items => NaNFreeItems items
  | _ => True

/-- No NaN is in the values, apart from what objects hold. -/
def NaNFreeItems : List Value → Prop
  | [] => True
  | v :: vs => NaNFree v ∧ NaNFreeItems vs

end

variable {R R' : ObjectRef → ObjectRef → Prop}

mutual

theorem Related.imp : {v w : Value} → (∀ a ∈ v.refs, ∀ b ∈ w.refs, R a b → R' a b) →
    Related R v w → Related R' v w
  | .list _, w, h, hvw => by
    cases w with
    | list _ => exact RelatedItems.imp h hvw
    | _ => exact hvw
  | .object a, w, h, hvw => by
    cases w with
    | object b => exact h a (List.mem_singleton_self a) b (List.mem_singleton_self b) hvw
    | _ => exact hvw
  | .blob _, w, _, hvw | .bool _, w, _, hvw | .float32 _, w, _, hvw | .float64 _, w, _, hvw
  | .int32 _, w, _, hvw | .int64 _, w, _, hvw | .null, w, _, hvw | .text _, w, _, hvw
  | .uint32 _, w, _, hvw | .uint64 _, w, _, hvw => by
    cases w <;> exact hvw

theorem RelatedItems.imp : {vs ws : List Value} →
    (∀ a ∈ refsOfAll vs, ∀ b ∈ refsOfAll ws, R a b → R' a b) →
    RelatedItems R vs ws → RelatedItems R' vs ws
  | [], ws, _, hvw => by cases ws <;> exact hvw
  | _ :: _, [], _, hvw => hvw
  | _ :: _, _ :: _, h, hvw =>
    ⟨Related.imp (fun a ha b hb => h a (List.mem_append_left _ ha) b (List.mem_append_left _ hb)) hvw.1,
      RelatedItems.imp
        (fun a ha b hb => h a (List.mem_append_right _ ha) b (List.mem_append_right _ hb)) hvw.2⟩

end

theorem RelatedItems.mono (h : ∀ a b, R a b → R' a b) {vs ws : List Value}
    (hvw : RelatedItems R vs ws) : RelatedItems R' vs ws :=
  hvw.imp fun a _ b _ => h a b

mutual

theorem Related.flip : {v w : Value} → Related R v w → Related (fun a b => R b a) w v
  | .list _, w, h => by
    cases w with
    | list _ => exact RelatedItems.flip h
    | _ => exact h
  | .float32 _, w, h => by
    cases w with
    | float32 _ => exact Number.float32_symm h
    | _ => exact h
  | .float64 _, w, h => by
    cases w with
    | float64 _ => exact Number.float64_symm h
    | _ => exact h
  | .object _, w, h | .null, w, h => by cases w <;> exact h
  | .blob _, w, h | .bool _, w, h | .int32 _, w, h | .int64 _, w, h | .text _, w, h
  | .uint32 _, w, h | .uint64 _, w, h => by
    cases w <;> first | exact Eq.symm h | exact h

theorem RelatedItems.flip : {vs ws : List Value} → RelatedItems R vs ws →
    RelatedItems (fun a b => R b a) ws vs
  | [], ws, h => by cases ws <;> exact h
  | _ :: _, [], h => h
  | _ :: _, _ :: _, h => ⟨Related.flip h.1, RelatedItems.flip h.2⟩

end

mutual

theorem Related.comp : {v w u : Value} → Related R v w → Related R' w u →
    Related (fun a c => ∃ b, R a b ∧ R' b c) v u
  | .list _, w, u, h, h' => by
    cases w with
    | list _ =>
      cases u with
      | list _ => exact RelatedItems.comp h h'
      | _ => exact h'
    | _ => exact h.elim
  | .object _, w, u, h, h' => by
    cases w with
    | object b =>
      cases u with
      | object _ => exact ⟨b, h, h'⟩
      | _ => exact h'
    | _ => exact h.elim
  | .float32 _, w, u, h, h' => by
    cases w with
    | float32 _ =>
      cases u with
      | float32 _ => exact Number.float32_trans h h'
      | _ => exact h'
    | _ => exact h.elim
  | .float64 _, w, u, h, h' => by
    cases w with
    | float64 _ =>
      cases u with
      | float64 _ => exact Number.float64_trans h h'
      | _ => exact h'
    | _ => exact h.elim
  | .null, w, u, h, h' => by
    cases w with
    | null => cases u <;> exact h'
    | _ => exact h.elim
  | .blob _, w, u, h, h' | .bool _, w, u, h, h' | .int32 _, w, u, h, h' | .int64 _, w, u, h, h'
  | .text _, w, u, h, h' | .uint32 _, w, u, h, h' | .uint64 _, w, u, h, h' => by
    cases w <;> first
      | exact h.elim
      | (obtain rfl := h; cases u <;> exact h')

theorem RelatedItems.comp : {vs ws us : List Value} → RelatedItems R vs ws →
    RelatedItems R' ws us → RelatedItems (fun a c => ∃ b, R a b ∧ R' b c) vs us
  | [], [], us, _, h' => by cases us <;> exact h'
  | _ :: _, _ :: _, [], _, h' => h'
  | _ :: _, _ :: _, _ :: _, h, h' => ⟨Related.comp h.1 h'.1, RelatedItems.comp h.2 h'.2⟩

end

mutual

/-- Where every object is related to itself, a value is unless it has a NaN. -/
theorem related_self (hR : ∀ a, R a a) : (v : Value) → (Related R v v ↔ v.NaNFree)
  | .list items => relatedItems_self hR items
  | .float32 _ => Number.float32_self
  | .float64 _ => Number.float64_self
  | .object a => iff_of_true (hR a) trivial
  | .null => Iff.rfl
  | .blob _ | .bool _ | .int32 _ | .int64 _ | .text _ | .uint32 _ | .uint64 _ => iff_of_true rfl trivial

theorem relatedItems_self (hR : ∀ a, R a a) : (vs : List Value) → (RelatedItems R vs vs ↔ NaNFreeItems vs)
  | [] => Iff.rfl
  | v :: vs => and_congr (related_self hR v) (relatedItems_self hR vs)

end

end Value

namespace Store

variable {s : Store} {R R' : ObjectRef → ObjectRef → Prop}

/-! ## References that lead somewhere -/

/-- Every reference in a slot leads to an object of the type that it names. -/
def Closed (s : Store) : Prop :=
  ∀ address r, s.record? address = some r → ∀ v ∈ r.slots, s.Live v

theorem WellTyped.closed {t : TypeTable} (h : s.WellTyped t) : s.Closed := h.slotsLive

theorem Live.ref {v : Value} (hv : s.Live v) {ref : ObjectRef} (h : ref ∈ v.refs) :
    s.Live (.object ref) :=
  live_object.2 (hv ref h)

/-- What the slots of an object refer to is in the store. -/
theorem Closed.slots (hs : s.Closed) {ref : ObjectRef} (hlive : s.Live (.object ref))
    {other : ObjectRef} (h : other ∈ Value.refsOfAll (s.slots ref)) : s.Live (.object other) := by
  obtain ⟨r, hr, -⟩ := live_object.1 hlive
  simp only [Store.slots, hr, Value.refsOfAll_eq] at h
  obtain ⟨v, hv, href⟩ := List.mem_flatMap.1 h
  exact (hs _ r hr v hv).ref href

/-- An object with a reference in its slots is in the store. -/
theorem lt_size_of_mem_slots {ref other : ObjectRef} (h : other ∈ Value.refsOfAll (s.slots ref)) :
    ref.address < s.heap.size := by
  cases hr : s.record? ref.address with
  | none => simp [Store.slots, hr, Value.refsOfAll] at h
  | some r => exact lt_size_of_record? hr

/-- Live references to one place are one reference. -/
theorem eq_of_address {a b : ObjectRef} (ha : s.Live (.object a)) (hb : s.Live (.object b))
    (h : a.address = b.address) : a = b := by
  obtain ⟨r, hr, htype⟩ := live_object.1 ha
  obtain ⟨r', hr', htype'⟩ := live_object.1 hb
  rw [h] at hr
  obtain rfl : r = r' := Option.some.inj (hr.symm.trans hr')
  obtain ⟨address, type⟩ := a
  obtain ⟨address', type'⟩ := b
  simp only at h htype htype'
  rw [h, ← htype, ← htype']

/-! ## Bisimulations -/

/-- Two objects are the same, or are of one type and have slots that are related by `R`. -/
def Alike (s : Store) (R : ObjectRef → ObjectRef → Prop) (a b : ObjectRef) : Prop :=
  a.address = b.address ∨ a.type = b.type ∧ Value.RelatedItems R (s.slots a) (s.slots b)

theorem Alike.mono (h : ∀ a b, R a b → R' a b) {a b : ObjectRef} (hab : s.Alike R a b) :
    s.Alike R' a b :=
  hab.imp_right fun hslots => ⟨hslots.1, hslots.2.mono h⟩

/-- Related objects are alike. -/
def Bisimulation (s : Store) (R : ObjectRef → ObjectRef → Prop) : Prop :=
  ∀ a b, R a b → s.Alike R a b

/-- Some bisimulation relates the objects in the values. -/
def Equates (s : Store) (v w : Value) : Prop :=
  ∃ R, s.Bisimulation R ∧ v.Related R w

theorem Equates.symm {v w : Value} (h : s.Equates v w) : s.Equates w v := by
  obtain ⟨R, hR, hvw⟩ := h
  refine ⟨fun a b => R b a, fun a b hab => ?_, hvw.flip⟩
  rcases hR b a hab with haddress | ⟨htype, hslots⟩
  · exact .inl haddress.symm
  · exact .inr ⟨htype.symm, hslots.flip⟩

/-- A value is equal to itself unless it has a NaN: its objects are the same as themselves, whatever
they hold. -/
theorem equates_self {v : Value} : s.Equates v v ↔ v.NaNFree := by
  constructor
  · rintro ⟨R, -, hvv⟩
    have hany : v.Related (fun _ _ => True) v := hvv.imp fun _ _ _ _ _ => trivial
    exact (Value.related_self (fun _ => trivial) v).1 hany
  · intro h
    refine ⟨Eq, fun a b hab => .inl (congrArg ObjectRef.address hab), ?_⟩
    exact (Value.related_self (fun _ => rfl) v).2 h

/-- A relation among the objects that are in the store. -/
def Within (s : Store) (R : ObjectRef → ObjectRef → Prop) (a b : ObjectRef) : Prop :=
  s.Live (.object a) ∧ s.Live (.object b) ∧ R a b

theorem Within.related {v w : Value} (hv : s.Live v) (hw : s.Live w) (h : v.Related R w) :
    v.Related (s.Within R) w :=
  h.imp fun _ ha _ hb hab => ⟨hv.ref ha, hw.ref hb, hab⟩

theorem Within.slots (hs : s.Closed) {a b : ObjectRef} (ha : s.Live (.object a))
    (hb : s.Live (.object b)) (h : Value.RelatedItems R (s.slots a) (s.slots b)) :
    Value.RelatedItems (s.Within R) (s.slots a) (s.slots b) :=
  h.imp fun _ ha' _ hb' hab => ⟨hs.slots ha ha', hs.slots hb hb', hab⟩

theorem Bisimulation.within (hs : s.Closed) (h : s.Bisimulation R) :
    s.Bisimulation (s.Within R) := by
  rintro a b ⟨ha, hb, hab⟩
  exact (h a b hab).imp_right fun hslots => ⟨hslots.1, Within.slots hs ha hb hslots.2⟩

/-- Two bisimulations and what they relate together. -/
def Joined (R R' : ObjectRef → ObjectRef → Prop) (a c : ObjectRef) : Prop :=
  R a c ∨ R' a c ∨ ∃ b, R a b ∧ R' b c

theorem Bisimulation.joined (h : s.Bisimulation (s.Within R)) (h' : s.Bisimulation (s.Within R')) :
    s.Bisimulation (Joined (s.Within R) (s.Within R')) := by
  have left : ∀ a c, s.Within R a c → s.Alike (Joined (s.Within R) (s.Within R')) a c :=
    fun a c hac => (h a c hac).mono fun _ _ => .inl
  have right : ∀ a c, s.Within R' a c → s.Alike (Joined (s.Within R) (s.Within R')) a c :=
    fun a c hac => (h' a c hac).mono fun _ _ hac => .inr (.inl hac)
  rintro a c (hac | hac | ⟨b, hab, hbc⟩)
  · exact left a c hac
  · exact right a c hac
  · rcases h a b hab with haddress | ⟨htype, hslots⟩
    · -- the first two are the same object, and the second relation has it
      obtain rfl := eq_of_address hab.1 hab.2.1 haddress
      exact right a c hbc
    · rcases h' b c hbc with haddress' | ⟨htype', hslots'⟩
      · obtain rfl := eq_of_address hbc.1 hbc.2.1 haddress'
        exact left a b hab
      · exact .inr ⟨htype.trans htype', (hslots.comp hslots').mono fun _ _ hac => .inr (.inr hac)⟩

theorem Equates.trans (hs : s.Closed) {v w u : Value} (hv : s.Live v) (hw : s.Live w) (hu : s.Live u)
    (h : s.Equates v w) (h' : s.Equates w u) : s.Equates v u := by
  obtain ⟨R, hR, hvw⟩ := h
  obtain ⟨R', hR', hwu⟩ := h'
  refine ⟨_, (hR.within hs).joined (hR'.within hs), ?_⟩
  have hboth := (Within.related hv hw hvw).comp (Within.related hw hu hwu)
  exact hboth.imp fun _ _ _ _ hac => .inr (.inr hac)

end Store
end Reshape
