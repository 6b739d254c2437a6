import Mathlib.Data.List.ProdSigma
import Reshape.Proofs.Store.Bisimulation
import Reshape.Proofs.Store.Visits
import Reshape.Store.Equality

/-!
# Equality by content

The comparison of two objects takes the pairs that are being compared to be equal.  It decides whether a
bisimulation up to those pairs relates the objects (`Store.objectsAlike_decides`): if a pair is
entered, one for its slots with the pair assumed is one without the assumption.  So values are
equal by content exactly when a bisimulation relates them (`Store.sameValue_iff`).  That depends on
nothing but what can be reached, and values that are in a store are equal in a larger store exactly
when they are in the smaller one (`Store.Includes.sameValue`).
-/

namespace Reshape

namespace Value

variable {f : ObjectRef → ObjectRef → Walk Bool} {E : ObjectRef → ObjectRef → Prop}
  {active : List Visit}

mutual

/-- Where the comparison of objects decides a relation, that of values decides whether they are related. -/
theorem alike_decides :
    (v w : Value) → (∀ a ∈ v.refs, ∀ b ∈ w.refs, (f a b).Decides active (E a b)) →
      (v.alike f w).Decides active (v.Related E w)
  | .list items, w, h => by
    cases w with
    | list items' => exact alikeItems_decides items items' h
    | _ => exact Walk.decides_pure Bool.false_eq_true.to_iff
  | .object a, w, h => by
    cases w with
    | object b => exact h a (List.mem_singleton_self a) b (List.mem_singleton_self b)
    | _ => exact Walk.decides_pure Bool.false_eq_true.to_iff
  | .float32 _, w, _ | .float64 _, w, _ => by
    cases w <;> first
      | exact Walk.decides_pure Iff.rfl
      | exact Walk.decides_pure Bool.false_eq_true.to_iff
  | .null, w, _ => by
    cases w <;> first
      | exact Walk.decides_pure (iff_of_true rfl trivial)
      | exact Walk.decides_pure Bool.false_eq_true.to_iff
  | .blob _, w, _ | .bool _, w, _ | .int32 _, w, _ | .int64 _, w, _ | .text _, w, _
  | .uint32 _, w, _ | .uint64 _, w, _ => by
    cases w <;> first
      | exact Walk.decides_pure beq_iff_eq
      | exact Walk.decides_pure Bool.false_eq_true.to_iff

theorem alikeItems_decides :
    (vs ws : List Value) →
      (∀ a ∈ refsOfAll vs, ∀ b ∈ refsOfAll ws, (f a b).Decides active (E a b)) →
      (alikeItems f vs ws).Decides active (RelatedItems E vs ws)
  | [], [], _ => Walk.decides_pure (iff_of_true rfl trivial)
  | [], _ :: _, _ => Walk.decides_pure Bool.false_eq_true.to_iff
  | _ :: _, [], _ => Walk.decides_pure Bool.false_eq_true.to_iff
  | v :: vs, w :: ws, h => by
    have hfirst := alike_decides v w fun a ha b hb =>
      h a (List.mem_append_left _ ha) b (List.mem_append_left _ hb)
    have hrest := alikeItems_decides vs ws fun a ha b hb =>
      h a (List.mem_append_right _ ha) b (List.mem_append_right _ hb)
    exact hfirst.and hrest

end

end Value

namespace Store

variable {t : TypeTable} {s s' : Store} {active : List Visit} {R : ObjectRef → ObjectRef → Prop}

/-! ## Bisimulations up to the active pairs -/

/-- Related objects are alike, or are of one type and being compared. -/
def BisimulationUpTo (s : Store) (active : List Visit) (R : ObjectRef → ObjectRef → Prop) : Prop :=
  ∀ a b, R a b → s.Alike R a b ∨ a.type = b.type ∧ .compare a.address b.address ∈ active

/-- Some bisimulation up to the active pairs relates the objects. -/
def EquatesUpTo (s : Store) (active : List Visit) (a b : ObjectRef) : Prop :=
  ∃ R, s.BisimulationUpTo active R ∧ R a b

/-- A relation between objects that are alike or active relates what is equal. -/
theorem equatesUpTo_of_step {a b : ObjectRef}
    (h : s.Alike (s.EquatesUpTo active) a b ∨
      a.type = b.type ∧ .compare a.address b.address ∈ active) : s.EquatesUpTo active a b := by
  refine ⟨fun x y => x = a ∧ y = b ∨ s.EquatesUpTo active x y, ?_, .inl ⟨rfl, rfl⟩⟩
  rintro x y (⟨rfl, rfl⟩ | ⟨R, hR, hxy⟩)
  · exact h.imp_left fun halike => halike.mono fun _ _ => .inr
  · exact (hR x y hxy).imp_left fun halike => halike.mono fun _ _ hab => .inr ⟨R, hR, hab⟩

theorem bisimulationUpTo_equatesUpTo (s : Store) (active : List Visit) :
    s.BisimulationUpTo active (s.EquatesUpTo active) := by
  rintro a b ⟨R, hR, hab⟩
  exact (hR a b hab).imp_left fun halike => halike.mono fun x y hxy => ⟨R, hR, hxy⟩

/-- To compare two objects that are not being compared is to compare their slots. -/
theorem equatesUpTo_iff {a b : ObjectRef} (haddress : a.address ≠ b.address)
    (htype : a.type = b.type) (hfresh : .compare a.address b.address ∉ active) :
    s.EquatesUpTo active a b ↔
      Value.RelatedItems (s.EquatesUpTo (.compare a.address b.address :: active)) (s.slots a)
        (s.slots b) := by
  constructor
  · rintro ⟨R, hR, hab⟩
    have hmore : s.BisimulationUpTo (.compare a.address b.address :: active) R :=
      fun x y hxy => (hR x y hxy).imp_right fun h => ⟨h.1, List.mem_cons_of_mem _ h.2⟩
    rcases hR a b hab with (h | h) | h
    · exact absurd h haddress
    · exact h.2.mono fun x y hxy => ⟨R, hmore, hxy⟩
    · exact absurd h.2 hfresh
  · intro h
    -- what was found equal with the pair assumed, and the pair
    refine ⟨fun x y => x.type = y.type ∧ x.address = a.address ∧ y.address = b.address ∨
      s.EquatesUpTo (.compare a.address b.address :: active) x y, ?_, .inl ⟨htype, rfl, rfl⟩⟩
    have hpair : ∀ x y : ObjectRef, x.type = y.type → x.address = a.address →
        y.address = b.address → s.Alike (fun x y => x.type = y.type ∧ x.address = a.address ∧
          y.address = b.address ∨
            s.EquatesUpTo (.compare a.address b.address :: active) x y) x y := by
      intro x y hxy hx hy
      have hslots : s.slots x = s.slots a ∧ s.slots y = s.slots b := by
        simp only [Store.slots, hx, hy, and_self]
      refine .inr ⟨hxy, ?_⟩
      rw [hslots.1, hslots.2]
      exact h.mono fun _ _ => .inr
    rintro x y (⟨hxy, hx, hy⟩ | hxy)
    · exact .inl (hpair x y hxy hx hy)
    · rcases bisimulationUpTo_equatesUpTo s _ x y hxy with halike | ⟨htypes, hmem⟩
      · exact .inl (halike.mono fun _ _ => .inr)
      · rcases List.mem_cons.1 hmem with heq | hmem
        · obtain ⟨hx, hy⟩ := Visit.compare.inj heq
          exact .inl (hpair x y htypes hx hy)
        · exact .inr ⟨htypes, hmem⟩

/-- Where no pair is active, what is equal up to the active pairs is equal. -/
theorem related_equatesUpTo (h : ∀ a b, .compare a b ∉ active) {v w : Value} :
    v.Related (s.EquatesUpTo active) w ↔ s.Equates v w := by
  constructor
  · intro hvw
    refine ⟨s.EquatesUpTo active, fun a b hab => ?_, hvw⟩
    exact (bisimulationUpTo_equatesUpTo s active a b hab).resolve_right fun hmem => h _ _ hmem.2
  · rintro ⟨R, hR, hvw⟩
    exact hvw.imp fun a _ b _ hab => ⟨R, fun x y hxy => .inl (hR x y hxy), hab⟩

/-! ## The comparison -/

/-- All pairs of objects. -/
def comparisons (s : Store) : List Visit :=
  (List.range s.heap.size ×ˢ List.range s.heap.size).map fun pair => .compare pair.1 pair.2

theorem unvisited_comparisons (s : Store) (active : List Visit) :
    Walk.unvisited s.comparisons active ≤ s.heap.size * s.heap.size := by
  have hle := Walk.unvisited_le s.comparisons active
  simpa only [comparisons, List.length_map, List.length_product, List.length_range] using hle

/-- **The comparison of two objects decides whether a bisimulation up to the active pairs relates them.** -/
theorem objectsAlike_decides {depth : Nat} (h : Walk.unvisited s.comparisons active < depth)
    (a b : ObjectRef) : (s.objectsAlike depth a b).Decides active (s.EquatesUpTo active a b) := by
  refine Walk.of_depth (fun pair : ObjectRef × ObjectRef => .compare pair.1.address pair.2.address)
    (fun depth pair active => (s.objectsAlike depth pair.1 pair.2).Decides active
      (s.EquatesUpTo active pair.1 pair.2)) ?_ h (a, b)
  rintro depth ⟨a, b⟩ active ih
  rw [objectsAlike]
  by_cases haddress : a.address = b.address
  · rw [if_pos haddress]
    refine Walk.decides_pure ?_
    simpa using equatesUpTo_of_step (.inl (.inl haddress))
  rw [if_neg haddress]
  by_cases htype : a.type = b.type
  swap
  · rw [if_pos htype]
    refine Walk.decides_pure ?_
    simp only [Bool.false_eq_true, false_iff]
    rintro ⟨R, hR, hab⟩
    rcases hR a b hab with (h | h) | h
    · exact haddress h
    · exact htype h.1
    · exact htype h.1
  rw [if_neg (not_not.2 htype)]
  by_cases hactive : .compare a.address b.address ∈ active
  · refine ⟨true, Walk.yields_guarded hactive _ _, ?_⟩
    simpa using equatesUpTo_of_step (.inr ⟨htype, hactive⟩)
  · have hslots := Value.alikeItems_decides (s.slots a) (s.slots b) fun a' ha' b' hb' => by
      refine ih ?_ hactive (a', b')
      have ha := lt_size_of_mem_slots ha'
      have hb := lt_size_of_mem_slots hb'
      exact List.mem_map.2 ⟨(a.address, b.address),
        List.mem_product.2 ⟨List.mem_range.2 ha, List.mem_range.2 hb⟩, rfl⟩
    obtain ⟨answer, hyields, hanswer⟩ := hslots
    exact ⟨answer, hyields.guarded hactive,
      hanswer.trans (equatesUpTo_iff haddress htype hactive).symm⟩

/-- So does the comparison of two values. -/
theorem comparison_decides {depth : Nat} (h : s.heap.size * s.heap.size < depth) (active : List Visit)
    (v w : Value) :
    (s.comparison depth v w).Decides active (v.Related (s.EquatesUpTo active) w) :=
  v.alike_decides w fun a _ b _ =>
    objectsAlike_decides (Nat.lt_of_le_of_lt (s.unvisited_comparisons active) h) a b

/-- **Values are equal by content when a bisimulation relates them.** -/
theorem sameValue_iff {v w : Value} : s.sameValue v w = true ↔ s.Equates v w := by
  obtain ⟨answer, hyields, hanswer⟩ :=
    s.comparison_decides (Nat.lt_succ_self (s.heap.size * s.heap.size)) [] v w
  rw [sameValue, hyields.outcome?, Option.getD_some, hanswer]
  exact related_equatesUpTo fun _ _ => List.not_mem_nil

/-- The comparison from any stack with no pair active. -/
theorem comparison_yields {depth : Nat} (h : s.heap.size * s.heap.size < depth)
    (hactive : ∀ a b, .compare a b ∉ active) (v w : Value) :
    (s.comparison depth v w).Yields active (s.sameValue v w) := by
  obtain ⟨answer, hyields, hanswer⟩ := s.comparison_decides h active v w
  rw [related_equatesUpTo hactive, ← sameValue_iff] at hanswer
  rwa [← Bool.eq_iff_iff.2 hanswer]

/-- **Equality by content is equality of graphs.**  From any stack of active visits a comparison ends
and leaves the stack as it was, and while no pair is active the answer is that of `sameValue`.  That
is whether a relation on objects that relates only the same object, or objects of one type with slots
related item by item, relates the values.  It is symmetric, transitive among what is in a store, and
holds of a value and itself unless a NaN is in it. -/
theorem sameValue_is_bisimilarity (s : Store) (v w : Value) :
    (∀ active, ∃ answer, ∀ depth, s.heap.size * s.heap.size < depth →
      (s.comparison depth v w).run active = some (answer, active)) ∧
    (∀ active, (∀ a b, .compare a b ∉ active) → ∀ depth, s.heap.size * s.heap.size < depth →
      (s.comparison depth v w).run active = some (s.sameValue v w, active)) ∧
    (s.sameValue v w = true ↔ ∃ R, s.Bisimulation R ∧ v.Related R w) ∧
    s.sameValue v w = s.sameValue w v ∧
    (s.Closed → s.Live v → s.Live w → ∀ u, s.Live u →
      s.sameValue v w = true → s.sameValue w u = true → s.sameValue v u = true) ∧
    (s.sameValue v v = true ↔ v.NaNFree) := by
  refine ⟨fun active => ?_, fun active hactive depth h => comparison_yields h hactive v w,
    sameValue_iff, ?_, ?_, sameValue_iff.trans equates_self⟩
  · obtain ⟨answer, -, hanswer⟩ :=
      s.comparison_decides (Nat.lt_succ_self (s.heap.size * s.heap.size)) active v w
    refine ⟨answer, fun depth h => ?_⟩
    obtain ⟨answer', hyields, hanswer'⟩ := s.comparison_decides h active v w
    rwa [Bool.eq_iff_iff.2 (hanswer.trans hanswer'.symm)]
  · rw [Bool.eq_iff_iff, sameValue_iff, sameValue_iff]
    exact ⟨Equates.symm, Equates.symm⟩
  · intro hs hv hw u hu hvw hwu
    rw [sameValue_iff] at hvw hwu ⊢
    exact hvw.trans hs hv hw hu hwu

/-- An object that holds itself, two that hold each other, and one that holds nothing. -/
def loops : Store :=
  { heap := #[⟨0, [.object ⟨0, 0⟩]⟩, ⟨0, [.object ⟨2, 0⟩]⟩, ⟨0, [.object ⟨1, 0⟩]⟩, ⟨0, [.null]⟩]
    statics := [] }

theorem closed_loops : loops.Closed := by
  intro address r hr v hv ref href
  match address, hr with
  | 0, hr | 1, hr | 2, hr | 3, hr =>
    cases hr
    rw [List.mem_singleton.1 hv] at href
    simp only [Value.refs, List.mem_singleton, List.not_mem_nil] at href
    try exact href ▸ ⟨_, rfl, rfl⟩

/-- Loops of different lengths are equal, also while an object is being printed. -/
theorem sameValue_is_bisimilarity_loops :
    loops.Closed ∧ loops.sameValue (.object ⟨0, 0⟩) (.object ⟨1, 0⟩) = true ∧
      loops.sameValue (.object ⟨1, 0⟩) (.object ⟨2, 0⟩) = true ∧
      loops.sameValue (.object ⟨0, 0⟩) (.object ⟨2, 0⟩) = true ∧
      (loops.comparison 17 (.object ⟨0, 0⟩) (.object ⟨3, 0⟩)).run [.print 0] =
        some (false, [.print 0]) := by
  have hlive : ∀ address < 4, loops.Live (.object ⟨address, 0⟩) := by
    intro address h
    refine live_object.2 ?_
    match address, h with
    | 0, _ | 1, _ | 2, _ | 3, _ => exact ⟨_, rfl, rfl⟩
  have hfirst : loops.sameValue (.object ⟨0, 0⟩) (.object ⟨1, 0⟩) = true := by decide
  have hsecond : loops.sameValue (.object ⟨1, 0⟩) (.object ⟨2, 0⟩) = true := by decide
  obtain ⟨-, -, -, -, htrans, -⟩ := sameValue_is_bisimilarity loops (.object ⟨0, 0⟩) (.object ⟨1, 0⟩)
  obtain ⟨-, hruns, -⟩ := sameValue_is_bisimilarity loops (.object ⟨0, 0⟩) (.object ⟨3, 0⟩)
  refine ⟨closed_loops, hfirst, hsecond, ?_, ?_⟩
  · exact htrans closed_loops (hlive 0 (by decide)) (hlive 1 (by decide)) (.object ⟨2, 0⟩)
      (hlive 2 (by decide)) hfirst hsecond
  · exact hruns [.print 0] (by simp) 17 (by decide)

/-! ## Larger stores -/

/-- Every object is there as it is. -/
def Includes (s s' : Store) : Prop :=
  ∀ address r, s.record? address = some r → s'.record? address = some r

theorem Includes.refl (s : Store) : s.Includes s := fun _ _ h => h

theorem includes_push (s : Store) (r : Record) : s.Includes (s.push r) := by
  intro address r' hr
  rw [record?_push, if_neg (Nat.ne_of_lt (lt_size_of_record? hr))]
  exact hr

/-- Every object is there as it is, and the static slots hold what they held. -/
structure Widens (s s' : Store) : Prop where
  /-- The objects. -/
  includes : s.Includes s'
  /-- The static slots. -/
  statics : s'.statics = s.statics

theorem Widens.refl (s : Store) : s.Widens s := ⟨.refl s, rfl⟩

theorem widens_push (s : Store) (r : Record) : s.Widens (s.push r) := ⟨includes_push s r, rfl⟩

theorem Includes.slots (h : s.Includes s') {ref : ObjectRef} (hlive : s.Live (.object ref)) :
    s'.slots ref = s.slots ref := by
  obtain ⟨r, hr, -⟩ := live_object.1 hlive
  simp only [Store.slots, hr, h _ r hr]

/-- A bisimulation is one of a larger store too, between the objects that are in the smaller one. -/
theorem Bisimulation.includes (hs : s.Closed) (hi : s.Includes s') (h : s.Bisimulation R) :
    s'.Bisimulation (s.Within R) := by
  rintro a b ⟨ha, hb, hab⟩
  have halike := h.within hs a b ⟨ha, hb, hab⟩
  rwa [Alike, ← hi.slots ha, ← hi.slots hb] at halike

theorem Bisimulation.of_includes (hs : s.Closed) (hi : s.Includes s') (h : s'.Bisimulation R) :
    s.Bisimulation (s.Within R) := by
  rintro a b ⟨ha, hb, hab⟩
  have halike := h a b hab
  rw [Alike, hi.slots ha, hi.slots hb] at halike
  exact halike.imp_right fun hslots => ⟨hslots.1, Within.slots hs ha hb hslots.2⟩

/-- **A larger store does not change which values are equal.** -/
theorem Includes.sameValue (hs : s.WellTyped t) (hi : s.Includes s') {v w : Value} (hv : s.Live v)
    (hw : s.Live w) : s'.sameValue v w = s.sameValue v w := by
  rw [Bool.eq_iff_iff, sameValue_iff, sameValue_iff]
  constructor
  · rintro ⟨R, hR, hvw⟩
    exact ⟨_, hR.of_includes hs.closed hi, Within.related hv hw hvw⟩
  · rintro ⟨R, hR, hvw⟩
    exact ⟨_, hR.includes hs.closed hi, Within.related hv hw hvw⟩

end Store
end Reshape
