import Reshape.Proofs.Conversion.Checked
import Reshape.Proofs.Store.Action

/-!
# Casts that no rule allows

The table of conversions looks at types and a cast looks at the value, so a cast may succeed where the table has
no rule.  Below the nullable layers it does so for lists only, which are cast item by item
(`lists_of_cast`).  Around them the table adds layers to plain types alone: a type that holds null anyway
has no rule into a type with more layers than it has, and a cast does not count layers
(`isSome_explicitRule?`).  There is no other way (`Slips`), and a write to a slot, which casts the value and does
not ask the table, lets the same values through.
-/

namespace Reshape

namespace ValueType

/-- The number of nullable layers around a type. -/
def layers : ValueType → Nat
  | nullable inner => layers inner + 1
  | _ => 0

end ValueType

namespace TypeTable

variable {t : TypeTable} {a b : ValueType} {v w : Value}

/-- Two bases of one type are related. -/
theorem isSubtype_total {id x y : TypeId} (hx : t.isSubtype id x = true) (hy : t.isSubtype id y = true) :
    t.isSubtype x y = true ∨ t.isSubtype y x = true := by
  simp only [isSubtype_iff] at hx hy ⊢
  have hself : ∀ {z}, z ∈ t.lineage id → z ∈ t.lineage z :=
    fun hz => self_mem_lineageIn (lt_of_mem_lineage hz)
  rcases List.suffix_or_suffix_of_suffix (lineageIn_suffix hx) (lineageIn_suffix hy) with h | h
  · exact .inr (h.subset (hself hx))
  · exact .inl (h.subset (hself hy))

/-! ## Where there is a rule -/

/-- What is allowed has a rule at once, if the source is not nullable. -/
theorem Allowed.isSome_flat (h : t.Allowed a b) : (t.explicitRuleFlat? a b).isSome = true := by
  cases hr : t.implicitRule? a b with
  | some rule =>
    unfold explicitRuleFlat?
    rw [hr]
    rfl
  | none =>
    unfold explicitRuleFlat?
    rw [hr]
    cases h with
    | implicit h =>
      have hsome := h.isSome
      rw [hr] at hsome
      cases hsome
    | unbox => rfl
    | downcast hsub => simp [hsub]
    | integer ha hb => cases a <;> cases b <;> first | contradiction | rfl
    | shorten => rfl

/-- Plain types are wrapped in as many layers as the target has. -/
theorem isSome_explicitRuleFlat?_of_isPlain (ha : a.isPlain = true) (h : t.Allowed a b.core) :
    (t.explicitRuleFlat? a b).isSome = true := by
  induction b with
  | nullable inner ih =>
    have hinner : (t.explicitRuleFlat? a inner).isSome = true := ih h
    unfold explicitRuleFlat?
    split
    · rfl
    · cases a <;> first | contradiction | exact Option.isSome_map.trans hinner
  | _ => exact h.isSome_flat

theorem isSome_explicitRule?_nullable {content : ValueType}
    (h : ∀ inner, b = .nullable inner → (t.explicitRule? content inner).isSome = true)
    (hflat : b.isNullable = false → (t.explicitRule? content b).isSome = true) :
    (t.explicitRule? (.nullable content) b).isSome = true := by
  unfold explicitRule?
  split
  · rfl
  · split
    · rename_i inner _
      exact Option.isSome_map.trans (h inner rfl)
    · rename_i hne
      refine Option.isSome_map.trans (hflat ?_)
      cases b <;> first | rfl | exact absurd rfl (hne _)

/-- What is allowed below the nullable layers has a rule, unless layers would have to be added to a type that
holds null anyway. -/
theorem isSome_explicitRule? (h : t.Allowed a.core b.core)
    (hlayers : a.core.isPlain = true ∨ a.core = .any ∨ b.layers ≤ a.layers) :
    (t.explicitRule? a b).isSome = true := by
  induction a generalizing b with
  | nullable content ih =>
    refine isSome_explicitRule?_nullable (fun inner hb => ?_) fun hb => ?_
    · subst hb
      exact ih h (hlayers.imp_right (·.imp_right Nat.le_of_succ_le_succ))
    · refine ih h (hlayers.imp_right (·.imp_right fun _ => ?_))
      cases b <;> first | exact Nat.zero_le _ | cases hb
  | any => exact (Allowed.unbox b).isSome_flat
  | bool | float32 | float64 | int32 | int64 | uint32 | uint64 =>
    exact isSome_explicitRuleFlat?_of_isPlain rfl h
  | blob | list | object | text =>
    -- such a type takes no more layers, so the target has none
    obtain hplain | hany | hle := hlayers
    · cases hplain
    · cases hany
    · cases b <;> first | exact h.isSome_flat | cases hle

/-! ## Where there is none -/

/-- A cast that is not allowed between types without nullable layers is one of a list to another. -/
theorem lists_of_cast (hnot : ¬ t.Allowed a b) (ha : a.isNullable = false) (hb : b.isNullable = false)
    (hv : v ≠ .null) (hconf : t.conforms a v = true) (hw : t.cast b v = .ok w) :
    ∃ source target items, a = .list source ∧ b = .list target ∧ v = .list items := by
  cases a with
  | any => exact absurd (.unbox b) hnot
  | nullable => cases ha
  | list source =>
    obtain rfl | ⟨items, rfl, -⟩ := conforms_list hconf
    · exact absurd rfl hv
    · cases b with
      | any => exact absurd (.implicit (.box _)) hnot
      | list target => exact ⟨source, target, items, rfl, rfl, rfl⟩
      | nullable => cases hb
      | _ => cases hw
  | object base =>
    obtain rfl | ⟨ref, rfl, hsub⟩ := conforms_object hconf
    · exact absurd rfl hv
    · cases b with
      | any => exact absurd (.implicit (.box _)) hnot
      | object other =>
        rw [cast] at hw
        split at hw
        · rename_i hother
          rcases isSubtype_total hsub hother with h | h
          · exact absurd (.implicit (.upcast h)) hnot
          · exact absurd (.downcast h) hnot
        · cases hw
      | nullable => cases hb
      | _ => cases hw
  | blob | bool | float32 | float64 | int32 | int64 | text | uint32 | uint64 =>
    exfalso
    cases v <;> first | contradiction | cases hconf
    all_goals
      cases b <;> first
        | contradiction
        | exact hnot (.implicit (.refl _))
        | exact hnot (.implicit (.box _))
        | exact hnot (.implicit (.widen rfl))
        | exact hnot (.integer rfl rfl)
        | exact hnot .shorten

/-- What a cast lets through although no rule allows it. -/
inductive Slips (t : TypeTable) (a b : ValueType) (v : Value) : Prop where
  /-- The value belongs to the target as it is, and the target has more nullable layers than the source. -/
  | deeper (hlayers : a.layers < b.layers) (h : t.conforms b v = true)
  /-- The value is a list, and each item is cast to the items of the target. -/
  | items {source target : ValueType} {items : List Value} (ha : a.core = .list source)
      (hb : b.core = .list target) (hv : v = .list items) (h : ∀ x ∈ items, ∃ w, t.cast target x = .ok w)

theorem Slips.exists_cast (h : t.Slips a b v) : ∃ w, t.cast b v = .ok w := by
  cases h with
  | deeper _ h => exact ⟨v, cast_of_conforms h⟩
  | @items _ _ items _ hb hv h =>
    subst hv
    obtain ⟨ws, hws⟩ := exists_mapM_eq_ok h
    have hlist : Value.list items ≠ .null := nofun
    refine ⟨.list ws, ?_⟩
    rw [← cast_core hlist, hb, cast, hws]
    rfl

/-- What is allowed below the layers and has no rule keeps the value, list items apart. -/
theorem conforms_of_allowed (h : t.Allowed a b) (hplain : a.isPlain = false) (hany : a ≠ .any)
    (ha : a.isNullable = false) (hconf : t.conforms a v = true) (hw : t.cast b v = .ok w) :
    t.conforms b v = true := by
  cases h with
  | implicit h =>
    cases h with
    | refl => exact hconf
    | box => exact conforms_any v
    | upcast hsub => exact conforms_upcast hsub hconf
    | widen hwide => cases hplain.symm.trans (ValueType.isPlain_of_widensTo hwide).1
    | wrap h => cases hplain.symm.trans h
    | lift => cases ha
  | unbox => exact absurd rfl hany
  | @downcast base derived hsub =>
    obtain rfl | ⟨ref, rfl, -⟩ := conforms_object hconf
    · rfl
    · rw [cast] at hw
      split at hw
      · rename_i hder
        simpa [conforms] using hder
      · cases hw
  | integer h => cases a <;> contradiction
  | shorten => cases hplain

theorem slips_of_cast (h : t.classify a b .explicit = none) (hv : v ≠ .null)
    (hconf : t.conforms a v = true) (hw : t.cast b v = .ok w) : t.Slips a b v := by
  rw [← conforms_core hv] at hconf
  rw [← cast_core hv] at hw
  by_cases hallowed : t.Allowed a.core b.core
  · -- there would be a rule if the layers did not keep it out
    have hnone : ¬(a.core.isPlain = true ∨ a.core = .any ∨ b.layers ≤ a.layers) := by
      intro hlayers
      have hsome := isSome_explicitRule? hallowed hlayers
      rw [show t.explicitRule? a b = none from h] at hsome
      cases hsome
    obtain ⟨hplain, hany, hlt⟩ : ¬a.core.isPlain = true ∧ a.core ≠ .any ∧ ¬b.layers ≤ a.layers := by
      simpa only [not_or] using hnone
    refine .deeper (Nat.lt_of_not_le hlt) ?_
    rw [← conforms_core hv]
    exact conforms_of_allowed hallowed (Bool.eq_false_iff.2 hplain) hany (ValueType.isNullable_core a)
      hconf hw
  · obtain ⟨source, target, items, ha, hb, rfl⟩ := lists_of_cast hallowed (ValueType.isNullable_core a)
      (ValueType.isNullable_core b) hv hconf hw
    rw [hb, cast] at hw
    obtain ⟨ws, hws, -⟩ := map_eq_ok.1 hw
    refine .items ha hb rfl fun x hx => ?_
    obtain ⟨w, -, hxw⟩ := exists_of_mem_forall₂ (mapM_eq_ok.1 hws).flip hx
    exact ⟨w, hxw⟩

/-- A write to a slot succeeds exactly if the value is cast to the type of the slot. -/
theorem exists_storeSlot_iff {m : Machine} {s : Store} {ref : ObjectRef} {r : Record} {slot : Nat}
    (hr : s.record? ref.address = some r) (hb : (m.types.model r.type).slotTypes[slot]? = some b) :
    (∃ s', (m.storeSlot ref slot v).perform s = (.ok (), s')) ↔ ∃ w, m.types.cast b v = .ok w := by
  rw [Machine.storeSlot, Action.perform_bind_ok (Action.perform_get s)]
  simp only [hr, hb]
  cases hcast : m.types.cast b v with
  | ok w => exact ⟨fun _ => ⟨w, rfl⟩, fun _ => ⟨_, rfl⟩⟩
  | error e => exact ⟨fun ⟨_, h⟩ => (by cases h), fun ⟨_, h⟩ => (by cases h)⟩

end TypeTable
end Reshape
