import Reshape.Proofs.Conversion.Order

/-!
# Which conversions can fail

An explicit conversion goes through the nullable layers of both types, and what it does to a value that is
not null depends on what is below them, the core of each type (`ValueType.core`).  Below the layers a
conversion is implicit, or it is one of those that are checked when they run (`TypeTable.Allowed`), and each of
these fails on some value that is not null (`Allowed.exists_cast_ne_ok`): an object of the base itself, a truth
value or a text out of `any`, the greatest or the least number of a type.

The rule names the outermost layer.  `lift` and `nullableWrap` therefore stand for conversions that cannot
fail and for ones that can, and which of the two it is says the core (`unchecked_total_iff`).
-/

namespace Reshape

/-! ## Below the nullable layers -/

namespace ValueType

/-- A type without its nullable layers. -/
def core : ValueType → ValueType
  | nullable inner => core inner
  | type => type

/-- A number of the type that is as far from zero as there is. -/
def farthest : ValueType → Value
  | int32 => .int32 (-2147483648)
  | int64 => .int64 (-9223372036854775808)
  | uint32 => .uint32 4294967295
  | uint64 => .uint64 18446744073709551615
  | float32 => .float32 (Float32.ofBits 0x7f7fffff)
  | float64 => .float64 (Float.ofBits 0x7fefffffffffffff)
  | type => type.zero

theorem isNullable_core (a : ValueType) : a.core.isNullable = false := by
  induction a with
  | nullable inner ih => exact ih
  | _ => rfl

theorem core_of_isPlain {a : ValueType} (h : a.isPlain = true) : a.core = a := by
  cases a <;> first | rfl | contradiction

end ValueType

namespace TypeTable

variable {t : TypeTable} {a b : ValueType} {v w : Value}

theorem conforms_core (hv : v ≠ .null) : t.conforms a.core v = t.conforms a v := by
  induction a with
  | nullable inner ih => rw [conforms_nullable hv, ValueType.core, ih]
  | _ => rfl

theorem cast_core (hv : v ≠ .null) : t.cast b.core v = t.cast b v := by
  induction b with
  | nullable inner ih => rw [cast_nullable hv, ValueType.core, ih]
  | _ => rfl

theorem Converts.core (h : t.Converts a b) : t.Converts a.core b.core := by
  induction h with
  | refl => exact .refl _
  | box => exact .box _
  | upcast hsub => exact .upcast hsub
  | widen hwide =>
    obtain ⟨ha, hb, -⟩ := ValueType.isPlain_of_widensTo hwide
    rw [ValueType.core_of_isPlain ha, ValueType.core_of_isPlain hb]
    exact .widen hwide
  | wrap _ _ ih | lift _ ih => exact ih

/-! ## The explicit conversions -/

/-- What an explicit conversion does below the nullable layers. -/
inductive Allowed (t : TypeTable) : ValueType → ValueType → Prop where
  /-- There is an implicit conversion. -/
  | implicit {a b : ValueType} (h : t.Converts a b) : Allowed t a b
  /-- Something typed `any` becomes what it is. -/
  | unbox (b : ValueType) : Allowed t .any b
  /-- An object of a base becomes one of a type that derives from it. -/
  | downcast {base derived : TypeId} (h : t.isSubtype derived base = true) :
      Allowed t (.object base) (.object derived)
  /-- An integer becomes another number. -/
  | integer {a b : ValueType} (ha : a.isInteger = true) (hb : b.isNumeric = true) : Allowed t a b
  /-- A 64-bit number becomes a 32-bit one. -/
  | shorten : Allowed t .float64 .float32

theorem Allowed.core (h : t.Allowed a b) : t.Allowed a.core b.core := by
  cases h with
  | implicit h => exact .implicit h.core
  | unbox => exact .unbox _
  | downcast h => exact .downcast h
  | integer ha hb =>
    have ha' : a.core = a := by cases a <;> first | rfl | cases ha
    have hb' : b.core = b := by cases b <;> first | rfl | cases hb
    rw [ha', hb']
    exact .integer ha hb
  | shorten => exact .shorten

theorem Allowed.of_explicitRuleFlat? {rule : ConversionRule}
    (h : t.explicitRuleFlat? a b = some rule) : t.Allowed a.core b.core := by
  fun_induction explicitRuleFlat? t a b generalizing rule with
  | case1 b a implicit hr => exact (Allowed.implicit (.of_implicitRule? hr)).core
  | case2 => exact .unbox _
  | case3 base derived hsub => exact .downcast hsub
  | case5 => exact .shorten
  | case6 plain inner _ hplain _ ih =>
    obtain ⟨_, hr, -⟩ := Option.map_eq_some_iff.1 h
    exact ih hr
  | case8 number target _ _ _ _ hint =>
    obtain ⟨ha, hb⟩ := Bool.and_eq_true_iff.1 hint
    exact (Allowed.integer ha (by simp [ValueType.isNumeric, hb])).core
  | case9 number target _ _ _ _ _ hfloat =>
    obtain ⟨ha, hb⟩ := Bool.and_eq_true_iff.1 hfloat
    exact (Allowed.integer ha (by simp [ValueType.isNumeric, hb])).core
  | case4 | case7 | case10 => cases h

/-- A nullable is converted as a whole, as what is in it, or out of it. -/
theorem explicitRule?_nullable {content : ValueType} {rule : ConversionRule}
    (h : t.explicitRule? (.nullable content) b = some rule) :
    t.implicitRule? (.nullable content) b = some rule ∨
      (∃ inner below, b = .nullable inner ∧ t.explicitRule? content inner = some below ∧ rule = .lift) ∨
      ∃ below, t.explicitRule? content b = some below ∧ rule = .nullableUnwrap := by
  unfold explicitRule? at h
  split at h
  · rename_i hr
    exact .inl (hr.trans h)
  · split at h
    · rename_i inner _
      obtain ⟨below, hr, heq⟩ := Option.map_eq_some_iff.1 h
      exact .inr (.inl ⟨inner, below, rfl, hr, heq.symm⟩)
    · obtain ⟨below, hr, heq⟩ := Option.map_eq_some_iff.1 h
      exact .inr (.inr ⟨below, hr, heq.symm⟩)

theorem Allowed.of_explicitRule? {rule : ConversionRule} (h : t.explicitRule? a b = some rule) :
    t.Allowed a.core b.core := by
  induction a generalizing b rule with
  | nullable content ih =>
    obtain hr | ⟨inner, below, rfl, hr, -⟩ | ⟨below, hr, -⟩ := explicitRule?_nullable h
    · exact (Allowed.implicit (.of_implicitRule? hr)).core
    · have hinner : t.Allowed content.core inner.core := ih hr
      exact hinner
    · exact ih hr
  | _ => exact .of_explicitRuleFlat? h

/-! ## Values that are not converted -/

theorem castNumber?_farthest (ha : a.isInteger = true) (hb : b.isNumeric = true) (hne : a ≠ b)
    (hwide : a.widensTo b = false) : a.farthest.castNumber? b = none := by
  cases a <;> cases b <;> first | contradiction | rfl

/-- What is checked below the nullable layers fails on a value that is not null. -/
theorem Allowed.exists_cast_ne_ok (h : t.Allowed a b) (hb : b.isNullable = false)
    (hnot : ¬ t.Converts a b) :
    ∃ v, v ≠ .null ∧ t.conforms a v = true ∧ ∀ w, t.cast b v ≠ .ok w := by
  cases h with
  | implicit h => exact absurd h hnot
  | unbox =>
    by_cases hbool : b = .bool
    · subst hbool
      exact ⟨.text "", nofun, rfl, nofun⟩
    · refine ⟨.bool true, nofun, rfl, ?_⟩
      cases b <;> first | contradiction | exact absurd (.box _) hnot | nofun
  | @downcast base derived hsub =>
    have hbase : t.isSubtype base base = true :=
      isSubtype_refl (lt_of_mem_lineage (isSubtype_iff.1 hsub))
    have hderived : ¬ t.isSubtype base derived = true := by
      intro h
      exact hnot (isSubtype_antisymm h hsub ▸ .refl _)
    refine ⟨.object ⟨0, base⟩, nofun, by simpa [conforms] using hbase, fun w hw => ?_⟩
    rw [cast, if_neg hderived] at hw
    cases hw
  | integer ha hb =>
    have hnone : a.farthest.castNumber? b = none := by
      refine castNumber?_farthest ha hb ?_ ?_
      · rintro rfl
        exact hnot (.refl _)
      · exact Bool.eq_false_iff.2 fun h => hnot (.widen h)
    refine ⟨a.farthest, ?_, ?_, fun w hw => ?_⟩
    · cases a <;> first | contradiction | nofun
    · cases a <;> first | contradiction | rfl
    · cases hnone.symm.trans (castNumber?_of_cast hb hw)
  | shorten =>
    have hnone : (ValueType.farthest .float64).castNumber? .float32 = none := by decide +kernel
    refine ⟨ValueType.farthest .float64, nofun, rfl, fun w hw => ?_⟩
    cases hnone.symm.trans (castNumber?_of_cast rfl hw)

/-! ## Rules that are not checked -/

theorem converts_or_wrap {rule : ConversionRule} (h : t.explicitRuleFlat? a b = some rule)
    (hrule : rule.isChecked = false) :
    t.Converts a b ∨ b.isNullable = true ∧ rule = .nullableWrap := by
  fun_induction explicitRuleFlat? t a b generalizing rule with
  | case1 b a implicit hr => exact .inl (.of_implicitRule? hr)
  | case6 plain inner =>
    obtain ⟨_, -, rfl⟩ := Option.map_eq_some_iff.1 h
    exact .inr ⟨rfl, rfl⟩
  | case2 | case3 | case5 | case8 | case9 => cases h; cases hrule
  | case4 | case7 | case10 => cases h

/-- The rules that are not checked are those of implicit conversions and the two that hide another rule. -/
theorem converts_or_hidden {rule : ConversionRule} (h : t.explicitRule? a b = some rule)
    (hrule : rule.isChecked = false) :
    t.Converts a b ∨ b.isNullable = true ∧ (rule = .lift ∨ rule = .nullableWrap) := by
  cases a with
  | nullable content =>
    obtain hr | ⟨inner, below, rfl, -, rfl⟩ | ⟨below, -, rfl⟩ := explicitRule?_nullable h
    · exact .inl (.of_implicitRule? hr)
    · exact .inr ⟨rfl, .inl rfl⟩
    · cases hrule
  | _ => exact (converts_or_wrap h hrule).imp_right fun ⟨hb, hwrap⟩ => ⟨hb, .inr hwrap⟩

/-- **A conversion by a rule that is not checked cannot fail exactly if the types are converted implicitly below
their nullable layers.**  All implicit conversions are of this kind, and all explicit ones but those by
`lift` and `nullableWrap`, which the rule of what is inside does not show through. -/
theorem unchecked_total_iff {kind : ConversionKind} {rule : ConversionRule}
    (h : t.classify a b kind = some rule) (hrule : rule.isChecked = false) :
    ((∀ v, t.conforms a v = true → ∃ w, t.cast b v = .ok w) ↔
      (t.classify a.core b.core .implicit).isSome = true) ∧
    (kind = .implicit ∨ rule ≠ .lift ∧ rule ≠ .nullableWrap →
      ∀ v, t.conforms a v = true → ∃ w, t.cast b v = .ok w) := by
  have hdirect : t.Converts a b → ∀ v, t.conforms a v = true → ∃ w, t.cast b v = .ok w := by
    intro h v hv
    obtain ⟨rule, hr⟩ := Option.isSome_iff_exists.1 h.isSome
    exact cast_of_implicitRule? hr hv
  have hcases : t.Converts a b ∨
      kind = .explicit ∧ b.isNullable = true ∧ (rule = .lift ∨ rule = .nullableWrap) := by
    cases kind with
    | implicit => exact .inl (.of_implicitRule? h)
    | explicit => exact (converts_or_hidden h hrule).imp id fun h => ⟨rfl, h⟩
  have hallowed : t.Allowed a.core b.core := by
    cases kind with
    | implicit => exact (Allowed.implicit (.of_implicitRule? h)).core
    | explicit => exact .of_explicitRule? h
  rw [classify, implicitRule?_isSome_iff]
  refine ⟨⟨fun hall => ?_, fun hcore v hv => ?_⟩, fun hkind => ?_⟩
  · by_contra hnot
    obtain ⟨v, hnull, hv, hfail⟩ := hallowed.exists_cast_ne_ok (ValueType.isNullable_core b) hnot
    rw [conforms_core hnull] at hv
    obtain ⟨w, hw⟩ := hall v hv
    rw [← cast_core hnull] at hw
    exact hfail w hw
  · rcases hcases with h | ⟨-, hb, -⟩
    · exact hdirect h v hv
    · by_cases hnull : v = .null
      · subst hnull
        cases b <;> first | contradiction | exact ⟨.null, rfl⟩
      · rw [← conforms_core hnull] at hv
        obtain ⟨rule, hr⟩ := Option.isSome_iff_exists.1 hcore.isSome
        obtain ⟨w, hw⟩ := cast_of_implicitRule? hr hv
        exact ⟨w, (cast_core hnull).symm.trans hw⟩
  · rcases hcases with h | ⟨rfl, -, hhidden⟩
    · exact hdirect h
    · rcases hkind with hkind | ⟨hlift, hwrap⟩
      · cases hkind
      · exact absurd hhidden (not_or.2 ⟨hlift, hwrap⟩)

/-- Nullable integers become nullable 32-bit numbers by `lift`, which is not checked, and not all of them do. -/
theorem unchecked_total_iff_lifted :
    TypeTable.empty.classify (.nullable .int64) (.nullable .float32) .explicit = some .lift ∧
    ConversionRule.lift.isChecked = false ∧
    ¬ ∀ v, TypeTable.empty.conforms (.nullable .int64) v = true →
      ∃ w, TypeTable.empty.cast (.nullable .float32) v = .ok w := by
  refine ⟨rfl, rfl, fun hall => ?_⟩
  obtain ⟨htotal, -⟩ := @unchecked_total_iff .empty (.nullable .int64) (.nullable .float32) .explicit
    .lift rfl rfl
  cases htotal.1 hall

/-- A nullable integer of 25 bits is refused as a nullable 32-bit number, though the rule is not checked. -/
theorem exists_unchecked_failure :
    ¬ ∀ (t : TypeTable) (a b : ValueType) (kind : ConversionKind) (rule : ConversionRule),
      t.classify a b kind = some rule → rule.isChecked = false →
        ∀ v, t.conforms a v = true → ∃ w, t.cast b v = .ok w := by
  intro hall
  obtain ⟨w, hw⟩ := hall .empty (.nullable .int64) (.nullable .float32) .explicit .lift rfl rfl
    (.int64 16777218) rfl
  cases hw

end TypeTable
end Reshape
