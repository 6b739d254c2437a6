import Reshape.Proofs.Expr.Construction
import Reshape.Proofs.Conversion.Unruled
import Reshape.Proofs.Outcome

/-!
# The common type of two types

Two types are unified by the greater of what is in them, with null added where either side had it
(`TypeTable.Joins`).  The order of the two does not matter, and the result is an upper bound of both in
the order of implicit conversion exactly if there was no null to add, or a plain type to add it to, or
everything can be converted to the result (`ValueType.HoldsBoth`).  It is the least one except for the
last case, where only a bare `any` can be (`ValueType.HoldsBothTightly`).
-/

namespace Reshape

namespace ValueType

theorem eq_nullable_of_isNullable {a : ValueType} (h : a.isNullable = true) :
    a = .nullable a.underlying := by
  cases a <;> first | rfl | cases h

theorem underlying_of_isNullable_eq_false {a : ValueType} (h : a.isNullable = false) :
    a.underlying = a := by
  cases a <;> first | rfl | cases h

/-- The common type of two types holds the values of both: they agree, or neither adds null, or both
are plain apart from it, or the common type takes everything. -/
def HoldsBoth (a b c : ValueType) : Prop :=
  a = b ∨ (a.isNullable = false ∧ b.isNullable = false) ∨
    (a.underlying.isPlain = true ∧ b.underlying.isPlain = true) ∨ c.core = .any

/-- The common type of two types holds the values of both and no smaller type does: where it takes
everything, one of the two is not known to accept null otherwise. -/
def HoldsBothTightly (a b c : ValueType) : Prop :=
  a = b ∨ (a.isNullable = false ∧ b.isNullable = false) ∨
    (a.underlying.isPlain = true ∧ b.underlying.isPlain = true) ∨
    (c = .any ∧ ((a.isPlain = false ∧ a.isNullable = false) ∨
      (b.isPlain = false ∧ b.isNullable = false)))

end ValueType

namespace TypeTable

variable {t : TypeTable} {a b c : ValueType}

/-! ## Conversions from and to nullables -/

/-- A nullable becomes `any`, or a nullable of what its content becomes. -/
theorem converts_nullable_left_iff :
    t.Converts (.nullable a) b ↔ b = .any ∨ ∃ b', b = .nullable b' ∧ t.Converts a b' := by
  constructor
  · intro h
    cases h with
    | refl => exact .inr ⟨a, rfl, .refl a⟩
    | box => exact .inl rfl
    | widen h => cases (ValueType.isPlain_of_widensTo h).1
    | wrap hplain => cases hplain
    | lift h => exact .inr ⟨_, rfl, h⟩
  · rintro (rfl | ⟨b', rfl, h⟩)
    · exact .box _
    · exact .lift h

/-- A nullable is reached by plain types and by nullables. -/
theorem converts_nullable_right_iff :
    t.Converts a (.nullable b) ↔
      (a.isPlain = true ∧ t.Converts a b) ∨ ∃ a', a = .nullable a' ∧ t.Converts a' b := by
  constructor
  · intro h
    cases h with
    | refl => exact .inr ⟨b, rfl, .refl b⟩
    | widen h => cases (ValueType.isPlain_of_widensTo h).2.1
    | wrap hplain h => exact .inl ⟨hplain, h⟩
    | lift h => exact .inr ⟨_, rfl, h⟩
  · rintro (⟨hplain, h⟩ | ⟨a', rfl, h⟩)
    · exact .wrap hplain h
    · exact .lift h

/-- No layers are lost on the way to a type that does not take everything. -/
theorem Converts.layers_le (h : t.Converts a b) (hb : b.core ≠ .any) : a.layers ≤ b.layers := by
  have hplain : ∀ {a : ValueType}, a.isPlain = true → a.layers = 0 := by
    intro a ha
    cases a <;> first | rfl | cases ha
  induction h with
  | refl => exact Nat.le_refl _
  | box => exact absurd rfl hb
  | upcast => exact Nat.zero_le _
  | widen h => exact (hplain (ValueType.isPlain_of_widensTo h).1).trans_le (Nat.zero_le _)
  | wrap ha => exact (hplain ha).trans_le (Nat.zero_le _)
  | lift _ ih => exact Nat.succ_le_succ (ih hb)

/-- What becomes a nullable of something that takes everything becomes that as well. -/
theorem Converts.unwrap (h : t.Converts a (.nullable b)) (hb : b.core = .any) : t.Converts a b := by
  induction b generalizing a with
  | any => exact .box a
  | nullable b ih =>
    rcases converts_nullable_right_iff.1 h with ⟨-, hinner⟩ | ⟨content, rfl, hinner⟩
    · exact hinner
    · exact .lift (ih hinner hb)
  | _ => cases hb

/-- Null can be added before a conversion to something that takes everything. -/
theorem Converts.nullable_left (h : t.Converts a b) (hb : b.core = .any) :
    t.Converts (.nullable a) b := by
  cases b with
  | any => exact .box _
  | nullable b => exact .lift (h.unwrap hb)
  | _ => cases hb

/-- Nothing that takes everything converts to a nullable of itself. -/
theorem not_converts_nullable_self (ha : a.core = .any) : ¬t.Converts a (.nullable a) := by
  intro h
  have heq := h.antisymm (Converts.nullable_left (.refl a) ha)
  have hlayers := congrArg ValueType.layers heq
  simp [ValueType.layers] at hlayers

/-! ## The greater of two types -/

/-- The common type of two types when what is in the first converts to what is in the second. -/
structure Joins (t : TypeTable) (a b c : ValueType) : Prop where
  /-- What is in the second type is the greater. -/
  converts : t.Converts a.underlying b.underlying
  /-- Null is added to it where either side has it. -/
  result : c = if a.isNullable || b.isNullable then b.underlying.orNull else b.underlying

theorem unifyUnderlying?_comm (t : TypeTable) (a b : ValueType) :
    t.unifyUnderlying? a b = t.unifyUnderlying? b a := by
  by_cases hab : a = b
  · rw [hab]
  simp only [unifyUnderlying?, if_neg hab, if_neg (Ne.symm hab)]
  by_cases h : (t.implicitRule? a b).isSome = true
  · have h' : ¬(t.implicitRule? b a).isSome = true := fun h' =>
      hab ((implicitRule?_isSome_iff.1 h).antisymm (implicitRule?_isSome_iff.1 h'))
    rw [if_pos h, if_neg h', if_pos h]
  · rw [if_neg h]
    split
    · rfl
    · rfl

theorem unify?_comm (t : TypeTable) (a b : ValueType) : t.unify? a b = t.unify? b a := by
  by_cases hab : a = b
  · rw [hab]
  · rw [unify?, unify?, if_neg hab, if_neg (Ne.symm hab), unifyUnderlying?_comm, Bool.or_comm]

/-- The common type of different types is made of the greater of the two. -/
theorem joins_of_unify? (hne : a ≠ b) (h : t.unify? a b = some c) : t.Joins a b c ∨ t.Joins b a c := by
  rw [unify?, if_neg hne] at h
  obtain ⟨common, hcommon, h⟩ := Option.map_eq_some_iff.1 h
  rw [unifyUnderlying?] at hcommon
  split at hcommon
  · rename_i heq
    cases hcommon
    exact .inl ⟨heq ▸ .refl _, by rw [← h, heq]⟩
  split at hcommon
  · rename_i hconv
    cases hcommon
    exact .inl ⟨implicitRule?_isSome_iff.1 hconv, h.symm⟩
  split at hcommon
  · rename_i hconv
    cases hcommon
    exact .inr ⟨implicitRule?_isSome_iff.1 hconv, by rw [← h, Bool.or_comm]⟩
  · cases hcommon

/-- A side whose content is plain converts to the nullable of what the content converts to. -/
theorem converts_nullable_of_underlying (h : t.Converts a.underlying b)
    (hplain : a.underlying.isPlain = true) : t.Converts a (.nullable b) := by
  by_cases ha : a.isNullable = true
  · rw [ValueType.eq_nullable_of_isNullable ha]
    exact .lift h
  · rw [ValueType.underlying_of_isNullable_eq_false (by simpa using ha)] at h hplain
    exact .wrap hplain h

/-- A side converts to what takes everything if its content does. -/
theorem converts_of_underlying (h : t.Converts a.underlying b) (hb : b.core = .any) :
    t.Converts a b := by
  by_cases ha : a.isNullable = true
  · rw [ValueType.eq_nullable_of_isNullable ha]
    exact h.nullable_left hb
  · rwa [ValueType.underlying_of_isNullable_eq_false (by simpa using ha)] at h

namespace Joins

variable (hj : t.Joins a b c)
include hj

/-- Without null the result is the greater type. -/
theorem eq_of_not_nullable (hnull : a.isNullable = false ∧ b.isNullable = false) :
    c = b ∧ t.Converts a b := by
  have hconv := hj.converts
  rw [ValueType.underlying_of_isNullable_eq_false hnull.1,
    ValueType.underlying_of_isNullable_eq_false hnull.2] at hconv
  refine ⟨?_, hconv⟩
  rw [hj.result, hnull.1, hnull.2, ValueType.underlying_of_isNullable_eq_false hnull.2]
  rfl

/-- With null the result is the greater content with null added. -/
theorem eq_orNull (hnull : ¬(a.isNullable = false ∧ b.isNullable = false)) :
    c = b.underlying.orNull := by
  rw [hj.result, if_pos]
  cases ha : a.isNullable with
  | true => rfl
  | false => simpa [ha] using hnull

/-- **When the common type is an upper bound.** -/
theorem bounds_iff (hne : a ≠ b) : t.Converts a c ∧ t.Converts b c ↔ a.HoldsBoth b c := by
  have hconv := hj.converts
  by_cases hnull : a.isNullable = false ∧ b.isNullable = false
  · obtain ⟨rfl, hab⟩ := hj.eq_of_not_nullable hnull
    exact iff_of_true ⟨hab, .refl c⟩ (.inr (.inl hnull))
  have hc := hj.eq_orNull hnull
  by_cases hplain : b.underlying.isPlain = true
  · have hplain' := hconv.isPlain hplain
    rw [ValueType.orNull, if_pos hplain] at hc
    subst hc
    exact iff_of_true ⟨converts_nullable_of_underlying hconv hplain',
      converts_nullable_of_underlying (.refl _) hplain⟩ (.inr (.inr (.inl ⟨hplain', hplain⟩)))
  rw [ValueType.orNull, if_neg hplain] at hc
  by_cases hany : c.core = .any
  · exact iff_of_true ⟨converts_of_underlying (hc ▸ hconv) hany,
      converts_of_underlying (hc ▸ .refl _) hany⟩ (.inr (.inr (.inr hany)))
  · refine iff_of_false ?_ ?_
    · rintro ⟨hac, hbc⟩
      cases hb : b.isNullable with
      | true =>
        -- the result has one layer less than the second type
        have hlayers := hbc.layers_le hany
        rw [ValueType.eq_nullable_of_isNullable hb, hc] at hlayers
        exact Nat.not_succ_le_self _ hlayers
      | false =>
        -- the first type is nullable and the result is not
        have ha : a.isNullable = true := by simpa [hb] using hnull
        rw [ValueType.eq_nullable_of_isNullable ha, hc] at hac
        rw [ValueType.underlying_of_isNullable_eq_false hb] at hac hc
        rcases converts_nullable_left_iff.1 hac with rfl | ⟨b', rfl, -⟩
        · exact hany (by rw [hc]; rfl)
        · cases hb
    · rintro (h | h | ⟨-, h⟩ | h)
      · exact hne h
      · exact hnull h
      · exact hplain h
      · exact hany h

/-- With plain content the result is below every upper bound. -/
theorem converts_of_plain (hnull : ¬(a.isNullable = false ∧ b.isNullable = false))
    (hplain : b.underlying.isPlain = true) {d : ValueType} (had : t.Converts a d)
    (hbd : t.Converts b d) : t.Converts (.nullable b.underlying) d := by
  cases hb : b.isNullable with
  | true => rwa [← ValueType.eq_nullable_of_isNullable hb]
  | false =>
    have ha : a.isNullable = true := by simpa [hb] using hnull
    rw [ValueType.eq_nullable_of_isNullable ha] at had
    rcases converts_nullable_left_iff.1 had with rfl | ⟨d', rfl, -⟩
    · exact .box _
    · rcases converts_nullable_right_iff.1 hbd with ⟨-, h⟩ | ⟨b', rfl, -⟩
      · rw [ValueType.underlying_of_isNullable_eq_false hb]
        exact .lift h
      · cases hb

/-- A result that takes everything is the least upper bound only if it is `any`, and one side is
neither plain nor nullable. -/
theorem tight_of_least (hc : c = b.underlying) (hany : c.core = .any)
    (hleast : ∀ d, t.Converts a d → t.Converts b d → t.Converts c d) :
    c = .any ∧ ((a.isPlain = false ∧ a.isNullable = false) ∨
      (b.isPlain = false ∧ b.isNullable = false)) := by
  have hconv : t.Converts a.underlying c := hc ▸ hj.converts
  cases hb : b.isNullable with
  | false =>
    rw [ValueType.underlying_of_isNullable_eq_false hb] at hc
    subst hc
    cases c with
    | any => exact ⟨rfl, .inr ⟨rfl, rfl⟩⟩
    | nullable => cases hb
    | _ => cases hany
  | true =>
    -- the second type is a nullable of the result, so the first must not become one
    have hbc : b = .nullable c := hc ▸ ValueType.eq_nullable_of_isNullable hb
    have hnot : ¬t.Converts a (.nullable c) := fun h =>
      not_converts_nullable_self hany (hleast _ h (hbc ▸ .refl _))
    have ha : a.isNullable = false := by
      refine Bool.eq_false_iff.2 fun ha => hnot ?_
      rw [ValueType.eq_nullable_of_isNullable ha]
      exact .lift hconv
    rw [ValueType.underlying_of_isNullable_eq_false ha] at hconv
    have hplain : a.isPlain = false := Bool.eq_false_iff.2 fun ha => hnot (.wrap ha hconv)
    refine ⟨?_, .inl ⟨hplain, ha⟩⟩
    cases c with
    | any => rfl
    | nullable =>
      rcases converts_nullable_right_iff.1 hconv with ⟨h, -⟩ | ⟨a', rfl, -⟩
      · cases hplain.symm.trans h
      · cases ha
    | _ => cases hany

/-- A result of `any` is the least upper bound if one side is neither plain nor nullable. -/
theorem eq_any_of_tight (hb : b.underlying = .any)
    (htight : (a.isPlain = false ∧ a.isNullable = false) ∨
      (b.isPlain = false ∧ b.isNullable = false)) {d : ValueType} (had : t.Converts a d)
    (hbd : t.Converts b d) : t.Converts .any d := by
  cases hnull : b.isNullable with
  | false =>
    rw [ValueType.underlying_of_isNullable_eq_false hnull] at hb
    exact hb ▸ hbd
  | true =>
    obtain ⟨hplain, ha⟩ : a.isPlain = false ∧ a.isNullable = false := by simpa [hnull] using htight
    rw [ValueType.eq_nullable_of_isNullable hnull, hb] at hbd
    rcases converts_nullable_left_iff.1 hbd with rfl | ⟨d', rfl, -⟩
    · exact .refl _
    · rcases converts_nullable_right_iff.1 had with ⟨h, -⟩ | ⟨a', rfl, -⟩
      · cases hplain.symm.trans h
      · cases ha

/-- **When the common type is the least upper bound.** -/
theorem least_iff (hne : a ≠ b) :
    ((t.Converts a c ∧ t.Converts b c) ∧
        ∀ d, t.Converts a d → t.Converts b d → t.Converts c d) ↔ a.HoldsBothTightly b c := by
  rw [hj.bounds_iff hne]
  by_cases hnull : a.isNullable = false ∧ b.isNullable = false
  · obtain ⟨rfl, -⟩ := hj.eq_of_not_nullable hnull
    exact iff_of_true ⟨.inr (.inl hnull), fun _ _ h => h⟩ (.inr (.inl hnull))
  have hc := hj.eq_orNull hnull
  by_cases hplain : b.underlying.isPlain = true
  · have hplain' := hj.converts.isPlain hplain
    rw [ValueType.orNull, if_pos hplain] at hc
    subst hc
    exact iff_of_true ⟨.inr (.inr (.inl ⟨hplain', hplain⟩)),
      fun _ => hj.converts_of_plain hnull hplain⟩ (.inr (.inr (.inl ⟨hplain', hplain⟩)))
  rw [ValueType.orNull, if_neg hplain] at hc
  constructor
  · rintro ⟨h | h | ⟨-, h⟩ | hany, hleast⟩
    · exact absurd h hne
    · exact absurd h hnull
    · exact absurd h hplain
    · exact .inr (.inr (.inr (hj.tight_of_least hc hany hleast)))
  · rintro (h | h | ⟨-, h⟩ | ⟨hany, htight⟩)
    · exact absurd h hne
    · exact absurd h hnull
    · exact absurd h hplain
    · subst hany
      exact ⟨.inr (.inr (.inr rfl)), fun _ => hj.eq_any_of_tight hc.symm htight⟩

end Joins

/-! ## Common types -/

theorem holdsBoth_comm : a.HoldsBoth b c ↔ b.HoldsBoth a c := by
  simp only [ValueType.HoldsBoth, eq_comm (a := a), and_comm]

theorem holdsBothTightly_comm : a.HoldsBothTightly b c ↔ b.HoldsBothTightly a c := by
  simp only [ValueType.HoldsBothTightly, eq_comm (a := a), and_comm, or_comm]

/-- The common type is an upper bound exactly if it holds both, and the least one exactly if it does so
tightly. -/
theorem unify?_bounds (h : t.unify? a b = some c) :
    (t.Converts a c ∧ t.Converts b c ↔ a.HoldsBoth b c) ∧
    ((t.Converts a c ∧ t.Converts b c) ∧
        (∀ d, t.Converts a d → t.Converts b d → t.Converts c d) ↔ a.HoldsBothTightly b c) := by
  by_cases hne : a = b
  · subst hne
    rw [unify?, if_pos rfl] at h
    cases h
    exact ⟨iff_of_true ⟨.refl _, .refl _⟩ (.inl rfl),
      iff_of_true ⟨⟨.refl _, .refl _⟩, fun _ h _ => h⟩ (.inl rfl)⟩
  rcases joins_of_unify? hne h with hj | hj
  · exact ⟨hj.bounds_iff hne, hj.least_iff hne⟩
  · rw [holdsBoth_comm, holdsBothTightly_comm, ← hj.bounds_iff (Ne.symm hne),
      ← hj.least_iff (Ne.symm hne)]
    exact ⟨and_comm, and_congr and_comm (forall_congr' fun _ => forall_comm)⟩

/-! ## Operands -/

/-- An expression is converted implicitly where its type is. -/
theorem exists_coerce_iff {e : Expr} :
    (∃ e', e.coerce t c = .ok e') ↔ t.Converts e.type c := by
  rw [← implicitRule?_isSome_iff]
  unfold Expr.coerce Expr.convertTo classify
  cases t.implicitRule? e.type c <;> simp

/-- A condition picks one of two expressions where both are converted to their common type. -/
theorem exists_mkConditional_iff {test thenExpr otherwise : Expr} (htest : test.type = .bool)
    (h : t.unify? thenExpr.type otherwise.type = some c) :
    (∃ e, Expr.mkConditional t test thenExpr otherwise = .ok e) ↔
      t.Converts thenExpr.type c ∧ t.Converts otherwise.type c := by
  rw [← exists_coerce_iff, ← exists_coerce_iff]
  constructor
  · rintro ⟨e, he⟩
    obtain ⟨_, -, he⟩ := bind_eq_ok.1 he
    rw [h] at he
    obtain ⟨e₁, h₁, he⟩ := bind_eq_ok.1 he
    obtain ⟨e₂, h₂, -⟩ := bind_eq_ok.1 he
    exact ⟨⟨e₁, h₁⟩, e₂, h₂⟩
  · rintro ⟨⟨e₁, h₁⟩, e₂, h₂⟩
    refine ⟨.conditional test e₁ e₂, bind_eq_ok.2 ⟨(), if_pos htest, ?_⟩⟩
    rw [h]
    exact bind_eq_ok.2 ⟨e₁, h₁, bind_eq_ok.2 ⟨e₂, h₂, rfl⟩⟩

/-- An operator is applied where both operands are converted to the operand type. -/
theorem exists_mkBinary_iff {op : Operator} {lhs rhs : Expr}
    (h : t.operandType op lhs.type rhs.type = .ok c) :
    (∃ e, Expr.mkBinary t op lhs rhs = .ok e) ↔ t.Converts lhs.type c ∧ t.Converts rhs.type c := by
  rw [← exists_coerce_iff, ← exists_coerce_iff]
  constructor
  · rintro ⟨e, he⟩
    obtain ⟨operand, e₁, e₂, hoperand, h₁, h₂, -⟩ := Expr.mkBinary_eq_ok.1 he
    cases h.symm.trans hoperand
    exact ⟨⟨e₁, h₁⟩, e₂, h₂⟩
  · rintro ⟨⟨e₁, h₁⟩, e₂, h₂⟩
    exact ⟨.binary op e₁ e₂, Expr.mkBinary_eq_ok.2 ⟨c, e₁, e₂, h, h₁, h₂, rfl⟩⟩

/-- The operand type of an operator is the common type of its operands. -/
theorem unify?_of_operandType {op : Operator} (h : t.operandType op a b = .ok c) :
    t.unify? a b = some c := by
  simp only [operandType] at h
  split at h
  · split at h
    · rename_i hbool
      cases h
      rw [hbool.1, hbool.2]
      rfl
    · cases h
  · split at h
    · cases h
    · rename_i operand hunify
      split at h
      · cases h
        exact hunify
      · cases h

/-- **The common type of two types** does not depend on their order.  Both convert to it exactly if it
holds both, it is the least such type exactly if it does so tightly, and the operands of a condition or
of an operator that has a common type are converted to it in the same cases. -/
theorem unify_bounds_iff (t : TypeTable) (a b : ValueType) :
    t.unify? a b = t.unify? b a ∧ ∀ c, t.unify? a b = some c →
      ((t.classify a c .implicit).isSome = true ∧ (t.classify b c .implicit).isSome = true ↔
        a.HoldsBoth b c) ∧
      (((t.classify a c .implicit).isSome = true ∧ (t.classify b c .implicit).isSome = true) ∧
        (∀ d, (t.classify a d .implicit).isSome = true → (t.classify b d .implicit).isSome = true →
          (t.classify c d .implicit).isSome = true) ↔ a.HoldsBothTightly b c) ∧
      (∀ test thenExpr otherwise : Expr, test.type = .bool → thenExpr.type = a →
        otherwise.type = b →
          ((∃ e, Expr.mkConditional t test thenExpr otherwise = .ok e) ↔ a.HoldsBoth b c)) ∧
      ∀ (op : Operator) (lhs rhs : Expr) (operand : ValueType), lhs.type = a → rhs.type = b →
        t.operandType op a b = .ok operand →
          operand = c ∧ ((∃ e, Expr.mkBinary t op lhs rhs = .ok e) ↔ a.HoldsBoth b c) := by
  refine ⟨unify?_comm t a b, fun c hc => ?_⟩
  simp only [classify, implicitRule?_isSome_iff]
  obtain ⟨hbounds, hleast⟩ := unify?_bounds hc
  refine ⟨hbounds, hleast, ?_, ?_⟩
  · rintro test thenExpr otherwise htest rfl rfl
    exact (exists_mkConditional_iff htest hc).trans hbounds
  · rintro op lhs rhs operand rfl rfl hoperand
    obtain rfl := Option.some.inj ((unify?_of_operandType hoperand).symm.trans hc)
    exact ⟨rfl, (exists_mkBinary_iff hoperand).trans hbounds⟩

/-- A nullable 32-bit integer and a 64-bit one are both nullable 64-bit ones, and are added as such.  A
nullable dog and a nullable animal have the common type animal, which neither converts to. -/
theorem unify_bounds_iff_kennel :
    kennel.unify? (.nullable .int32) .int64 = some (.nullable .int64) ∧
    (∃ e, Expr.mkBinary kennel .add (.parameter 0 (.nullable .int32)) (.parameter 1 .int64) = .ok e) ∧
    kennel.unify? (.nullable (.object 1)) (.nullable (.object 0)) = some (.object 0) ∧
    ¬∃ e, Expr.mkConditional kennel (.constant (.bool true) .bool)
      (.parameter 0 (.nullable (.object 1))) (.parameter 1 (.nullable (.object 0))) = .ok e := by
  have hnumbers : kennel.unify? (.nullable .int32) .int64 = some (.nullable .int64) := by decide
  have hanimals : kennel.unify? (.nullable (.object 1)) (.nullable (.object 0)) = some (.object 0) := by
    decide
  obtain ⟨-, -, -, hadd⟩ := (unify_bounds_iff kennel (.nullable .int32) .int64).2 _ hnumbers
  obtain ⟨-, -, hpick, -⟩ :=
    (unify_bounds_iff kennel (.nullable (.object 1)) (.nullable (.object 0))).2 _ hanimals
  refine ⟨hnumbers, ?_, hanimals, ?_⟩
  · exact (hadd .add _ _ (.nullable .int64) rfl rfl rfl).2.2
      (.inr (.inr (.inl ⟨rfl, rfl⟩)))
  · rw [hpick _ _ _ rfl rfl rfl]
    rintro (h | ⟨h, -⟩ | ⟨h, -⟩ | h) <;> cases h

/-- **The common type can be one that neither type converts to.** -/
theorem exists_unify_unbounded : ¬∀ (t : TypeTable) (a b c : ValueType), t.unify? a b = some c →
    (t.classify a c .implicit).isSome = true ∧ (t.classify b c .implicit).isSome = true := by
  intro h
  have hbounds := h kennel (.nullable (.object 1)) (.nullable (.object 0)) (.object 0) (by decide)
  exact absurd hbounds.1 (by decide)

end TypeTable
end Reshape
