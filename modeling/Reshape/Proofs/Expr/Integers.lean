import Reshape.Proofs.Conversion.Order
import Reshape.Proofs.Expr.Arithmetic
import Reshape.Proofs.Store.Equality

/-!
# Integers and null

Each of the four integer types has the integers of a range, and a nullable one has null as well.  Which of
them a value is does not depend on how wide the type is: `IntegerType.Represents` says that a value of a type
is an unbounded integer, or null.  Casts keep what is represented (`IntegerType.cast_eq_ok_iff`), and an
operator does to values what it does to what they represent, as long as the result fits
(`Arithmetic.follows_apply`, `Comparison.apply_eq`).
-/

namespace Reshape

/-! ## Integer types -/

/-- The integer types without null. -/
inductive IntegerKind where
  /-- Signed integers of 32 bits. -/
  | int32
  /-- Signed integers of 64 bits. -/
  | int64
  /-- Unsigned integers of 32 bits. -/
  | uint32
  /-- Unsigned integers of 64 bits. -/
  | uint64
deriving DecidableEq, Repr

namespace IntegerKind

/-- The type of the values. -/
def valueType : IntegerKind → ValueType
  | int32 => .int32
  | int64 => .int64
  | uint32 => .uint32
  | uint64 => .uint64

/-- The least integer of the kind. -/
def least : IntegerKind → Int
  | int32 => -2 ^ 31
  | int64 => -2 ^ 63
  | uint32 | uint64 => 0

/-- The greatest integer of the kind. -/
def greatest : IntegerKind → Int
  | int32 => 2 ^ 31 - 1
  | int64 => 2 ^ 63 - 1
  | uint32 => 2 ^ 32 - 1
  | uint64 => 2 ^ 64 - 1

/-- The kind has the integer. -/
def Holds (k : IntegerKind) (n : Int) : Prop :=
  k.least ≤ n ∧ n ≤ k.greatest

instance (k : IntegerKind) (n : Int) : Decidable (k.Holds n) :=
  inferInstanceAs (Decidable (_ ∧ _))

/-- An integer of the kind as a value. -/
def value (n : Int) : IntegerKind → Value
  | int32 => .int32 (Int32.ofInt n)
  | int64 => .int64 (Int64.ofInt n)
  | uint32 => .uint32 (UInt32.ofNat n.toNat)
  | uint64 => .uint64 (UInt64.ofNat n.toNat)

/-- Each integer of the first kind is one of the second. -/
def Within (a b : IntegerKind) : Prop :=
  b.least ≤ a.least ∧ a.greatest ≤ b.greatest

instance (a b : IntegerKind) : Decidable (a.Within b) :=
  inferInstanceAs (Decidable (_ ∧ _))

/-- The one of two kinds that has the integers of both, if there is one. -/
def join (a b : IntegerKind) : IntegerKind :=
  if a.Within b then b else a

variable {k : IntegerKind} {n : Int} {t : TypeTable} {v : Value}

theorem isInteger_valueType (k : IntegerKind) : k.valueType.isInteger = true := by
  cases k <;> rfl

theorem orNull_valueType (k : IntegerKind) : k.valueType.orNull = .nullable k.valueType := by
  cases k <;> rfl

theorem valueType_injective {a b : IntegerKind} (h : a.valueType = b.valueType) : a = b := by
  cases a <;> cases b <;> first | rfl | cases h

theorem join_self (k : IntegerKind) : k.join k = k :=
  ite_self k

theorem isNumeric_valueType (k : IntegerKind) : k.valueType.isNumeric = true := by
  cases k <;> rfl

theorem isNull_value (n : Int) (k : IntegerKind) : (k.value n).isNull = false := by
  cases k <;> rfl

theorem nanFree_value (n : Int) (k : IntegerKind) : (k.value n).NaNFree := by
  cases k <;> trivial

theorem unifyUnderlying?_valueType {a b : IntegerKind} {c : ValueType}
    (h : t.unifyUnderlying? a.valueType b.valueType = some c) : c = (a.join b).valueType := by
  cases a <;> cases b <;> first | (cases h; rfl) | cases h

/-- A type gives a value to the integers that it has. -/
theorem ofInteger?_valueType (n : Int) (k : IntegerKind) :
    Value.ofInteger? n k.valueType = if k.Holds n then some (k.value n) else none := by
  cases k <;> exact if_congr (by simp only [Holds, least, greatest]; omega) rfl rfl

theorem integer?_value (h : k.Holds n) : (k.value n).integer? = some n :=
  Value.integer?_of_ofInteger? k.isInteger_valueType (by rw [ofInteger?_valueType, if_pos h])

/-- A cast to an integer type keeps integers that the type has, and fails on all else. -/
theorem cast_eq_ok_iff {w : Value} :
    t.cast k.valueType v = .ok w ↔ ∃ n, v.integer? = some n ∧ k.Holds n ∧ w = k.value n := by
  have hnumber : v.castNumber? k.valueType = v.integer?.bind (Value.ofInteger? · k.valueType) := by
    cases k <;> cases v <;> rfl
  constructor
  · intro h
    have hcast := TypeTable.castNumber?_of_cast k.isNumeric_valueType h
    rw [hnumber] at hcast
    obtain ⟨n, hn, hw⟩ := Option.bind_eq_some_iff.1 hcast
    rw [ofInteger?_valueType] at hw
    obtain ⟨hholds, hw⟩ := Option.ite_none_right_eq_some.1 hw
    exact ⟨n, hn, hholds, (Option.some.inj hw).symm⟩
  · rintro ⟨n, hn, hholds, rfl⟩
    have hv : v.isNumeric = true := by
      cases v <;> first | rfl | cases hn
    refine TypeTable.cast_of_castNumber? k.isNumeric_valueType ?_ hv
    rw [hnumber, hn, Option.bind_some, ofInteger?_valueType, if_pos hholds]

/-- Values of a kind are ordered as their integers are. -/
theorem compare?_value {a b : Int} (ha : k.Holds a) (hb : k.Holds b) :
    Operator.compare? (k.value a) (k.value b) = some (compare a b) := by
  have ha' := integer?_value ha
  have hb' := integer?_value hb
  cases k <;> simp only [value, Value.integer?, Option.some.injEq] at ha' hb' <;>
    simp only [value, Operator.compare?]
  case int32 | int64 => rw [ha', hb']
  case uint32 | uint64 =>
    have hcast : ∀ m n : Nat, compare m n = compare (m : Int) n := fun m n => by
      simp only [compare, compareOfLessAndEq, Nat.cast_lt, Nat.cast_inj]
    rw [hcast, ha', hb']

end IntegerKind

/-- Values that are equal by content are the same integer, if any. -/
theorem Value.integer?_of_related {R : ObjectRef → ObjectRef → Prop} {v w : Value} (h : v.Related R w) :
    v.integer? = w.integer? := by
  cases v <;> cases w <;> first | rfl | exact h.elim | exact congrArg integer? (congrArg _ h)

/-- A value is an integer, or null. -/
def Value.Represents (v : Value) : Option Int → Prop
  | none => v = .null
  | some n => v.integer? = some n

theorem Value.Represents.eq_integer? {v : Value} {x : Option Int} (h : v.Represents x) :
    x = v.integer? := by
  cases x with
  | none =>
    obtain rfl : v = .null := h
    rfl
  | some n => exact Eq.symm h

/-- An integer type, with null or without. -/
structure IntegerType where
  /-- The integers. -/
  kind : IntegerKind
  /-- Whether there is null as well. -/
  nullable : Bool
deriving DecidableEq, Repr

namespace IntegerType

/-- The type of the values. -/
def valueType (τ : IntegerType) : ValueType :=
  if τ.nullable then .nullable τ.kind.valueType else τ.kind.valueType

/-- The type has the integer, or null. -/
def Holds (τ : IntegerType) : Option Int → Prop
  | none => τ.nullable = true
  | some n => τ.kind.Holds n

instance (τ : IntegerType) : (x : Option Int) → Decidable (τ.Holds x)
  | none => inferInstanceAs (Decidable (_ = _))
  | some n => inferInstanceAs (Decidable (τ.kind.Holds n))

/-- The one of two types that has what both have, with null added if the other has it, if there is one. -/
def join (σ τ : IntegerType) : IntegerType :=
  ⟨σ.kind.join τ.kind, σ.nullable || τ.nullable⟩

/-- An integer of the type, or null, as a value. -/
def value (τ : IntegerType) : Option Int → Value
  | none => .null
  | some n => τ.kind.value n

/-- A value of the type is an integer, or null. -/
def Represents (τ : IntegerType) (v : Value) (x : Option Int) : Prop :=
  τ.Holds x ∧ v = τ.value x

variable {σ τ : IntegerType} {t : TypeTable} {v w : Value} {x y : Option Int}

theorem underlying_valueType (τ : IntegerType) : τ.valueType.underlying = τ.kind.valueType := by
  unfold valueType
  split
  · rfl
  · cases τ.kind <;> rfl

theorem isNullable_valueType (τ : IntegerType) : τ.valueType.isNullable = τ.nullable := by
  unfold valueType
  split
  · rename_i hnull
    exact hnull.symm
  · rename_i hnull
    rw [Bool.eq_false_iff.2 hnull]
    cases τ.kind <;> rfl

/-- The common type of two integer types is the one that has what both have. -/
theorem unify?_valueType {c : ValueType} (h : t.unify? σ.valueType τ.valueType = some c) :
    c = (σ.join τ).valueType := by
  unfold TypeTable.unify? at h
  split at h
  · rename_i heq
    cases h
    have hkind := congrArg ValueType.underlying heq
    have hnull := congrArg ValueType.isNullable heq
    rw [underlying_valueType, underlying_valueType] at hkind
    rw [isNullable_valueType, isNullable_valueType] at hnull
    unfold join valueType
    rw [IntegerKind.valueType_injective hkind, hnull, IntegerKind.join_self, Bool.or_self]
  · obtain ⟨common, hcommon, rfl⟩ := Option.map_eq_some_iff.1 h
    rw [underlying_valueType, underlying_valueType] at hcommon
    rw [isNullable_valueType, isNullable_valueType, IntegerKind.unifyUnderlying?_valueType hcommon,
      IntegerKind.orNull_valueType]
    rfl

theorem cast_valueType (hv : v ≠ .null) : t.cast τ.valueType v = t.cast τ.kind.valueType v := by
  unfold valueType
  split
  · exact TypeTable.cast_nullable hv
  · rfl

theorem cast_null_eq_ok_iff : t.cast τ.valueType .null = .ok w ↔ τ.nullable = true ∧ w = .null := by
  unfold valueType
  split
  · rename_i hnull
    rw [TypeTable.cast, Except.ok.injEq, eq_comm]
    exact (and_iff_right hnull).symm
  · rename_i hnull
    refine iff_of_false (fun h => ?_) fun h => hnull h.1
    obtain ⟨n, hn, -⟩ := IntegerKind.cast_eq_ok_iff.1 h
    cases hn

theorem Represents.represents (h : τ.Represents v x) : v.Represents x := by
  obtain ⟨hholds, rfl⟩ := h
  cases x with
  | none => rfl
  | some n => exact IntegerKind.integer?_value hholds

/-- **Casts are exact.**  A value is cast to an integer type if the type has what the value represents, and
then to the value that represents the same there. -/
theorem cast_eq_ok_iff (hv : v.Represents x) : t.cast τ.valueType v = .ok w ↔ τ.Represents w x := by
  cases x with
  | none =>
    obtain rfl : v = .null := hv
    exact cast_null_eq_ok_iff
  | some n =>
    have hv : v.integer? = some n := hv
    have hnull : v ≠ .null := by
      rintro rfl
      cases hv
    rw [cast_valueType hnull, IntegerKind.cast_eq_ok_iff, hv]
    constructor
    · rintro ⟨m, hm, hholds⟩
      cases hm
      exact hholds
    · rintro hholds
      exact ⟨n, rfl, hholds⟩

/-- Only integers and null are cast to integer types. -/
theorem represents_of_cast (h : t.cast τ.valueType v = .ok w) : τ.Represents w v.integer? := by
  have hv : v.Represents v.integer? := by
    by_cases hnull : v = .null
    · subst hnull
      rfl
    · rw [cast_valueType hnull] at h
      obtain ⟨n, hn, -⟩ := IntegerKind.cast_eq_ok_iff.1 h
      rw [hn]
      exact hn
  exact (cast_eq_ok_iff hv).1 h

theorem represents_of_conforms (h : t.conforms τ.valueType v = true) : τ.Represents v v.integer? :=
  represents_of_cast (TypeTable.cast_of_conforms h)

theorem Represents.conforms (h : τ.Represents v x) : t.conforms τ.valueType v = true :=
  TypeTable.conforms_of_cast ((cast_eq_ok_iff h.represents).2 h)

end IntegerType

/-! ## Outcomes -/

/-- Why an expression of integers has no result. -/
inductive IntegerFault where
  /-- A result does not fit its type, or there is no quotient. -/
  | operation
  /-- A type does not have what is cast to it. -/
  | cast
deriving DecidableEq, Repr

/-- The class of the error. -/
def IntegerFault.errorClass : IntegerFault → ErrorClass
  | operation => .invalidOperation
  | cast => .invalidCast

/-- An outcome follows an exact one: both have a result, and these are related, or neither has one, and the
error is of the class of the fault. -/
inductive FollowsExact {α β : Type} (R : α → β → Prop) :
    Except Error α → Except IntegerFault β → Prop where
  /-- Both have a result. -/
  | ok {a : α} {b : β} (h : R a b) : FollowsExact R (.ok a) (.ok b)
  /-- Neither has one. -/
  | error {e : Error} {fault : IntegerFault} (h : e.errorClass = fault.errorClass) :
      FollowsExact R (.error e) (.error fault)

namespace FollowsExact

/-- One step after the other. -/
theorem bind {α β γ δ : Type} {R : α → β → Prop} {S : γ → δ → Prop} {r : Except Error α}
    {x : Except IntegerFault β} {f : α → Except Error γ} {g : β → Except IntegerFault δ}
    (h : FollowsExact R r x) (hf : ∀ a b, R a b → FollowsExact S (f a) (g b)) :
    FollowsExact S (r >>= f) (x >>= g) := by
  cases h with
  | ok h => exact hf _ _ h
  | error h => exact .error h

/-- What is made of the exact result. -/
theorem map {α β γ : Type} {R : α → β → Prop} {S : α → γ → Prop} {r : Except Error α}
    {x : Except IntegerFault β} {f : β → γ} (h : FollowsExact R r x) (hf : ∀ a b, R a b → S a (f b)) :
    FollowsExact S r (x >>= fun b => pure (f b)) := by
  cases h with
  | ok h => exact .ok (hf _ _ h)
  | error h => exact .error h

variable {τ : IntegerType} {t : TypeTable} {v : Value} {x : Option Int}

/-- A cast fails where the type does not have the value. -/
theorem cast (hv : v.Represents x) : FollowsExact τ.Represents ((t.cast τ.valueType v).mapError .cast)
    (if τ.Holds x then .ok x else .error .cast) := by
  split
  · rename_i hholds
    rw [(IntegerType.cast_eq_ok_iff hv).2 ⟨hholds, rfl⟩]
    exact .ok ⟨hholds, rfl⟩
  · rename_i hholds
    cases hcast : t.cast τ.valueType v with
    | ok w => exact absurd ((IntegerType.cast_eq_ok_iff hv).1 hcast).1 hholds
    | error cause => exact .error rfl

end FollowsExact

/-! ## Arithmetic -/

/-- The arithmetic operators. -/
inductive Arithmetic where
  /-- Sum. -/
  | add
  /-- Quotient. -/
  | div
  /-- Product. -/
  | mul
  /-- Difference. -/
  | sub
deriving DecidableEq, Repr

namespace Arithmetic

/-- The operator of expressions. -/
def operator : Arithmetic → Operator
  | add => .add
  | div => .div
  | mul => .mul
  | sub => .sub

/-- What the operator does to integers.  A quotient is rounded toward zero, and there is none by zero. -/
def onIntegers? : Arithmetic → Int → Int → Option Int
  | add, a, b => some (a + b)
  | div, a, b => if b = 0 then none else some (a.tdiv b)
  | mul, a, b => some (a * b)
  | sub, a, b => some (a - b)

/-- What the operator does to integers and null, where the type has to have the result. -/
def result (op : Arithmetic) (τ : IntegerType) : Option Int → Option Int → Except IntegerFault (Option Int)
  | some a, some b =>
    match op.onIntegers? a b with
    | some n => if τ.kind.Holds n then .ok (some n) else .error .operation
    | none => .error .operation
  | _, _ => .ok none

variable {k : IntegerKind} {τ : IntegerType} {v w : Value} {x y : Option Int}

theorem isArithmetic_operator (op : Arithmetic) : op.operator.isArithmetic = true := by
  cases op <;> rfl

theorem onIntegers?_operator (op : Arithmetic) (a b : Int) :
    op.operator.onIntegers? a b = op.onIntegers? a b := by
  cases op <;> rfl

/-- Values of a kind are added, divided, multiplied and subtracted as their integers are, if the kind has the
result. -/
theorem arithmetic_value (op : Arithmetic) {a b : Int} (ha : k.Holds a) (hb : k.Holds b) :
    op.operator.arithmetic (k.value a) (k.value b) =
      match (op.onIntegers? a b).bind (Value.ofInteger? · k.valueType) with
      | some v => .ok v
      | none => .error (.arithmetic op.operator (k.value a) (k.value b)) := by
  have ha' := IntegerKind.integer?_value ha
  have hb' := IntegerKind.integer?_value hb
  rw [← onIntegers?_operator]
  cases k <;> simp only [IntegerKind.value, Value.integer?, Option.some.injEq] at ha' hb' <;>
    simp only [IntegerKind.value, Operator.arithmetic, ha', hb'] <;> rfl

/-- **Arithmetic is exact or fails.**  What an operator yields on values of a type represents what it yields
on integers and null. -/
theorem follows_apply (op : Arithmetic) (s : Store) (hv : τ.Represents v x) (hw : τ.Represents w y) :
    FollowsExact τ.Represents (op.operator.apply s v w) (op.result τ x y) := by
  rw [Operator.apply_of_isArithmetic op.isArithmetic_operator]
  obtain ⟨hx, rfl⟩ := hv
  obtain ⟨hy, rfl⟩ := hw
  have hnull : ∀ {z : Option Int}, (τ.value z).isNull = z.isNone := by
    intro z
    cases z with
    | none => rfl
    | some n => exact IntegerKind.isNull_value n τ.kind
  rw [hnull, hnull]
  match x, y with
  | none, y => exact .ok ⟨hx, rfl⟩
  | some a, none => exact .ok ⟨hy, rfl⟩
  | some a, some b =>
    show FollowsExact τ.Represents (op.operator.arithmetic (τ.kind.value a) (τ.kind.value b)) _
    rw [arithmetic_value op hx hy]
    unfold result
    cases hop : op.onIntegers? a b with
    | none =>
      simp only [hop, Option.bind_none]
      exact .error rfl
    | some n =>
      simp only [hop, Option.bind_some, IntegerKind.ofInteger?_valueType]
      by_cases hn : τ.kind.Holds n
      · simp only [if_pos hn]
        exact .ok ⟨hn, rfl⟩
      · simp only [if_neg hn]
        exact .error rfl

end Arithmetic

/-! ## Comparisons -/

/-- The comparisons. -/
inductive Comparison where
  /-- Equality. -/
  | eq
  /-- At least. -/
  | ge
  /-- Greater. -/
  | gt
  /-- At most. -/
  | le
  /-- Less. -/
  | lt
  /-- Inequality. -/
  | ne
deriving DecidableEq, Repr

namespace Comparison

/-- The operator of expressions. -/
def operator : Comparison → Operator
  | eq => .eq
  | ge => .ge
  | gt => .gt
  | le => .le
  | lt => .lt
  | ne => .ne

/-- Whether the comparison holds.  Null is equal to itself only, and is not ordered. -/
def holds : Comparison → Option Int → Option Int → Bool
  | eq, x, y => x = y
  | ge, some a, some b => b ≤ a
  | gt, some a, some b => b < a
  | le, some a, some b => a ≤ b
  | lt, some a, some b => a < b
  | ne, x, y => x ≠ y
  | _, _, _ => false

variable {τ : IntegerType} {v w : Value} {x y : Option Int}

theorem isArithmetic_operator (c : Comparison) : c.operator.isArithmetic = false := by
  cases c <;> rfl

/-- Values of a type are equal by content if they represent the same. -/
theorem sameValue_eq (s : Store) (hv : τ.Represents v x) (hw : τ.Represents w y) :
    s.sameValue v w = decide (x = y) := by
  rw [Bool.eq_iff_iff, Store.sameValue_iff, decide_eq_true_iff]
  constructor
  · rintro ⟨R, -, hrelated⟩
    rw [hv.represents.eq_integer?, hw.represents.eq_integer?]
    exact Value.integer?_of_related hrelated
  · rintro rfl
    rw [hv.2, hw.2, Store.equates_self]
    cases x with
    | none => trivial
    | some n => exact IntegerKind.nanFree_value n τ.kind

/-- An ordering of integers is read off their order. -/
theorem accepts_compare {c : Comparison} (hc : c.operator.isOrdering = true) (a b : Int) :
    c.operator.accepts (some (compare a b)) = c.holds (some a) (some b) := by
  cases hcompare : compare a b with
  | lt =>
    have hlt := compare_lt_iff_lt.1 hcompare
    cases c with
    | eq | ne => cases hc
    | ge | gt | le | lt =>
      simp only [operator, Operator.accepts, holds]
      grind
  | eq =>
    obtain rfl := compare_eq_iff_eq.1 hcompare
    cases c with
    | eq | ne => cases hc
    | ge | gt | le | lt => simp [operator, Operator.accepts, holds]
  | gt =>
    have hgt := compare_gt_iff_gt.1 hcompare
    cases c with
    | eq | ne => cases hc
    | ge | gt | le | lt =>
      simp only [operator, Operator.accepts, holds]
      grind

/-- Null has no order. -/
theorem compare?_null (hnull : v = .null ∨ w = .null) : Operator.compare? v w = none := by
  rcases hnull with rfl | rfl
  · rfl
  · cases v <;> rfl

/-- An ordering looks at the integers, and nothing is ordered with null. -/
theorem accepts_compare? {c : Comparison} (hc : c.operator.isOrdering = true) (hv : τ.Represents v x)
    (hw : τ.Represents w y) : c.operator.accepts (Operator.compare? v w) = c.holds x y := by
  match x, y with
  | none, y =>
    rw [compare?_null (.inl hv.2)]
    cases c with
    | eq | ne => cases hc
    | ge | gt | le | lt => rfl
  | some a, none =>
    rw [compare?_null (.inr hw.2)]
    cases c with
    | eq | ne => cases hc
    | ge | gt | le | lt => rfl
  | some a, some b =>
    obtain ⟨ha, rfl⟩ := hv
    obtain ⟨hb, rfl⟩ := hw
    rw [← accepts_compare hc, ← IntegerKind.compare?_value ha hb]
    rfl

/-- **Comparisons are exact.** -/
theorem apply_eq (c : Comparison) (s : Store) (hv : τ.Represents v x) (hw : τ.Represents w y) :
    c.operator.apply s v w = .ok (.bool (c.holds x y)) := by
  cases c with
  | eq =>
    show Except.ok (Value.bool (s.sameValue v w)) = _
    rw [sameValue_eq s hv hw]
    rfl
  | ne =>
    show Except.ok (Value.bool (!s.sameValue v w)) = _
    rw [sameValue_eq s hv hw, holds, decide_not]
  | ge | gt | le | lt =>
    rw [← accepts_compare? rfl hv hw]
    rfl

end Comparison
end Reshape
