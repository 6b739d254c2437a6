import Mathlib.Data.Nat.Log
import Reshape.Proofs.Model.Lineage
import Reshape.Proofs.Outcome

/-!
# What a cast yields

A cast to a type yields a value of that type (`conforms_of_cast`), a value that belongs to the type
already is yielded as it is (`cast_of_conforms`), and where the table of conversions has an implicit
rule the cast cannot fail (`cast_of_implicitRule?`).  All three are kept by later tables.
-/

namespace Reshape

attribute [grind =] Value.ofInteger? TypeTable.conforms TypeTable.cast TypeTable.implicitRule?

/-! ## Numbers -/

namespace Number

/-- An integer has its bits in a format whose significands are long enough for it, if the exponents reach from
there to two. -/
theorem encode?_isSome {f : Format} (hleast : f.least ≤ -f.fraction) (htop : 2 - f.least < f.top) {n : Nat}
    (negative : Bool) (h : n ≤ twoTo (f.fraction + 1)) :
    (Binary.encode? f (.finite negative n 0)).isSome = true := by
  change n ≤ 2 ^ (f.fraction + 1) at h
  by_cases hz : n = 0
  · simp [Binary.encode?, hz]
  · -- nothing is dropped: the last place is at most one, or the number is the power of two after them
    have hplace : max f.least (0 + (n.log2 : Int) - f.fraction) = (n.log2 : Int) - f.fraction := by
      omega
    have hlog : n.log2 ≤ f.fraction + 1 := by
      have hlt : n < 2 ^ (f.fraction + 1 + 1) := Nat.lt_of_le_of_lt h (Nat.pow_lt_pow_succ (by decide))
      exact Nat.le_of_lt_succ ((Nat.log2_lt hz).2 hlt)
    have hdrop : n * twoTo (0 - ((n.log2 : Int) - f.fraction)).toNat %
        twoTo ((n.log2 : Int) - f.fraction - 0).toNat = 0 := by
      rcases Nat.le_or_eq_of_le_succ hlog with hlog | hlog
      · rw [show ((n.log2 : Int) - f.fraction - 0).toNat = 0 by omega]
        exact Nat.mod_one _
      · have hle := Nat.log2_self_le hz
        rw [hlog] at hle
        obtain rfl := Nat.le_antisymm h hle
        rw [hlog, show (((f.fraction + 1 : Nat) : Int) - f.fraction - 0).toNat = 1 by omega, Nat.pow_succ]
        exact Nat.mod_eq_zero_of_dvd ⟨_, by rw [Nat.mul_right_comm, Nat.mul_comm _ 2]; rfl⟩
    have hfield : ∀ whole : Nat, (if whole < twoTo f.fraction then 0
        else ((n.log2 : Int) - f.fraction - f.least + 1).toNat) < f.top := by
      intro whole
      split <;> omega
    simp only [Binary.encode?, if_neg hz, hplace]
    rw [if_pos ⟨hdrop, hfield _⟩]
    rfl

theorem float32OfInt?_isSome {n : Int} (h : n.natAbs ≤ exactInt32) :
    (float32OfInt? n).isSome = true := by
  simp [float32OfInt?, encode?_isSome (f := binary32) (by decide) (by decide) _ h]

theorem float64OfInt?_isSome {n : Int} (h : n.natAbs ≤ exactInt64) :
    (float64OfInt? n).isSome = true := by
  simp [float64OfInt?, encode?_isSome (f := binary64) (by decide) (by decide) _ h]

end Number

namespace Value

theorem ofInteger?_int32 (n : Int32) : ofInteger? n.toInt .int32 = some (.int32 n) := by
  have h₁ := n.le_toInt
  have h₂ := n.toInt_lt
  rw [ofInteger?, if_pos (by constructor <;> omega), Int32.ofInt_toInt]

theorem ofInteger?_int64 (n : Int64) : ofInteger? n.toInt .int64 = some (.int64 n) := by
  have h₁ := n.le_toInt
  have h₂ := n.toInt_lt
  rw [ofInteger?, if_pos (by constructor <;> omega), Int64.ofInt_toInt]

theorem ofInteger?_uint32 (n : UInt32) : ofInteger? (n.toNat : Int) .uint32 = some (.uint32 n) := by
  have h := n.toNat_lt
  rw [ofInteger?, if_pos (by constructor <;> omega)]
  simp

theorem ofInteger?_uint64 (n : UInt64) : ofInteger? (n.toNat : Int) .uint64 = some (.uint64 n) := by
  have h := n.toNat_lt
  rw [ofInteger?, if_pos (by constructor <;> omega)]
  simp

theorem ofInteger?_int64_isSome {n : Int} (h : n.natAbs ≤ 4294967296) :
    (ofInteger? n .int64).isSome = true := by
  rw [ofInteger?, if_pos (by constructor <;> omega)]
  rfl

theorem ofInteger?_float64_isSome {n : Int} (h : n.natAbs ≤ 4294967296) :
    (ofInteger? n .float64).isSome = true := by
  have hle : n.natAbs ≤ exactInt64 := by simp only [exactInt64]; omega
  rw [ofInteger?, if_pos hle, Option.isSome_map]
  exact Number.float64OfInt?_isSome hle

theorem ofInteger?_uint64_isSome (n : UInt32) :
    (ofInteger? (n.toNat : Int) .uint64).isSome = true := by
  have h := n.toNat_lt
  rw [ofInteger?, if_pos (by constructor <;> omega)]
  rfl

end Value

namespace TypeTable

variable {t t' : TypeTable}

/-! ## Belonging to a type -/

@[simp] theorem conforms_any (v : Value) : t.conforms .any v = true := by
  cases v <;> simp [conforms]

@[simp] theorem conforms_null (type : ValueType) : t.conforms type .null = type.acceptsNull := by
  cases type <;> simp [conforms, ValueType.acceptsNull, ValueType.isPlain]

theorem conforms_nullable {inner : ValueType} {v : Value} (h : v ≠ .null) :
    t.conforms (.nullable inner) v = t.conforms inner v := by
  cases v <;> simp_all [conforms]

/-- Null is added to a type and nothing else. -/
theorem conforms_orNull {type : ValueType} {v : Value} (h : t.conforms type v = true) :
    t.conforms type.orNull v = true := by
  unfold ValueType.orNull
  split
  · by_cases hv : v = .null
    · subst hv
      simp [ValueType.acceptsNull, ValueType.isPlain]
    · rwa [conforms_nullable hv]
  · exact h

theorem acceptsNull_orNull (type : ValueType) : type.orNull.acceptsNull = true := by
  cases type <;> rfl

theorem conforms_zero (type : ValueType) : t.conforms type type.zero = true := by
  cases type <;> simp [ValueType.zero, conforms, ValueType.acceptsNull, ValueType.isPlain]

/-- What belongs to an object type is null or an instance. -/
theorem conforms_object {type : TypeId} {v : Value} (h : t.conforms (.object type) v = true) :
    v = .null ∨ ∃ ref, v = .object ref ∧ t.isSubtype ref.type type = true := by
  cases v <;> simp_all [conforms]

/-- An object of a type is one of its bases. -/
theorem conforms_upcast {derived base : TypeId} (h : t.isSubtype derived base = true) {v : Value}
    (hv : t.conforms (.object derived) v = true) : t.conforms (.object base) v = true := by
  rcases conforms_object hv with rfl | ⟨ref, rfl, hsub⟩
  · simp [ValueType.acceptsNull, ValueType.isPlain]
  · simpa [conforms] using isSubtype_trans hsub h

theorem conforms_bool {v : Value} (h : t.conforms .bool v = true) : ∃ b, v = .bool b := by
  cases v <;> simp_all [conforms, ValueType.acceptsNull, ValueType.isPlain]

theorem conforms_list {element : ValueType} {v : Value} (h : t.conforms (.list element) v = true) :
    v = .null ∨ ∃ items, v = .list items ∧ ∀ w ∈ items, t.conforms element w = true := by
  cases v <;> simp_all [conforms]

/-! ## Casts -/

/-- A nullable is cast to as what it wraps, null apart. -/
theorem cast_nullable {inner : ValueType} {v : Value} (h : v ≠ .null) :
    t.cast (.nullable inner) v = t.cast inner v := by
  cases v <;> first | contradiction | rfl

theorem conforms_ofInteger? {n : Int} {target : ValueType} {w : Value}
    (h : Value.ofInteger? n target = some w) : t.conforms target w = true := by
  cases target <;> simp only [Value.ofInteger?] at h <;> try contradiction
  case float32 | float64 =>
    obtain ⟨_, h⟩ := Option.ite_none_right_eq_some.1 h
    obtain ⟨x, -, rfl⟩ := Option.map_eq_some_iff.1 h
    simp [conforms]
  all_goals
    obtain ⟨_, h⟩ := Option.ite_none_right_eq_some.1 h
    cases h
    simp [conforms]

theorem conforms_castNumber? {v : Value} {target : ValueType} {w : Value}
    (h : v.castNumber? target = some w) : t.conforms target w = true := by
  unfold Value.castNumber? at h
  split at h
  · cases h; simp [conforms]
  · cases h; simp [conforms]
  · obtain ⟨x, -, rfl⟩ := Option.map_eq_some_iff.1 h
    simp [conforms]
  · cases h; simp [conforms]
  · obtain ⟨n, -, h⟩ := Option.bind_eq_some_iff.1 h
    exact conforms_ofInteger? h

/-- A cast to a number type keeps a number or fails. -/
theorem castNumber?_of_cast {target : ValueType} (ht : target.isNumeric = true) {v w : Value}
    (h : t.cast target v = .ok w) : v.castNumber? target = some w := by
  cases target <;> simp only [ValueType.isNumeric, ValueType.isInteger, ValueType.isFloat,
    Bool.or_self, Bool.false_eq_true] at ht
  all_goals
    cases v <;> simp only [cast, ValueType.acceptsNull, ValueType.isPlain, Bool.not_true,
      Bool.false_eq_true, if_false, Value.isNumeric, Bool.false_and, reduceCtorEq,
      ValueType.isNumeric, ValueType.isInteger, ValueType.isFloat, Bool.or_true, Bool.or_false,
      Bool.and_self, if_true] at h
    all_goals
      split at h
      · rename_i hw
        cases h
        exact hw
      · cases h

/-- A cast to a type yields a value of the type. -/
theorem conforms_of_cast {type : ValueType} {v w : Value} (h : t.cast type v = .ok w) :
    t.conforms type w = true := by
  induction type generalizing v w with
  | any => simp
  | nullable inner ih =>
    by_cases hv : v = .null
    · subst hv
      cases h
      simp [ValueType.acceptsNull, ValueType.isPlain]
    · rw [cast_nullable hv] at h
      have := ih h
      by_cases hw : w = .null
      · subst hw
        simp [ValueType.acceptsNull, ValueType.isPlain]
      · rwa [conforms_nullable hw]
  | list element ih =>
    cases v <;> simp only [cast, reduceCtorEq] at h
    case null => cases h; simp [ValueType.acceptsNull, ValueType.isPlain]
    case list items =>
      cases hm : items.mapM (t.cast element) with
      | error e => rw [hm] at h; cases h
      | ok ws =>
        rw [hm] at h
        cases h
        have hall := mapM_eq_ok.1 hm
        simp only [conforms, List.all_eq_true]
        intro x hx
        obtain ⟨y, -, hy⟩ := exists_of_mem_forall₂ hall hx
        exact ih hy
  | object expected =>
    cases v <;> simp only [cast, reduceCtorEq] at h
    case null => cases h; simp [ValueType.acceptsNull, ValueType.isPlain]
    case object ref =>
      split at h
      · cases h; simpa [conforms]
      · cases h
  | blob | bool | text =>
    cases v <;> simp [cast, ValueType.acceptsNull, ValueType.isPlain, ValueType.isNumeric,
      ValueType.isInteger, ValueType.isFloat] at h <;>
      (subst h; simp [conforms, ValueType.acceptsNull, ValueType.isPlain])
  | float32 | float64 | int32 | int64 | uint32 | uint64 =>
    exact conforms_castNumber? (castNumber?_of_cast rfl h)

/-- A value that belongs to a type is cast to itself. -/
theorem cast_of_conforms {type : ValueType} {v : Value} (h : t.conforms type v = true) :
    t.cast type v = .ok v := by
  induction type generalizing v with
  | any => rfl
  | nullable inner ih =>
    by_cases hv : v = .null
    · subst hv; rfl
    · rw [conforms_nullable hv] at h
      rw [cast_nullable hv]
      exact ih h
  | list element ih =>
    rcases conforms_list h with rfl | ⟨items, rfl, hitems⟩
    · rfl
    · have hall : items.mapM (t.cast element) = .ok items := by
        refine mapM_eq_ok.2 ?_
        exact List.forall₂_same.2 fun x hx => ih (hitems x hx)
      rw [cast, hall]
      rfl
  | object expected =>
    rcases conforms_object h with rfl | ⟨ref, rfl, hsub⟩
    · rfl
    · rw [cast, if_pos hsub]
  | blob | bool | text =>
    cases v <;> simp_all [cast, conforms, ValueType.acceptsNull, ValueType.isPlain]
  | float32 | float64 =>
    cases v <;> simp_all [cast, conforms, ValueType.acceptsNull, ValueType.isPlain,
      Value.isNumeric, ValueType.isNumeric, ValueType.isFloat, Value.castNumber?]
  | int32 | int64 | uint32 | uint64 =>
    cases v <;> simp_all [cast, conforms, ValueType.acceptsNull, ValueType.isPlain,
      Value.isNumeric, ValueType.isNumeric, ValueType.isInteger, Value.castNumber?,
      Value.integer?, Value.ofInteger?_int32, Value.ofInteger?_int64, Value.ofInteger?_uint32,
      Value.ofInteger?_uint64]

theorem cast_of_castNumber? {target : ValueType} (ht : target.isNumeric = true) {v w : Value}
    (h : v.castNumber? target = some w) (hv : v.isNumeric = true) : t.cast target v = .ok w := by
  cases target <;> simp only [ValueType.isNumeric, ValueType.isInteger, ValueType.isFloat,
    Bool.or_self, Bool.false_eq_true] at ht
  all_goals
    cases v <;> simp only [Value.isNumeric, Bool.false_eq_true] at hv
    all_goals
      simp [cast, Value.isNumeric, ValueType.isNumeric, ValueType.isInteger, ValueType.isFloat, h]

/-- A number is cast to every type that its own widens to. -/
theorem cast_of_widensTo {source target : ValueType} (h : source.widensTo target = true)
    {v : Value} (hv : t.conforms source v = true) : ∃ w, t.cast target v = .ok w := by
  suffices hsome : (v.castNumber? target).isSome = true ∧ target.isNumeric = true ∧
      v.isNumeric = true by
    obtain ⟨hc, ht, hn⟩ := hsome
    obtain ⟨w, hw⟩ := Option.isSome_iff_exists.1 hc
    exact ⟨w, cast_of_castNumber? ht hw hn⟩
  cases source <;> cases target <;> simp only [ValueType.widensTo, Bool.false_eq_true] at h
  all_goals
    cases v <;> simp [conforms, ValueType.acceptsNull, ValueType.isPlain] at hv
  case float32.float64.float32 => exact ⟨rfl, rfl, rfl⟩
  case int32.float64.int32 n =>
    refine ⟨Value.ofInteger?_float64_isSome ?_, rfl, rfl⟩
    have h₁ := n.le_toInt
    have h₂ := n.toInt_lt
    omega
  case int32.int64.int32 n =>
    refine ⟨Value.ofInteger?_int64_isSome ?_, rfl, rfl⟩
    have h₁ := n.le_toInt
    have h₂ := n.toInt_lt
    omega
  case uint32.float64.uint32 n =>
    refine ⟨Value.ofInteger?_float64_isSome ?_, rfl, rfl⟩
    have h₁ := n.toNat_lt
    omega
  case uint32.int64.uint32 n =>
    refine ⟨Value.ofInteger?_int64_isSome ?_, rfl, rfl⟩
    have h₁ := n.toNat_lt
    omega
  case uint32.uint64.uint32 n => exact ⟨Value.ofInteger?_uint64_isSome n, rfl, rfl⟩

/-- An implicit conversion cannot fail. -/
theorem cast_of_implicitRule? {source target : ValueType} {rule : ConversionRule}
    (h : t.implicitRule? source target = some rule) {v : Value}
    (hv : t.conforms source v = true) : ∃ w, t.cast target v = .ok w := by
  induction target generalizing source rule v with
  | any => exact ⟨v, rfl⟩
  | nullable inner ih =>
    by_cases hnull : v = .null
    · subst hnull
      exact ⟨.null, rfl⟩
    · rw [cast_nullable hnull]
      simp only [implicitRule?] at h
      split at h
      · rename_i heq
        subst heq
        rw [conforms_nullable hnull] at hv
        exact ⟨v, cast_of_conforms hv⟩
      · cases source with
        | nullable content =>
          obtain ⟨rule', hr, -⟩ := Option.map_eq_some_iff.1 h
          rw [conforms_nullable hnull] at hv
          exact ih hr hv
        | _ =>
          simp only at h
          obtain ⟨-, h⟩ := Option.ite_none_right_eq_some.1 h
          obtain ⟨rule', hr, -⟩ := Option.map_eq_some_iff.1 h
          exact ih hr hv
  | object base =>
    cases source <;> simp only [implicitRule?, reduceCtorEq] at h
    case object derived =>
      split at h
      · rename_i heq
        exact ⟨v, cast_of_conforms (heq ▸ hv)⟩
      · obtain ⟨hbase, -⟩ := Option.ite_none_right_eq_some.1 h
        exact ⟨v, cast_of_conforms (conforms_upcast hbase hv)⟩
  | blob | bool | float32 | float64 | int32 | int64 | list | text | uint32 | uint64 =>
    simp only [implicitRule?] at h
    split at h
    · rename_i heq
      subst heq
      exact ⟨v, cast_of_conforms hv⟩
    · obtain ⟨hw, -⟩ := Option.ite_none_right_eq_some.1 h
      exact cast_of_widensTo hw hv

/-- The identity is the rule between equal types only. -/
theorem eq_of_implicitRule?_identity {source target : ValueType}
    (h : t.implicitRule? source target = some .identity) : source = target := by
  cases target <;> simp only [implicitRule?] at h
  case any => split at h <;> simp_all
  case nullable inner =>
    split at h
    · assumption
    · split at h <;> simp at h
  case object base =>
    split at h
    · split at h
      · simp_all
      · split at h <;> simp at h
    · cases h
  all_goals
    split at h
    · assumption
    · split at h <;> simp at h

theorem implicitRule?_self (type : ValueType) : t.implicitRule? type type = some .identity := by
  cases type <;> simp [implicitRule?]

theorem explicitRule?_self (t : TypeTable) (type : ValueType) : t.explicitRule? type type = some .identity := by
  cases type <;> simp only [explicitRule?, explicitRuleFlat?, implicitRule?_self]

/-- Different types are not converted explicitly by doing nothing. -/
theorem eq_of_explicitRule?_identity {source target : ValueType}
    (h : t.explicitRule? source target = some .identity) : source = target := by
  have hflat : ∀ plain, t.explicitRuleFlat? plain target = some .identity → plain = target := by
    intro plain hplain
    unfold explicitRuleFlat? at hplain
    split at hplain
    · rename_i hrule
      exact eq_of_implicitRule?_identity (hrule.trans hplain)
    · split at hplain <;> try split at hplain
      all_goals simp at hplain
  unfold explicitRule? at h
  split at h
  · split at h
    · rename_i hrule
      exact eq_of_implicitRule?_identity (hrule.trans h)
    · split at h <;> simp at h
  · exact hflat _ h

/-- Something typed `any` can be cast to everything. -/
theorem exists_explicitRule?_of_any (t : TypeTable) (target : ValueType) :
    ∃ rule, t.explicitRule? .any target = some rule := by
  simp only [explicitRule?, explicitRuleFlat?]
  split <;> exact ⟨_, rfl⟩

/-- Everything can be cast to `any`. -/
theorem exists_explicitRule?_any (t : TypeTable) (source : ValueType) :
    ∃ rule, t.explicitRule? source .any = some rule := by
  have himplicit : ∃ rule, t.implicitRule? source .any = some rule := by
    rw [implicitRule?]
    split <;> exact ⟨_, rfl⟩
  obtain ⟨rule, hrule⟩ := himplicit
  cases source <;> exact ⟨rule, by simp only [explicitRule?, explicitRuleFlat?, hrule]⟩

/-! ## Later tables -/

theorem conforms_mono (he : t.Extends t') {type : ValueType} {v : Value}
    (h : t.conforms type v = true) : t'.conforms type v = true := by
  induction type generalizing v with
  | any => simp
  | nullable inner ih =>
    by_cases hv : v = .null
    · subst hv
      simp [ValueType.acceptsNull, ValueType.isPlain]
    · rw [conforms_nullable hv] at h ⊢
      exact ih h
  | list element ih =>
    rcases conforms_list h with rfl | ⟨items, rfl, hitems⟩
    · simp [ValueType.acceptsNull, ValueType.isPlain]
    · simp only [conforms, List.all_eq_true]
      exact fun w hw => ih (hitems w hw)
  | object type =>
    rcases conforms_object h with rfl | ⟨ref, rfl, hsub⟩
    · simp [ValueType.acceptsNull, ValueType.isPlain]
    · simpa [conforms] using he.isSubtype hsub
  | blob | bool | float32 | float64 | int32 | int64 | text | uint32 | uint64 =>
    cases v <;> simp_all [conforms]

theorem cast_mono (he : t.Extends t') {type : ValueType} {v w : Value}
    (h : t.cast type v = .ok w) : t'.cast type v = .ok w := by
  induction type generalizing v w with
  | any => exact h
  | nullable inner ih =>
    by_cases hv : v = .null
    · subst hv; exact h
    · rw [cast_nullable hv] at h ⊢
      exact ih h
  | list element ih =>
    cases v <;> simp only [cast, reduceCtorEq] at h
    case null => exact h
    case list items =>
      cases hm : items.mapM (t.cast element) with
      | error e => rw [hm] at h; cases h
      | ok ws =>
        rw [hm] at h
        have hall := (mapM_eq_ok.1 hm).imp fun _ _ hx => ih hx
        rw [cast, mapM_eq_ok.2 hall]
        exact h
  | object expected =>
    cases v <;> simp only [cast, reduceCtorEq] at h
    case null => exact h
    case object ref =>
      split at h
      · rename_i hsub
        rw [cast, if_pos (he.isSubtype hsub)]
        exact h
      · cases h
  | blob | bool | float32 | float64 | int32 | int64 | text | uint32 | uint64 =>
    rw [← h]
    cases v <;> rfl

theorem implicitRule?_mono (he : t.Extends t') {source target : ValueType} {rule : ConversionRule}
    (h : t.implicitRule? source target = some rule) :
    t'.implicitRule? source target = some rule := by
  induction target generalizing source rule with
  | any => exact h
  | nullable inner ih =>
    simp only [implicitRule?] at h ⊢
    split at h
    · rename_i heq
      rw [if_pos heq]
      exact h
    · rename_i hne
      rw [if_neg hne]
      cases source with
      | nullable content =>
        obtain ⟨r, hr, rfl⟩ := Option.map_eq_some_iff.1 h
        simp [ih hr]
      | _ =>
        simp only at h ⊢
        obtain ⟨hp, h⟩ := Option.ite_none_right_eq_some.1 h
        obtain ⟨r, hr, rfl⟩ := Option.map_eq_some_iff.1 h
        simp [hp, ih hr]
  | object base =>
    cases source <;> simp only [implicitRule?, reduceCtorEq] at h ⊢
    case object derived =>
      split at h
      · rename_i heq
        rw [if_pos heq]
        exact h
      · rename_i hne
        obtain ⟨hsub, h⟩ := Option.ite_none_right_eq_some.1 h
        rw [if_neg hne, if_pos (he.isSubtype hsub)]
        exact h
  | blob | bool | float32 | float64 | int32 | int64 | list | text | uint32 | uint64 =>
    simp only [implicitRule?] at h ⊢
    exact h

/-- The rules for a plain type do not depend on the definitions. -/
theorem implicitRule?_of_isPlain (t t' : TypeTable) {source target : ValueType}
    (h : source.isPlain = true) : t'.implicitRule? source target = t.implicitRule? source target := by
  induction target with
  | nullable inner ih => cases source <;> first | contradiction | simp only [implicitRule?, ih]
  | object base => cases source <;> first | contradiction | rfl
  | _ => rfl

theorem explicitRuleFlat?_of_isPlain (t t' : TypeTable) {source target : ValueType}
    (h : source.isPlain = true) :
    t'.explicitRuleFlat? source target = t.explicitRuleFlat? source target := by
  have hfirst : t'.implicitRule? source target = t.implicitRule? source target :=
    implicitRule?_of_isPlain t t' h
  induction target with
  | nullable inner ih =>
    cases source <;> first
      | contradiction
      | simp only [explicitRuleFlat?, hfirst, ih (implicitRule?_of_isPlain t t' h)]
  | _ => cases source <;> first | contradiction | simp only [explicitRuleFlat?, hfirst]

theorem explicitRuleFlat?_mono (he : t.Extends t') {source target : ValueType} {rule : ConversionRule}
    (h : t.explicitRuleFlat? source target = some rule) :
    t'.explicitRuleFlat? source target = some rule := by
  by_cases hplain : source.isPlain = true
  · rwa [explicitRuleFlat?_of_isPlain t t' hplain]
  unfold explicitRuleFlat? at h ⊢
  cases hfirst : t.implicitRule? source target with
  | some found =>
    rw [hfirst] at h
    simpa only [implicitRule?_mono he hfirst] using h
  | none =>
    rw [hfirst] at h
    cases source with
    | any =>
      have hnone : t'.implicitRule? .any target = none := by
        cases target <;> first | contradiction | rfl
      rwa [hnone]
    | object base =>
      cases target with
      | object derived =>
        obtain ⟨hsub, h⟩ := Option.ite_none_right_eq_some.1 h
        have hne : base ≠ derived := by
          rintro rfl
          simp [implicitRule?] at hfirst
        -- the later table cannot have the types the other way round as well
        have hup : ¬ t'.isSubtype base derived = true := fun hup =>
          hne (isSubtype_antisymm hup (he.isSubtype hsub))
        simp [implicitRule?, hne, hup, he.isSubtype hsub, h]
      | _ => simp [ValueType.isPlain, ValueType.isInteger] at h
    | _ => first | contradiction | (cases target <;> simp [ValueType.isPlain, ValueType.isInteger] at h)

/-- What is converted explicitly is converted by the same rule later. -/
theorem explicitRule?_mono (he : t.Extends t') {source target : ValueType} {rule : ConversionRule}
    (h : t.explicitRule? source target = some rule) : t'.explicitRule? source target = some rule := by
  induction source generalizing target rule with
  | nullable content ih =>
    unfold explicitRule? at h ⊢
    cases hfirst : t.implicitRule? (.nullable content) target with
    | some found =>
      rw [hfirst] at h
      simpa only [implicitRule?_mono he hfirst] using h
    | none =>
      rw [hfirst] at h
      cases target with
      | nullable inner =>
        obtain ⟨below, hbelow, rfl⟩ := Option.map_eq_some_iff.1 h
        simp only [ih hbelow, Option.map_some]
        split
        · rename_i found hfound
          simp only [implicitRule?] at hfirst hfound
          split at hfound
          · simp_all
          · obtain ⟨_, -, rfl⟩ := Option.map_eq_some_iff.1 hfound
            rfl
        · rfl
      | any => simp [implicitRule?] at hfirst
      | _ =>
        obtain ⟨below, hbelow, rfl⟩ := Option.map_eq_some_iff.1 h
        simp [implicitRule?, ValueType.widensTo, ih hbelow]
  | _ => exact explicitRuleFlat?_mono he h

end TypeTable
end Reshape
