import Reshape.Proofs.Conversion.Checked
import Reshape.Proofs.Expr.Integers

/-!
# Casting as a retraction

Casting to a type maps onto the values that belong to the type and leaves these where they are
(`TypeTable.cast_retracts`).  An integer is the same integer in every integer type that has it, and it is cast to
a floating-point type up to the power of two where the format stops having every integer.  Nullable layers of the
type make no difference to integers.
-/

namespace Reshape
namespace TypeTable

variable {t : TypeTable} {type : ValueType} {v : Value} {n : Int}

/-- An integer is cast to what it is made to by the type below the nullable layers, if that is a number type. -/
theorem cast_integer_eq_ok_iff (hn : v.integer? = some n) (htype : type.core.isNumeric = true) {w : Value} :
    t.cast type v = .ok w ↔ Value.ofInteger? n type.core = some w := by
  have hv : v ≠ .null ∧ v.isNumeric = true ∧
      v.castNumber? type.core = v.integer?.bind (Value.ofInteger? · type.core) := by
    cases v <;> first | exact ⟨nofun, rfl, rfl⟩ | cases hn
  obtain ⟨hnull, hnumeric, hcast⟩ := hv
  rw [hn, Option.bind_some] at hcast
  rw [← cast_core hnull, ← hcast]
  exact ⟨castNumber?_of_cast htype, fun h => cast_of_castNumber? htype h hnumeric⟩

/-- An integer is cast to the integer types that have it, and keeps its value. -/
theorem cast_integer_of_kind (hn : v.integer? = some n) {k : IntegerKind} (htype : type.core = k.valueType) :
    ((∃ w, t.cast type v = .ok w) ↔ k.Holds n) ∧ ∀ w, t.cast type v = .ok w → w.integer? = some n := by
  have hnumeric : type.core.isNumeric = true := htype ▸ k.isNumeric_valueType
  constructor
  · simp only [cast_integer_eq_ok_iff hn hnumeric, htype, IntegerKind.ofInteger?_valueType,
      Option.ite_none_right_eq_some, exists_and_left, Option.some.injEq, exists_eq', and_true]
  · intro w hw
    rw [cast_integer_eq_ok_iff hn hnumeric, htype] at hw
    exact Value.integer?_of_ofInteger? k.isInteger_valueType hw

theorem exists_cast_float32_iff (hn : v.integer? = some n) (htype : type.core = .float32) :
    (∃ w, t.cast type v = .ok w) ↔ n.natAbs ≤ 2 ^ 24 := by
  have hnumeric : type.core.isNumeric = true := htype ▸ rfl
  simp only [cast_integer_eq_ok_iff hn hnumeric, htype, Value.ofInteger?, Option.ite_none_right_eq_some,
    exists_and_left]
  refine and_iff_left_of_imp fun h => ?_
  exact Option.isSome_iff_exists.1 ((Option.isSome_map ..).trans (Number.float32OfInt?_isSome h))

theorem exists_cast_float64_iff (hn : v.integer? = some n) (htype : type.core = .float64) :
    (∃ w, t.cast type v = .ok w) ↔ n.natAbs ≤ 2 ^ 53 := by
  have hnumeric : type.core.isNumeric = true := htype ▸ rfl
  simp only [cast_integer_eq_ok_iff hn hnumeric, htype, Value.ofInteger?, Option.ite_none_right_eq_some,
    exists_and_left]
  refine and_iff_left_of_imp fun h => ?_
  exact Option.isSome_iff_exists.1 ((Option.isSome_map ..).trans (Number.float64OfInt?_isSome h))

/-- **A cast is a retraction onto the values of the type.**  What it yields belongs to the type and is cast to
itself, and a value that belongs to the type already is not changed.  An integer keeps its value in every integer
type that has it, and it is cast to a floating-point type exactly up to the last power of two before which the
format has all integers. -/
theorem cast_retracts (t : TypeTable) (type : ValueType) (v : Value) :
    (∀ w, t.cast type v = .ok w → t.conforms type w = true ∧ t.cast type w = .ok w) ∧
    (t.conforms type v = true → t.cast type v = .ok v) ∧
    ∀ n, v.integer? = some n →
      (∀ k : IntegerKind, type.core = k.valueType →
        ((∃ w, t.cast type v = .ok w) ↔ k.Holds n) ∧ ∀ w, t.cast type v = .ok w → w.integer? = some n) ∧
      (type.core = .float32 → ((∃ w, t.cast type v = .ok w) ↔ n.natAbs ≤ 2 ^ 24)) ∧
      (type.core = .float64 → ((∃ w, t.cast type v = .ok w) ↔ n.natAbs ≤ 2 ^ 53)) := by
  refine ⟨fun w hw => ?_, cast_of_conforms, fun n hn => ⟨fun k hk => cast_integer_of_kind hn hk,
    exists_cast_float32_iff hn, exists_cast_float64_iff hn⟩⟩
  have hconforms := conforms_of_cast hw
  exact ⟨hconforms, cast_of_conforms hconforms⟩

end TypeTable
end Reshape
