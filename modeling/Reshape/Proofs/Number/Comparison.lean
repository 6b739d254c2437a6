import Mathlib.Order.Basic

/-!
# Equality of floating-point numbers

Two numbers are equal if they differ in the sign of zero at most, and neither is the NaN
(`Number.beq_iff`).  So the comparison is symmetric and transitive, and a number equals itself unless it is
the NaN.
-/

namespace Reshape
namespace Number

open Float.Model

/-- A number with the sign of zero forgotten; the NaN is none. -/
def unsigned? : UnpackedFloat → Option UnpackedFloat
  | .notANumber => none
  | .zero _ => some (.zero .positive)
  | x => some x

/-- Finite numbers of one sign are compared by their exponents and then by their mantissas. -/
theorem order_eq_iff {e e' : Int} {m m' : Nat} :
    (some ((compare e e').then (compare m m')) == some .eq) = true ↔ e = e' ∧ m = m' := by
  rw [beq_iff_eq, Option.some_inj, Ordering.then_eq_eq, Std.compare_eq_iff_eq,
    Std.compare_eq_iff_eq]

theorem order_swap_eq_iff {e e' : Int} {m m' : Nat} :
    (some ((compare e e').then (compare m m')).swap == some .eq) = true ↔ e = e' ∧ m = m' := by
  rw [← order_eq_iff, beq_iff_eq, beq_iff_eq, Option.some_inj, Option.some_inj,
    Ordering.swap_eq_eq]

/-- Numbers are equal if they differ in the sign of zero at most. -/
theorem beq_iff {a b : UnpackedFloat} :
    a.beq b = true ↔ unsigned? a = unsigned? b ∧ unsigned? a ≠ none := by
  have hsame : ∀ {s m e hm m' e' hm'}, e = e' ∧ m = m' ↔
      unsigned? (.finite s m e hm) = unsigned? (.finite s m' e' hm') ∧
        unsigned? (.finite s m e hm) ≠ none := by
    intro s m e hm m' e' hm'
    constructor
    · rintro ⟨rfl, rfl⟩
      exact ⟨rfl, nofun⟩
    · rintro ⟨h, -⟩
      cases h
      exact ⟨rfl, rfl⟩
  cases a with
  | notANumber => exact iff_of_false nofun fun h => h.2 rfl
  | zero s =>
    cases b with
    | zero s' => exact iff_of_true rfl ⟨rfl, nofun⟩
    | finite s' | infinity s' => cases s' <;> exact iff_of_false nofun fun h => nomatch h.1
    | notANumber => exact iff_of_false nofun fun h => nomatch h.1
  | infinity s =>
    cases b with
    | infinity s' =>
      cases s <;> cases s' <;> first
        | exact iff_of_true rfl ⟨rfl, nofun⟩
        | exact iff_of_false nofun fun h => nomatch h.1
    | _ => cases s <;> exact iff_of_false nofun fun h => nomatch h.1
  | finite s m e =>
    cases b with
    | infinity s' => cases s' <;> exact iff_of_false nofun fun h => nomatch h.1
    | finite s' m' e' =>
      cases s <;> cases s' <;> first
        | exact order_eq_iff.trans hsame
        | exact order_swap_eq_iff.trans hsame
        | exact iff_of_false nofun fun h => nomatch h.1
    | _ => cases s <;> exact iff_of_false nofun fun h => nomatch h.1

theorem beq_symm {a b : UnpackedFloat} (h : a.beq b = true) : b.beq a = true := by
  rw [beq_iff] at h ⊢
  exact ⟨h.1.symm, h.1 ▸ h.2⟩

theorem beq_trans {a b c : UnpackedFloat} (h : a.beq b = true) (h' : b.beq c = true) :
    a.beq c = true := by
  rw [beq_iff] at h h' ⊢
  exact ⟨h.1.trans h'.1, h.2⟩

theorem beq_self {a : UnpackedFloat} : a.beq a = true ↔ a.isNaN = false := by
  rw [beq_iff]
  cases a with
  | notANumber => exact iff_of_false (fun h => h.2 rfl) nofun
  | _ => exact iff_of_true ⟨rfl, nofun⟩ rfl

theorem float32_symm {a b : Float32} (h : (a == b) = true) : (b == a) = true := beq_symm h

theorem float32_trans {a b c : Float32} (h : (a == b) = true) (h' : (b == c) = true) :
    (a == c) = true :=
  beq_trans h h'

theorem float32_self {a : Float32} : (a == a) = true ↔ a.isNaN = false := beq_self

theorem float64_symm {a b : Float} (h : (a == b) = true) : (b == a) = true := beq_symm h

theorem float64_trans {a b c : Float} (h : (a == b) = true) (h' : (b == c) = true) :
    (a == c) = true :=
  beq_trans h h'

theorem float64_self {a : Float} : (a == a) = true ↔ a.isNaN = false := beq_self

end Number
end Reshape
