import Reshape.Expr.Evaluation
import Reshape.Proofs.Conversion.Cast
import Reshape.Proofs.Store.Typing

/-!
# Results of operators

An arithmetic operator yields a value of the kind of its operands, or null if one of them is null: so
the result belongs to every type that the operands belong to (`Operator.conforms_apply`).  The other
operators yield truth values.
-/

namespace Reshape

section Kinds

variable {t : TypeTable}

/-! ## Kinds of values -/

/-- Values of one kind, among numbers and texts. -/
def Value.SameKind : Value → Value → Prop
  | .float32 _, .float32 _ | .float64 _, .float64 _ => True
  | .int32 _, .int32 _ | .int64 _, .int64 _ => True
  | .uint32 _, .uint32 _ | .uint64 _, .uint64 _ => True
  | .text _, .text _ => True
  | _, _ => False

/-- Types do not tell values of one kind apart. -/
theorem TypeTable.conforms_of_sameKind {type : ValueType} {v w : Value} (h : v.SameKind w)
    (hv : t.conforms type v = true) : t.conforms type w = true := by
  induction type with
  | any => exact conforms_any w
  | nullable inner ih =>
    cases v <;> cases w <;> simp only [Value.SameKind] at h <;> exact ih hv
  | _ =>
    cases v <;> cases w <;> simp only [Value.SameKind] at h <;>
      simp_all [conforms]

theorem Value.SameKind.refs {v w : Value} (h : v.SameKind w) : w.refs = [] := by
  cases v <;> cases w <;> simp only [Value.SameKind] at h <;> rfl

end Kinds

namespace Operator

variable {t : TypeTable} {s : Store}

/-! ## Arithmetic -/

/-- What an integer is converted to is of the kind of its type. -/
theorem sameKind_of_integers {n? : Option Int} {v w : Value} {type : ValueType} {e : Error}
    (h : (match n?.bind (Value.ofInteger? · type) with
      | some v => Except.ok v
      | none => .error e) = .ok w)
    (hv : ∀ n w, Value.ofInteger? n type = some w → v.SameKind w) : v.SameKind w := by
  split at h
  · rename_i w' hw'
    cases h
    obtain ⟨n, -, hn⟩ := Option.bind_eq_some_iff.1 hw'
    exact hv n _ hn
  · cases h

/-- An arithmetic operator yields a value of the kind of its operands. -/
theorem sameKind_arithmetic {op : Operator} {l r w : Value} (h : op.arithmetic l r = .ok w) :
    l.SameKind w := by
  unfold arithmetic at h
  simp only at h
  split at h
  case h_1 | h_2 | h_3 | h_4 =>
    refine sameKind_of_integers h fun n w hw => ?_
    obtain ⟨_, hw⟩ := Option.ite_none_right_eq_some.1 hw
    cases hw
    trivial
  case h_5 | h_6 =>
    cases h
    trivial
  case h_7 =>
    split at h
    · cases h
      trivial
    · cases h
  case h_8 => cases h

/-- Arithmetic looks for null first, and does not look at the store. -/
theorem apply_of_isArithmetic {op : Operator} (hop : op.isArithmetic = true) (s : Store) (l r : Value) :
    op.apply s l r = if l.isNull || r.isNull then .ok .null else op.arithmetic l r := by
  cases op <;> first | rfl | cases hop

/-- Arithmetic yields null, if an operand is null, or else a value of the kind of the operands. -/
theorem apply_arithmetic {op : Operator} (hop : op.isArithmetic = true) {l r w : Value}
    (h : op.apply s l r = .ok w) :
    w = .null ∧ (l = .null ∨ r = .null) ∨ l.SameKind w := by
  rw [apply_of_isArithmetic hop] at h
  split at h
  · rename_i hnull
    cases h
    refine .inl ⟨rfl, ?_⟩
    cases l <;> cases r <;> simp_all [Value.isNull]
  · exact .inr (sameKind_arithmetic h)

/-- Comparisons yield truth values. -/
theorem apply_comparison {op : Operator} (hop : op.isArithmetic = false) {l r w : Value}
    (h : op.apply s l r = .ok w) : ∃ b, w = .bool b := by
  cases op <;> cases hop <;> cases h <;> exact ⟨_, rfl⟩

/-- What an operator yields belongs to the operands' type if it is arithmetic, and is a truth value
otherwise. -/
theorem conforms_apply {op : Operator} {operand : ValueType} {l r w : Value}
    (h : op.apply s l r = .ok w) (hl : t.conforms operand l = true)
    (hr : t.conforms operand r = true) :
    t.conforms (if op.isArithmetic then operand else .bool) w = true ∧ w.refs = [] := by
  cases hop : op.isArithmetic with
  | true =>
    simp only [if_true]
    rcases apply_arithmetic hop h with ⟨rfl, rfl | rfl⟩ | hkind
    · exact ⟨hl, rfl⟩
    · exact ⟨hr, rfl⟩
    · exact ⟨TypeTable.conforms_of_sameKind hkind hl, hkind.refs⟩
  | false =>
    obtain ⟨b, rfl⟩ := apply_comparison hop h
    exact ⟨rfl, rfl⟩

end Operator

/-- An operator that is not logical evaluates both operands first. -/
theorem Machine.evaluate_strict (m : Machine) (scope : Scope) {op : Operator}
    (hop : op.isLogical = false) (lhs rhs : Expr) :
    m.evaluate scope (.binary op lhs rhs) = (do
      let l ← m.evaluate scope lhs
      let r ← m.evaluate scope rhs
      operate op l r) := by
  cases op with
  | and | or => cases hop
  | _ => rw [evaluate] <;> simp

end Reshape
