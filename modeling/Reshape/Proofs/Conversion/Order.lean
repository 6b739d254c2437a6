import Reshape.Proofs.Conversion.Cast
import Reshape.Proofs.Number.Widening

/-!
# Implicit conversions order the types

The implicit conversions are the derivations of `TypeTable.Converts`: equal types, anything to `any`, an
object to one of a base, a number to one of a wider type, a plain type into a nullable, and a nullable into a
nullable (`implicitRule?_isSome_iff`).  On derivations the order is plain to see.  Transitivity is an
induction on the second one, since a plain type is only ever reached from a plain type
(`Converts.isPlain`); antisymmetry is an induction on the first, since base chains run down the table and
nothing that a number is widened to is widened again.

A derivation says as well what the cast along it does.  It keeps the value, except that a number is written
in another format, and numbers of the formats that are widened stay apart (`castNumber?_injOn`).  A nullable
adds null to the values, which no other value is cast to (`eq_null_of_cast`).
-/

namespace Reshape

/-! ## Widening -/

/-- What a number is widened to is not widened again. -/
theorem ValueType.widensTo_widensTo {a b : ValueType} (c : ValueType) (h : a.widensTo b = true) :
    b.widensTo c = false := by
  cases a <;> cases b <;> first | rfl | cases h

theorem ValueType.isPlain_of_widensTo {a b : ValueType} (h : a.widensTo b = true) :
    a.isPlain = true ∧ b.isPlain = true ∧ b.isNumeric = true := by
  cases a <;> cases b <;> first | exact ⟨rfl, rfl, rfl⟩ | cases h

namespace Value

/-- An integer keeps its value in every integer type that has it. -/
theorem integer?_of_ofInteger? {n : Int} {target : ValueType} {w : Value}
    (ht : target.isInteger = true) (h : ofInteger? n target = some w) : w.integer? = some n := by
  cases target <;> simp only [ValueType.isInteger, Bool.false_eq_true] at ht
  all_goals
    obtain ⟨⟨hlow, hhigh⟩, h⟩ := Option.ite_none_right_eq_some.1 h
    cases h
  case int32 => exact congrArg some (Int32.toInt_ofInt_of_le hlow (by omega))
  case int64 => exact congrArg some (Int64.toInt_ofInt_of_le hlow (by omega))
  case uint32 =>
    rw [integer?, UInt32.toNat_ofNat', Nat.mod_eq_of_lt (by omega), Int.toNat_of_nonneg hlow]
  case uint64 =>
    rw [integer?, UInt64.toNat_ofNat', Nat.mod_eq_of_lt (by omega), Int.toNat_of_nonneg hlow]

/-- Integers of up to 53 bits are told apart in the wide formats. -/
theorem ofInteger?_inj {n n' : Int} {target : ValueType} {w : Value} (ht : target ≠ .float32)
    (hn : n.natAbs < 2 ^ 53) (hn' : n'.natAbs < 2 ^ 53) (h : ofInteger? n target = some w)
    (h' : ofInteger? n' target = some w) : n = n' := by
  by_cases hint : target.isInteger = true
  · exact Option.some.inj
      ((integer?_of_ofInteger? hint h).symm.trans (integer?_of_ofInteger? hint h'))
  · cases target <;> first | contradiction | skip
    obtain ⟨-, h⟩ := Option.ite_none_right_eq_some.1 h
    obtain ⟨-, h'⟩ := Option.ite_none_right_eq_some.1 h'
    obtain ⟨x, hx, rfl⟩ := Option.map_eq_some_iff.1 h
    obtain ⟨y, hy, heq⟩ := Option.map_eq_some_iff.1 h'
    obtain rfl : y = x := by simpa using heq
    exact Number.float64OfInt?_inj hn hn' hx hy

end Value

namespace TypeTable

variable {t : TypeTable}

/-- Different numbers of one type stay different when they are widened. -/
theorem castNumber?_injOn {a b : ValueType} (h : a.widensTo b = true) {v v' w : Value}
    (hv : t.conforms a v = true) (hv' : t.conforms a v' = true) (hw : v.castNumber? b = some w)
    (hw' : v'.castNumber? b = some w) : v = v' := by
  have hb : b ≠ .float32 := by
    rintro rfl
    cases a <;> cases h
  cases a <;> first | (cases b <;> cases h; done) | skip
  all_goals
    cases v <;> simp [conforms, ValueType.acceptsNull, ValueType.isPlain] at hv
    cases v' <;> simp [conforms, ValueType.acceptsNull, ValueType.isPlain] at hv'
  case float32.float32.float32 x y =>
    obtain rfl : b = .float64 := by cases b <;> first | rfl | cases h
    cases hw
    have hxy : Number.widen y = Number.widen x := by simpa [Value.castNumber?] using hw'
    rw [Number.widen_injective hxy]
  case int32.int32.int32 n n' =>
    have h₁ := n.le_toInt
    have h₂ := n.toInt_lt
    have h₁' := n'.le_toInt
    have h₂' := n'.toInt_lt
    have heq : n.toInt = n'.toInt := Value.ofInteger?_inj hb (by omega) (by omega) hw hw'
    rw [Int32.toInt_inj.1 heq]
  case uint32.uint32.uint32 n n' =>
    have hlt := n.toNat_lt
    have hlt' := n'.toNat_lt
    have heq : (n.toNat : Int) = n'.toNat := Value.ofInteger?_inj hb (by omega) (by omega) hw hw'
    rw [UInt32.toNat_inj.1 (Int.ofNat.inj heq)]

/-! ## The order -/

/-- What the implicit conversions are made of. -/
inductive Converts (t : TypeTable) : ValueType → ValueType → Prop where
  /-- The types agree. -/
  | refl (a : ValueType) : Converts t a a
  /-- Anything becomes `any`. -/
  | box (a : ValueType) : Converts t a .any
  /-- An object becomes one of a base. -/
  | upcast {derived base : TypeId} (h : t.isSubtype derived base = true) :
      Converts t (.object derived) (.object base)
  /-- A number becomes one of a type that holds more. -/
  | widen {a b : ValueType} (h : a.widensTo b = true) : Converts t a b
  /-- A plain value becomes nullable. -/
  | wrap {a b : ValueType} (hplain : a.isPlain = true) (h : Converts t a b) :
      Converts t a (.nullable b)
  /-- What is in a nullable is converted there. -/
  | lift {a b : ValueType} (h : Converts t a b) : Converts t (.nullable a) (.nullable b)

theorem Converts.of_implicitRule? {a b : ValueType} {rule : ConversionRule}
    (h : t.implicitRule? a b = some rule) : t.Converts a b := by
  induction b generalizing a rule with
  | any => exact .box a
  | nullable inner ih =>
    simp only [implicitRule?] at h
    split at h
    · rename_i heq
      exact heq ▸ .refl a
    · cases a with
      | nullable content =>
        obtain ⟨_, hr, -⟩ := Option.map_eq_some_iff.1 h
        exact .lift (ih hr)
      | _ =>
        obtain ⟨hplain, h⟩ := Option.ite_none_right_eq_some.1 h
        obtain ⟨_, hr, -⟩ := Option.map_eq_some_iff.1 h
        exact .wrap hplain (ih hr)
  | object base =>
    cases a <;> simp only [implicitRule?, reduceCtorEq] at h
    case object derived =>
      split at h
      · rename_i heq
        exact heq ▸ .refl _
      · exact .upcast (Option.ite_none_right_eq_some.1 h).1
  | blob | bool | float32 | float64 | int32 | int64 | list | text | uint32 | uint64 =>
    simp only [implicitRule?] at h
    split at h
    · rename_i heq
      exact heq ▸ .refl _
    · exact .widen (Option.ite_none_right_eq_some.1 h).1

theorem Converts.isSome {a b : ValueType} (h : t.Converts a b) :
    (t.implicitRule? a b).isSome = true := by
  induction h with
  | refl a => rw [implicitRule?_self]; rfl
  | box a => cases a <;> rfl
  | upcast h =>
    simp only [implicitRule?, h]
    split
    · rfl
    · rfl
  | @widen a b h =>
    cases a <;> cases b <;> first | rfl | cases h
  | @wrap a b hplain h ih =>
    simp only [implicitRule?]
    split
    · rfl
    · cases a <;> first | contradiction | exact Option.isSome_map.trans ih
  | lift h ih =>
    simp only [implicitRule?]
    split
    · rfl
    · exact Option.isSome_map.trans ih

/-- The implicit conversions are the derivations. -/
theorem implicitRule?_isSome_iff {a b : ValueType} :
    (t.implicitRule? a b).isSome = true ↔ t.Converts a b := by
  refine ⟨fun h => ?_, Converts.isSome⟩
  obtain ⟨rule, hr⟩ := Option.isSome_iff_exists.1 h
  exact .of_implicitRule? hr

namespace Converts

variable {a b c : ValueType}

/-- A plain type is reached from plain types only. -/
theorem isPlain (h : t.Converts a b) (hb : b.isPlain = true) : a.isPlain = true := by
  cases h with
  | refl => exact hb
  | widen h => exact (ValueType.isPlain_of_widensTo h).1
  | box | upcast | wrap | lift => cases hb

theorem trans (hab : t.Converts a b) (hbc : t.Converts b c) : t.Converts a c := by
  induction hbc generalizing a with
  | refl => exact hab
  | box => exact .box a
  | upcast hbase =>
    cases hab with
    | refl => exact .upcast hbase
    | upcast hsub => exact .upcast (isSubtype_trans hsub hbase)
    | widen h => cases (ValueType.isPlain_of_widensTo h).2.1
  | widen hwide =>
    cases hab with
    | refl => exact .widen hwide
    | widen h => cases (ValueType.widensTo_widensTo _ h).symm.trans hwide
    | box | upcast | wrap | lift => cases hwide
  | wrap hplain _ ih => exact .wrap (hab.isPlain hplain) (ih hab)
  | lift hbc ih =>
    cases hab with
    | refl => exact .lift hbc
    | widen h => cases (ValueType.isPlain_of_widensTo h).2.1
    | wrap hplain hab => exact .wrap hplain (ih hab)
    | lift hab => exact .lift (ih hab)

theorem antisymm (hab : t.Converts a b) (hba : t.Converts b a) : a = b := by
  induction hab with
  | refl => rfl
  | box a =>
    cases hba with
    | refl | box => rfl
    | widen h => cases (ValueType.isPlain_of_widensTo h).1
    | wrap hplain => cases hplain
  | upcast hsub =>
    cases hba with
    | refl => rfl
    | upcast hbase => rw [isSubtype_antisymm hsub hbase]
    | widen h => cases (ValueType.isPlain_of_widensTo h).1
  | widen hwide =>
    cases hba with
    | refl => rfl
    | widen h => cases (ValueType.widensTo_widensTo _ h).symm.trans hwide
    | box | upcast | wrap | lift => cases hwide
  | wrap hplain => cases hba.isPlain hplain
  | lift _ ih =>
    cases hba with
    | refl => rfl
    | widen h => cases (ValueType.isPlain_of_widensTo h).1
    | wrap hplain => cases hplain
    | lift hba => rw [ih hba]

end Converts

/-! ## Casts along the order -/

/-- Null comes from null alone. -/
theorem eq_null_of_cast {b : ValueType} {v : Value} (h : t.cast b v = .ok .null) : v = .null := by
  induction b with
  | any => exact Except.ok.inj h
  | nullable inner ih =>
    by_cases hv : v = .null
    · exact hv
    · rw [cast_nullable hv] at h
      exact ih h
  | list element =>
    cases v <;> simp only [cast, reduceCtorEq] at h
    case null => rfl
    case list items _ =>
      cases hm : items.mapM (t.cast element) <;> rw [hm] at h <;> cases h
  | object expected =>
    cases v <;> simp only [cast, reduceCtorEq] at h
    case null => rfl
    case object ref => split at h <;> cases h
  | blob | text =>
    cases v <;> first | rfl | cases h
  | bool | float32 | float64 | int32 | int64 | uint32 | uint64 =>
    cases conforms_of_cast h

theorem ne_null_of_isPlain {a : ValueType} (ha : a.isPlain = true) {v : Value}
    (hv : t.conforms a v = true) : v ≠ .null := by
  rintro rfl
  simp [ValueType.acceptsNull, ha] at hv

theorem eq_of_cast_eq {b : ValueType} {v v' w : Value} (hv : t.conforms b v = true)
    (hv' : t.conforms b v' = true) (hw : t.cast b v = .ok w) (hw' : t.cast b v' = .ok w) : v = v' := by
  rw [cast_of_conforms hv] at hw
  rw [cast_of_conforms hv'] at hw'
  exact Except.ok.inj (hw.trans hw'.symm)

/-- **Casts along implicit conversions keep values apart.**  By induction on the derivation; only widening
changes a value, and null comes from null alone. -/
theorem Converts.cast_injOn {a b : ValueType} (h : t.Converts a b) {v v' w : Value}
    (hv : t.conforms a v = true) (hv' : t.conforms a v' = true) (hw : t.cast b v = .ok w)
    (hw' : t.cast b v' = .ok w) : v = v' := by
  induction h generalizing w with
  | refl => exact eq_of_cast_eq hv hv' hw hw'
  | box => exact eq_of_cast_eq (conforms_any v) (conforms_any v') hw hw'
  | upcast hsub => exact eq_of_cast_eq (conforms_upcast hsub hv) (conforms_upcast hsub hv') hw hw'
  | widen hwide =>
    have hb := (ValueType.isPlain_of_widensTo hwide).2.2
    exact castNumber?_injOn hwide hv hv' (castNumber?_of_cast hb hw) (castNumber?_of_cast hb hw')
  | wrap hplain _ ih =>
    rw [cast_nullable (ne_null_of_isPlain hplain hv)] at hw
    rw [cast_nullable (ne_null_of_isPlain hplain hv')] at hw'
    exact ih hv hv' hw hw'
  | lift _ ih =>
    by_cases hnull : v = .null
    · subst hnull
      cases hw
      exact (eq_null_of_cast hw').symm
    · have hnull' : v' ≠ .null := by
        rintro rfl
        cases hw'
        exact hnull (eq_null_of_cast hw)
      rw [conforms_nullable hnull] at hv
      rw [conforms_nullable hnull'] at hv'
      rw [cast_nullable hnull] at hw
      rw [cast_nullable hnull'] at hw'
      exact ih hv hv' hw hw'

/-- **Implicit conversion is a partial order of the types, and loses nothing.**  Along it every value of the
first type is cast to one of the second, and different values are cast to different ones. -/
theorem implicit_order (t : TypeTable) :
    (∀ a, (t.classify a a .implicit).isSome = true) ∧
    (∀ a b c, (t.classify a b .implicit).isSome = true → (t.classify b c .implicit).isSome = true →
      (t.classify a c .implicit).isSome = true) ∧
    (∀ a b, (t.classify a b .implicit).isSome = true → (t.classify b a .implicit).isSome = true →
      a = b) ∧
    ∀ a b, (t.classify a b .implicit).isSome = true →
      (∀ v, t.conforms a v = true → ∃ w, t.cast b v = .ok w ∧ t.conforms b w = true) ∧
      ∀ v v', t.conforms a v = true → t.conforms a v' = true → v ≠ v' → t.cast b v ≠ t.cast b v' := by
  simp only [classify, implicitRule?_isSome_iff]
  refine ⟨.refl, fun _ _ _ => Converts.trans, fun _ _ => Converts.antisymm, fun a b h => ?_⟩
  obtain ⟨rule, hrule⟩ := Option.isSome_iff_exists.1 h.isSome
  refine ⟨fun v hv => ?_, fun v v' hv hv' hne heq => ?_⟩
  · obtain ⟨w, hw⟩ := cast_of_implicitRule? hrule hv
    exact ⟨w, hw, conforms_of_cast hw⟩
  · obtain ⟨w, hw⟩ := cast_of_implicitRule? hrule hv
    exact hne (h.cast_injOn hv hv' hw (heq ▸ hw))

/-- Animals, and dogs that derive from them. -/
def kennel : TypeTable :=
  ⟨[{ (default : TypeModel) with name := "Dog", base? := some 0 },
    { (default : TypeModel) with name := "Animal" }]⟩

/-- A nullable dog is a nullable animal and that is anything, a dog is cast to an animal, and a number and its
negative stay apart when they are widened into a nullable. -/
theorem implicit_order_kennel :
    (kennel.classify (.nullable (.object 1)) .any .implicit).isSome = true ∧
    (∃ w, kennel.cast (.object 0) (.object ⟨3, 1⟩) = .ok w ∧ kennel.conforms (.object 0) w = true) ∧
    kennel.cast (.nullable .float64) (.int32 (-7)) ≠ kennel.cast (.nullable .float64) (.int32 7) := by
  obtain ⟨-, htrans, -, hlossless⟩ := implicit_order kennel
  refine ⟨htrans _ (.nullable (.object 0)) _ (by decide) (by decide), ?_, ?_⟩
  · exact (hlossless (.object 1) (.object 0) (by decide)).1 _ (by decide)
  · exact (hlossless .int32 (.nullable .float64) (by decide)).2 _ _ rfl rfl (by decide)

end TypeTable
end Reshape
