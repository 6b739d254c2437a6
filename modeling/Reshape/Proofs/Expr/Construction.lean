import Reshape.Expr.Build
import Reshape.Proofs.Expr.Typing
import Reshape.Proofs.Store.Typing

/-!
# Checked constructors make well-typed expressions

Each checked constructor makes a well-typed expression from well-typed parts, of the type that it is
asked for: a conversion yields its target type (`Expr.typed_convertTo`), arguments get the types of
their parameters (`Expr.typed_bindArguments`), and so on, one lemma for each constructor.
-/

namespace Reshape

namespace TypeTable

variable {t : TypeTable}

/-! ## Literals -/

/-- Every object that a value refers to is an instance of a declared type. -/
def Holds (t : TypeTable) (v : Value) : Prop :=
  ∀ ref ∈ v.refs, ref.type < t.size

/-- A literal belongs to its natural type. -/
theorem conforms_naturalType? {v : Value} (hv : t.Holds v) {type : ValueType}
    (h : t.naturalType? v = some type) : t.conforms type v = true := by
  cases v with
  | list items =>
    cases items with
    | nil =>
      cases h
      simp [conforms]
    | cons first rest =>
      simp only [naturalType?] at h
      split at h
      · split at h
        · rename_i hall
          cases h
          simpa only [conforms] using hall
        · cases h
          simp [conforms]
      · cases h
        simp [conforms]
  | object ref =>
    cases h
    simp only [conforms]
    exact isSubtype_refl (hv ref (by simp [Value.refs]))
  | null => cases h
  | blob | bool | float32 | float64 | int32 | int64 | text | uint32 | uint64 =>
    cases h
    rfl

/-! ## Rules -/

/-- The identity is the rule between equal types only. -/
theorem eq_of_classify_identity {source target : ValueType} {kind : ConversionKind}
    (h : t.classify source target kind = some .identity) : source = target := by
  cases kind with
  | implicit => exact eq_of_implicitRule?_identity h
  | explicit => exact eq_of_explicitRule?_identity h

end TypeTable

namespace Expr

variable {t : TypeTable} {c : Context}

theorem typed_literal {v : Value} (hv : t.Holds v) : Typed t c (literal t v) := by
  refine each_constant.2 ?_
  cases h : t.naturalType? v with
  | none => exact TypeTable.conforms_any v
  | some type => exact TypeTable.conforms_naturalType? hv h

/-- A typed literal is the cast of its value. -/
theorem typedLiteral_eq_ok {v : Value} {type : ValueType} {e : Expr} :
    typedLiteral t v type = .ok e ↔ ∃ w, t.cast type v = .ok w ∧ e = .constant w type := by
  unfold typedLiteral TypeTable.convertConstant
  cases hcast : t.cast type v with
  | error cause => exact ⟨fun h => (by cases h), fun ⟨_, h, _⟩ => (by cases h)⟩
  | ok w =>
    constructor
    · intro h
      cases h
      exact ⟨w, rfl, rfl⟩
    · rintro ⟨_, h, rfl⟩
      cases h
      rfl

theorem typed_typedLiteral {v : Value} {type : ValueType} {e : Expr}
    (h : typedLiteral t v type = .ok e) : Typed t c e ∧ e.type = type := by
  obtain ⟨w, hcast, rfl⟩ := typedLiteral_eq_ok.1 h
  exact ⟨each_constant.2 (TypeTable.conforms_of_cast hcast), rfl⟩

theorem typed_zero (type : ValueType) : Typed t c (zero type) := each_zero.2 trivial

theorem typed_parameter (place : Nat) (type : ValueType) : Typed t c (parameter place type) :=
  each_parameter.2 trivial

/-! ## Conversions -/

theorem typed_convert {rule : ConversionRule} {e : Expr} (he : Typed t c e) (target : ValueType) :
    Typed t c (convert rule e target) :=
  each_convert.2 ⟨trivial, he⟩

theorem type_convertBy {e : Expr} {target : ValueType} {kind : ConversionKind}
    {rule : ConversionRule} (h : t.classify e.type target kind = some rule) :
    (convertBy t rule e target).type = target := by
  unfold convertBy
  split
  · exact TypeTable.eq_of_classify_identity h
  · split <;> rfl
  · rfl

theorem typed_convertBy {rule : ConversionRule} {e : Expr} (he : Typed t c e) (target : ValueType) :
    Typed t c (convertBy t rule e target) := by
  unfold convertBy
  split
  · exact he
  · split
    · rename_i w hcast
      exact each_constant.2 (TypeTable.conforms_of_cast hcast)
    · exact typed_convert he target
  · exact typed_convert he target

/-- A conversion is by the rule for the types. -/
theorem convertTo_eq_ok {e e' : Expr} {kind : ConversionKind} {target : ValueType}
    (h : e.convertTo t kind target = .ok e') : ∃ rule,
      t.classify e.type target kind = some rule ∧ e' = convertBy t rule e target := by
  unfold convertTo at h
  split at h
  · rename_i rule hrule
    cases h
    exact ⟨rule, hrule, rfl⟩
  · cases h

/-- A conversion yields its target type. -/
theorem type_convertTo {e e' : Expr} {kind : ConversionKind} {target : ValueType}
    (h : e.convertTo t kind target = .ok e') : e'.type = target := by
  obtain ⟨rule, hrule, rfl⟩ := convertTo_eq_ok h
  exact type_convertBy hrule

theorem type_coerce {e e' : Expr} {target : ValueType} (h : e.coerce t target = .ok e') :
    e'.type = target :=
  type_convertTo h

theorem type_castTo {e e' : Expr} {target : ValueType} (h : e.castTo t target = .ok e') :
    e'.type = target :=
  type_convertTo h

/-- Converting to the type that an expression has leaves it as it is. -/
theorem coerce_self (t : TypeTable) (e : Expr) : e.coerce t e.type = .ok e := by
  have hrule : t.classify e.type e.type .implicit = some .identity :=
    TypeTable.implicitRule?_self e.type
  simp only [coerce, convertTo, hrule]
  rfl

theorem typed_convertTo {e e' : Expr} (he : Typed t c e) {kind : ConversionKind}
    {target : ValueType} (h : e.convertTo t kind target = .ok e') :
    Typed t c e' ∧ e'.type = target := by
  obtain ⟨rule, hrule, rfl⟩ := convertTo_eq_ok h
  exact ⟨typed_convertBy he target, type_convertBy hrule⟩

theorem typed_coerce {e e' : Expr} (he : Typed t c e) {target : ValueType}
    (h : e.coerce t target = .ok e') : Typed t c e' ∧ e'.type = target :=
  typed_convertTo he h

/-! ## Operators -/

/-- Operands are converted to a type that the operator takes. -/
theorem takes_operandType {op : Operator} {lhs rhs operand : ValueType}
    (h : t.operandType op lhs rhs = .ok operand) : op.Takes operand := by
  unfold TypeTable.operandType at h
  by_cases hop : op.isLogical = true
  · rw [if_pos hop] at h
    split at h
    · cases h
      exact ⟨fun _ => rfl, fun ha => by cases op <;> simp [Operator.isLogical, Operator.isArithmetic] at *⟩
    · cases h
  · rw [if_neg hop] at h
    refine ⟨fun hl => absurd hl hop, fun ha => ?_⟩
    split at h
    · cases h
    · simp only at h
      split at h
      · rename_i hdefined
        cases h
        cases op <;> simp_all [Operator.isEquality, Operator.isOrdering, Operator.isArithmetic]
      · cases h

/-- An operator is applied to its operands, converted to the operand type. -/
theorem mkBinary_eq_ok {op : Operator} {lhs rhs e : Expr} :
    mkBinary t op lhs rhs = .ok e ↔ ∃ operand l r, t.operandType op lhs.type rhs.type = .ok operand ∧
      lhs.coerce t operand = .ok l ∧ rhs.coerce t operand = .ok r ∧ e = .binary op l r := by
  constructor
  · intro h
    obtain ⟨operand, hoperand, h⟩ := bind_eq_ok.1 h
    obtain ⟨l, hl, h⟩ := bind_eq_ok.1 h
    obtain ⟨r, hr, h⟩ := bind_eq_ok.1 h
    cases h
    exact ⟨operand, l, r, hoperand, hl, hr, rfl⟩
  · rintro ⟨operand, l, r, hoperand, hl, hr, rfl⟩
    exact bind_eq_ok.2 ⟨operand, hoperand, bind_eq_ok.2 ⟨l, hl, bind_eq_ok.2 ⟨r, hr, rfl⟩⟩⟩

theorem typed_mkBinary {op : Operator} {lhs rhs e : Expr} (hl : Typed t c lhs) (hr : Typed t c rhs)
    (h : mkBinary t op lhs rhs = .ok e) : Typed t c e := by
  obtain ⟨operand, lhs', rhs', hoperand, hlhs, hrhs, rfl⟩ := mkBinary_eq_ok.1 h
  obtain ⟨hl', hltype⟩ := typed_coerce hl hlhs
  obtain ⟨hr', hrtype⟩ := typed_coerce hr hrhs
  refine each_binary.2 ⟨⟨hltype.trans hrtype.symm, ?_⟩, hl', hr'⟩
  rw [hltype]
  exact takes_operandType hoperand

theorem type_of_expectBool {e : Expr} {what : String} (h : e.expectBool what = .ok ()) :
    e.type = .bool := by
  unfold expectBool at h
  split at h
  · assumption
  · cases h

theorem typed_mkNegate {operand e : Expr} (ho : Typed t c operand)
    (h : mkNegate operand = .ok e) : Typed t c e := by
  obtain ⟨_, hbool, h⟩ := bind_eq_ok.1 h
  cases h
  exact each_negate.2 ⟨type_of_expectBool hbool, ho⟩

theorem typed_mkConditional {test thenExpr otherwise e : Expr} (ht : Typed t c test)
    (h₁ : Typed t c thenExpr) (h₂ : Typed t c otherwise)
    (h : mkConditional t test thenExpr otherwise = .ok e) : Typed t c e := by
  obtain ⟨_, hbool, h⟩ := bind_eq_ok.1 h
  split at h
  · cases h
  · obtain ⟨a, ha, h⟩ := bind_eq_ok.1 h
    obtain ⟨b, hb, h⟩ := bind_eq_ok.1 h
    cases h
    obtain ⟨ha', hatype⟩ := typed_coerce h₁ ha
    obtain ⟨hb', hbtype⟩ := typed_coerce h₂ hb
    exact each_conditional.2
      ⟨⟨type_of_expectBool hbool, hatype.trans hbtype.symm⟩, ht, ha', hb'⟩

/-! ## Scopes and lists -/

theorem typed_mkSequence {es : List Expr} {e : Expr} (hes : ∀ e ∈ es, Typed t c e)
    (h : mkSequence es = .ok e) : Typed t c e := by
  unfold mkSequence at h
  split at h
  · rename_i last hlast
    cases h
    refine each_sequence.2 ⟨trivial, fun e he => hes e (List.mem_of_mem_dropLast he), ?_⟩
    exact hes last (List.mem_of_getLast? hlast)
  · cases h

theorem typed_mkIndex {list e : Expr} {position : Nat} (hl : Typed t c list)
    (h : mkIndex list position = .ok e) : Typed t c e := by
  unfold mkIndex at h
  split at h
  · rename_i element helement
    cases h
    exact each_index.2 ⟨⟨element, helement⟩, hl⟩
  · cases h

/-! ## Members -/

/-- A receiver is converted by the rule for its type and the owner of the member. -/
theorem upcastReceiver_eq_ok {receiver e : Expr} {owner : TypeId} {member : String}
    (h : upcastReceiver t receiver owner member = .ok e) : ∃ rule,
      t.classify receiver.type (.object owner) .implicit = some rule ∧
        e = convertBy t rule receiver (.object owner) := by
  unfold upcastReceiver at h
  split at h
  · rename_i rule hrule
    cases h
    exact ⟨rule, hrule, rfl⟩
  · cases h

theorem type_upcastReceiver {receiver e : Expr} {owner : TypeId} {member : String}
    (h : upcastReceiver t receiver owner member = .ok e) : e.type = .object owner := by
  obtain ⟨rule, hrule, rfl⟩ := upcastReceiver_eq_ok h
  exact type_convertBy hrule

theorem typed_upcastReceiver {receiver e : Expr} {owner : TypeId} {member : String}
    (hr : Typed t c receiver) (h : upcastReceiver t receiver owner member = .ok e) :
    Typed t c e := by
  obtain ⟨rule, -, rfl⟩ := upcastReceiver_eq_ok h
  exact typed_convertBy hr _

theorem typed_bindReceiver {receiver bound : Option Expr} {owner : TypeId} {isStatic : Bool}
    {member : String} (hr : ∀ e, receiver = some e → Typed t c e)
    (h : bindReceiver t receiver owner isStatic member = .ok bound) :
    (∀ e, bound = some e → Typed t c e) ∧ ReceiverTyped owner isStatic bound := by
  unfold bindReceiver at h
  split at h
  · cases h
    exact ⟨fun e he => (by cases he), rfl⟩
  · cases h
  · cases h
  · rename_i e
    obtain ⟨e', he', rfl⟩ := map_eq_ok.1 h
    refine ⟨fun e he => ?_, rfl, type_upcastReceiver he'⟩
    cases he
    exact typed_upcastReceiver (hr _ rfl) he'

/-- A receiver that fits its member is bound as it is. -/
theorem bindReceiver_self {receiver : Option Expr} {owner : TypeId} {isStatic : Bool}
    (h : ReceiverTyped owner isStatic receiver) (name : String) :
    bindReceiver t receiver owner isStatic name = .ok receiver := by
  cases receiver with
  | none =>
    have hstatic : isStatic = true := h
    rw [hstatic]
    rfl
  | some e =>
    obtain ⟨hstatic, htype⟩ := h
    obtain ⟨rule, hrule, heq⟩ := convertTo_eq_ok (coerce_self t e)
    rw [htype] at hrule heq
    simp only [bindReceiver, hstatic, upcastReceiver, htype, hrule, ← heq]
    rfl

theorem typed_mkFieldGet {receiver : Option Expr} {f : FieldRef} {e : Expr}
    (hr : ∀ e, receiver = some e → Typed t c e) (hf : t.HasField f)
    (h : mkFieldGet t receiver f = .ok e) : Typed t c e := by
  obtain ⟨bound, hbound, h⟩ := bind_eq_ok.1 h
  cases h
  obtain ⟨htyped, hreceiver⟩ := typed_bindReceiver hr hbound
  exact each_fieldGet.2 ⟨⟨hf, hreceiver⟩, htyped⟩

theorem typed_mkFieldSet {receiver : Option Expr} {f : FieldRef} {value e : Expr}
    (hr : ∀ e, receiver = some e → Typed t c e) (hf : t.HasField f) (hv : Typed t c value)
    (h : mkFieldSet t receiver f value = .ok e) : Typed t c e := by
  unfold mkFieldSet at h
  split at h
  · cases h
  · rename_i hinit
    obtain ⟨bound, hbound, h⟩ := bind_eq_ok.1 h
    obtain ⟨w, hw, h⟩ := bind_eq_ok.1 h
    cases h
    obtain ⟨htyped, hreceiver⟩ := typed_bindReceiver hr hbound
    obtain ⟨hwtyped, hwtype⟩ := typed_coerce hv hw
    refine each_fieldSet.2 ⟨⟨hf, hreceiver, hwtype, ?_⟩, htyped, hwtyped⟩
    exact Bool.eq_false_iff.2 hinit

theorem typed_mkWritePrimitive {receiver : Option Expr} {f : FieldRef} {value e : Expr}
    (hr : ∀ e, receiver = some e → Typed t c e) (hf : t.HasField f) (hv : Typed t c value)
    (h : mkWritePrimitive t f receiver value = .ok e) : Typed t c e := by
  obtain ⟨bound, hbound, h⟩ := bind_eq_ok.1 h
  obtain ⟨w, hw, h⟩ := bind_eq_ok.1 h
  cases h
  obtain ⟨htyped, hreceiver⟩ := typed_bindReceiver hr hbound
  obtain ⟨hwtyped, hwtype⟩ := typed_coerce hv hw
  exact each_writePrimitive.2 ⟨⟨hf, hreceiver, hwtype⟩, htyped, hwtyped⟩

/-- Navigation reads a readable instance member of a converted receiver. -/
theorem mkNavigate_eq_ok {receiver e : Expr} {m : MemberRef}
    (h : mkNavigate t receiver m = .ok e) : m.isStatic = false ∧ m.isReadable = true ∧
      ∃ bound, upcastReceiver t receiver m.owner m.name = .ok bound ∧ e = navigate bound m := by
  simp only [mkNavigate] at h
  by_cases hstatic : m.isStatic = true
  · rw [if_pos hstatic] at h
    cases h
  · rw [if_neg hstatic] at h
    by_cases hreadable : (!m.isReadable) = true
    · rw [if_pos hreadable] at h
      cases h
    · rw [if_neg hreadable] at h
      obtain ⟨bound, hbound, h⟩ := bind_eq_ok.1 h
      cases h
      exact ⟨by simpa using hstatic, by simpa using hreadable, bound, hbound, rfl⟩

theorem typed_mkNavigate {receiver e : Expr} {m : MemberRef} (hr : Typed t c receiver)
    (hm : t.HasMember m) (h : mkNavigate t receiver m = .ok e) : Typed t c e := by
  obtain ⟨hstatic, hreadable, bound, hbound, rfl⟩ := mkNavigate_eq_ok h
  exact each_navigate.2 ⟨⟨hm, hstatic, hreadable, type_upcastReceiver hbound⟩,
    typed_upcastReceiver hr hbound⟩

/-- What is read may be null. -/
theorem type_mkNavigate {receiver e : Expr} {m : MemberRef}
    (h : mkNavigate t receiver m = .ok e) : e.type = m.type.orNull := by
  obtain ⟨-, -, bound, -, rfl⟩ := mkNavigate_eq_ok h
  rfl

/-! ## Arguments -/

/-- Arguments of their parameters' types are taken as they are, also if more parameters follow. -/
theorem coerceArguments_append {callee : String} {parameters : List Parameter} {es : List Expr}
    (h : List.Forall₂ (fun p e => e.type = p.type) parameters es) (more : List Parameter) :
    coerceArguments t callee (parameters ++ more) es = .ok es := by
  induction h with
  | nil => cases more <;> rfl
  | @cons p e parameters es hpe _ ih =>
    have hself : e.coerce t p.type = .ok e := by
      rw [← hpe]
      exact coerce_self t e
    rw [List.cons_append, coerceArguments, hself]
    simp only [ih]
    rfl

/-- Arguments are bound if there are enough and not too many of them, what was given is converted and what was
left out has something to stand in. -/
theorem bindArguments_eq_ok {callee : String} {parameters : List Parameter} {args es : List Expr} :
    bindArguments t parameters args callee = .ok es ↔
      (parameters.countP (!·.isOptional) ≤ args.length ∧ args.length ≤ parameters.length) ∧
        ∃ given defaults, coerceArguments t callee parameters args = .ok given ∧
          defaultArguments t (parameters.drop args.length) = .ok defaults ∧ es = given ++ defaults := by
  simp only [bindArguments]
  by_cases hcount : args.length < parameters.countP (!·.isOptional) ∨ parameters.length < args.length
  · rw [if_pos hcount]
    constructor
    · intro h
      cases h
    · rintro ⟨hcount', -⟩
      omega
  · rw [if_neg hcount]
    constructor
    · intro h
      obtain ⟨given, hgiven, h⟩ := bind_eq_ok.1 h
      obtain ⟨defaults, hdefaults, h⟩ := bind_eq_ok.1 h
      cases h
      exact ⟨by omega, given, defaults, hgiven, hdefaults, rfl⟩
    · rintro ⟨-, given, defaults, hgiven, hdefaults, rfl⟩
      exact bind_eq_ok.2 ⟨given, hgiven, bind_eq_ok.2 ⟨defaults, hdefaults, rfl⟩⟩

/-- Given arguments are converted to the types of the first parameters. -/
theorem forall₂_coerceArguments {callee : String} {parameters : List Parameter} {args es : List Expr}
    (h : coerceArguments t callee parameters args = .ok es) :
    List.Forall₂ (fun p e => ∃ a ∈ args, a.coerce t p.type = .ok e) (parameters.take args.length) es := by
  induction parameters generalizing args es with
  | nil => cases args <;> cases h <;> simp
  | cons p parameters ih =>
    cases args with
    | nil =>
      cases h
      simp
    | cons arg args =>
      simp only [coerceArguments] at h
      split at h
      · cases h
      · rename_i e he
        obtain ⟨rest, hrest, rfl⟩ := map_eq_ok.1 h
        refine .cons ⟨arg, List.mem_cons_self .., he⟩ ((ih hrest).imp ?_)
        rintro q e' ⟨a, ha, hc⟩
        exact ⟨a, List.mem_cons_of_mem _ ha, hc⟩

/-- Defaults are literals of the types of their parameters. -/
theorem forall₂_defaultArguments {parameters : List Parameter} {es : List Expr}
    (h : defaultArguments t parameters = .ok es) :
    List.Forall₂ (fun p e => ∃ v, typedLiteral t v p.type = .ok e) parameters es := by
  induction parameters generalizing es with
  | nil =>
    cases h
    exact .nil
  | cons p parameters ih =>
    simp only [defaultArguments] at h
    split at h
    · cases h
    · rename_i e he
      obtain ⟨rest, hrest, rfl⟩ := map_eq_ok.1 h
      exact .cons ⟨_, he⟩ (ih hrest)

/-- What is bound to a parameter is a given argument converted to its type, or a literal of the type. -/
theorem forall₂_bindArguments {callee : String} {parameters : List Parameter} {args es : List Expr}
    (h : bindArguments t parameters args callee = .ok es) :
    List.Forall₂ (fun p e => (∃ a ∈ args, a.coerce t p.type = .ok e) ∨ ∃ v, typedLiteral t v p.type = .ok e)
      parameters es := by
  obtain ⟨-, given, defaults, hgiven, hdefaults, rfl⟩ := bindArguments_eq_ok.1 h
  rw [← List.take_append_drop args.length parameters]
  exact List.rel_append ((forall₂_coerceArguments hgiven).imp fun _ _ => .inl)
    ((forall₂_defaultArguments hdefaults).imp fun _ _ => .inr)

/-- Bound arguments have the types of the parameters, one each. -/
theorem typed_bindArguments {callee : String} {parameters : List Parameter} {args es : List Expr}
    (ha : ∀ e ∈ args, Typed t c e) (h : bindArguments t parameters args callee = .ok es) :
    (∀ e ∈ es, Typed t c e) ∧ es.map type = parameters.map (·.type) := by
  have hbound := forall₂_bindArguments h
  refine ⟨fun e he => ?_, map_eq_of_forall₂ hbound fun p e hpe => ?_⟩
  · obtain ⟨p, -, ⟨a, hmem, hconverted⟩ | ⟨v, hliteral⟩⟩ := exists_of_mem_forall₂ hbound he
    · exact (typed_coerce (ha a hmem) hconverted).1
    · exact (typed_typedLiteral hliteral).1
  · rcases hpe with ⟨a, -, hconverted⟩ | ⟨v, hliteral⟩
    · exact type_coerce hconverted
    · exact (typed_typedLiteral (c := c) hliteral).2

theorem typed_mkCall {receiver : Option Expr} {r : MethodRef} {args : List Expr} {e : Expr}
    (hr : ∀ e, receiver = some e → Typed t c e) (hm : t.HasMethod r)
    (ha : ∀ e ∈ args, Typed t c e) (h : mkCall t receiver r args = .ok e) : Typed t c e := by
  obtain ⟨bound, hbound, h⟩ := bind_eq_ok.1 h
  obtain ⟨es, hes, h⟩ := bind_eq_ok.1 h
  cases h
  obtain ⟨htyped, hreceiver⟩ := typed_bindReceiver hr hbound
  obtain ⟨hestyped, hestype⟩ := typed_bindArguments ha hes
  exact each_call.2 ⟨⟨hm, hreceiver, hestype⟩, htyped, hestyped⟩

theorem typed_mkConstruct {r : ConstructorRef} {args : List Expr} {e : Expr}
    (hc : t.HasConstructor r) (ha : ∀ e ∈ args, Typed t c e)
    (h : mkConstruct t r args = .ok e) : Typed t c e := by
  obtain ⟨es, hes, h⟩ := bind_eq_ok.1 h
  cases h
  obtain ⟨hestyped, hestype⟩ := typed_bindArguments ha hes
  exact each_construct.2 ⟨⟨hc, hestype⟩, hestyped⟩

/-! ## Member initialisation -/

theorem typed_bindMember {object : TypeId} {target : AssignTarget} {value : Expr}
    {bound : AssignTarget × Expr} (ht : t.HasTarget target) (hv : Typed t c value)
    (h : bindMember t object target value = .ok bound) :
    Typed t c bound.2 ∧ TargetTyped t object bound.1 bound.2.type := by
  obtain ⟨⟨owner, memberType, name⟩, hparts, h⟩ := bind_eq_ok.1 h
  simp only at h
  cases hsub : t.isSubtype object owner with
  | false =>
    rw [if_pos (by simp [hsub])] at h
    cases h
  | true =>
    rw [if_neg (by simp [hsub])] at h
    obtain ⟨e, he, h⟩ := bind_eq_ok.1 h
    cases h
    obtain ⟨hetyped, hetype⟩ := typed_coerce hv he
    exact ⟨hetyped, ht, owner, name, by rw [hparts, hetype], hsub⟩

theorem typed_mkMemberInit {object e : Expr} {bindings : List (AssignTarget × Expr)}
    (ho : Typed t c object) (ht : ∀ b ∈ bindings, t.HasTarget b.1)
    (hv : ∀ b ∈ bindings, Typed t c b.2) (h : mkMemberInit t object bindings = .ok e) :
    Typed t c e := by
  unfold mkMemberInit at h
  split at h
  · rename_i type htype
    obtain ⟨bound, hbound, h⟩ := bind_eq_ok.1 h
    cases h
    have hall : ∀ b ∈ bound, Typed t c b.2 ∧ TargetTyped t type b.1 b.2.type := by
      intro b hb
      obtain ⟨b₀, hb₀, heq⟩ := exists_of_mem_forall₂ (mapM_eq_ok.1 hbound) hb
      exact typed_bindMember (ht b₀ hb₀) (hv b₀ hb₀) heq
    exact each_memberInit.2
      ⟨⟨type, htype, fun b hb => (hall b hb).2⟩, ho, fun b hb => (hall b hb).1⟩
  · cases h

end Expr
end Reshape
