import Reshape.Proofs.Expr.Integers
import Reshape.Proofs.Expr.Preservation
import Reshape.Proofs.Expr.Running
import Reshape.Proofs.Expr.Unification

/-!
# Expressions of integers

An expression of integers is built from literals and parameters of the integer types by arithmetic, conversions
and casts, and may be compared with another one in the end.  Over unbounded integers and null it has an exact
result, unless a result does not fit the type of its node, there is no quotient, or a cast meets what its type
does not have.  Evaluating what was built comes to the same result, and fails where there is none: node by node,
the outcome follows the exact one (`IntegerTree.evaluates_build`).
-/

namespace Reshape

/-! ## Expressions of integers -/

/-- An expression whose value is an integer, or null. -/
inductive IntegerTree where
  /-- A literal of the type of its value. -/
  | literal (k : IntegerKind) (n : Int) (h : k.Holds n)
  /-- A literal converted to a type. -/
  | typedLiteral (v : Value) (type : IntegerType)
  /-- A reference to a parameter. -/
  | parameter (place : Nat) (type : IntegerType)
  /-- An arithmetic operator. -/
  | arithmetic (op : Arithmetic) (lhs rhs : IntegerTree)
  /-- An implicit conversion. -/
  | convert (operand : IntegerTree) (target : IntegerType)
  /-- An explicit conversion. -/
  | cast (operand : IntegerTree) (target : IntegerType)

namespace IntegerTree

/-- The type of the value. -/
def type : IntegerTree → IntegerType
  | literal k _ _ => ⟨k, false⟩
  | typedLiteral _ type | parameter _ type => type
  | arithmetic _ lhs rhs => lhs.type.join rhs.type
  | convert _ target | cast _ target => target

/-- The expression, if it can be built. -/
def build (t : TypeTable) : IntegerTree → Except Error Expr
  | literal k n _ => .ok (.literal t (k.value n))
  | typedLiteral v type => Expr.typedLiteral t v type.valueType
  | parameter place type => .ok (.parameter place type.valueType)
  | arithmetic op lhs rhs => do
    let l ← build t lhs
    let r ← build t rhs
    Expr.mkBinary t op.operator l r
  | convert operand target => do
    let e ← build t operand
    e.coerce t target.valueType
  | cast operand target => do
    let e ← build t operand
    e.castTo t target.valueType

/-- The result over unbounded integers and null, given what the parameters are. -/
def exact (args : Nat → Option Int) : IntegerTree → Except IntegerFault (Option Int)
  | literal _ n _ => .ok (some n)
  | typedLiteral v _ => .ok v.integer?
  | parameter place _ => .ok (args place)
  | arithmetic op lhs rhs => do
    let x ← exact args lhs
    let y ← exact args rhs
    op.result (lhs.type.join rhs.type) x y
  | convert operand _ => exact args operand
  | cast operand target => do
    let x ← exact args operand
    if target.Holds x then .ok x else .error .cast

end IntegerTree

/-- An expression of integers, or a comparison of two. -/
inductive IntegerTerm where
  /-- An expression of integers. -/
  | integer (tree : IntegerTree)
  /-- A comparison. -/
  | comparison (c : Comparison) (lhs rhs : IntegerTree)

/-- What a term comes to. -/
inductive ExactResult where
  /-- An integer, or null. -/
  | integer (x : Option Int)
  /-- A truth value. -/
  | truth (b : Bool)
deriving DecidableEq, Repr

/-- A value is the result. -/
def ExactResult.IsValue : ExactResult → Value → Prop
  | integer x, v => v.Represents x
  | truth b, v => v = .bool b

namespace IntegerTerm

/-- The type of the value. -/
def valueType : IntegerTerm → ValueType
  | integer tree => tree.type.valueType
  | comparison _ _ _ => .bool

/-- The expression, if it can be built. -/
def build (t : TypeTable) : IntegerTerm → Except Error Expr
  | integer tree => tree.build t
  | comparison c lhs rhs => do
    let l ← lhs.build t
    let r ← rhs.build t
    Expr.mkBinary t c.operator l r

/-- The result over unbounded integers and null, given what the parameters are. -/
def exact (args : Nat → Option Int) : IntegerTerm → Except IntegerFault ExactResult
  | integer tree => do
    let x ← tree.exact args
    pure (.integer x)
  | comparison c lhs rhs => do
    let x ← lhs.exact args
    let y ← rhs.exact args
    pure (.truth (c.holds x y))

end IntegerTerm

/-! ## Evaluation -/

/-- The expression is of the type, and its outcome follows the exact one. -/
structure Machine.Evaluates (m : Machine) (scope : Scope) (e : Expr) (τ : IntegerType)
    (x : Except IntegerFault (Option Int)) : Prop where
  /-- The type. -/
  type : e.type = τ.valueType
  /-- The outcome. -/
  follows : ∃ r, m.HasOutcome scope e r ∧ FollowsExact τ.Represents r x

namespace Machine.Evaluates

variable {m : Machine} {scope : Scope} {t : TypeTable} {e e' lhs rhs : Expr} {σ τ : IntegerType}
  {x y : Except IntegerFault (Option Int)}

theorem constant {z : Option Int} {v : Value} {type : ValueType} (htype : type = τ.valueType)
    (hv : τ.Represents v z) : m.Evaluates scope (.constant v type) τ (.ok z) :=
  ⟨htype, .ok v, hasOutcome_constant v type, .ok hv⟩

/-- A declared parameter is its argument. -/
theorem parameter {parameters : List ParameterDecl}
    (hargs : List.Forall₂ (fun p v => m.types.conforms p.type v = true) parameters scope.args) {place : Nat}
    (h : (Expr.parameter place τ.valueType).checkParameter parameters = .ok ()) :
    m.Evaluates scope (.parameter place τ.valueType) τ (.ok (scope.args[place]?.bind Value.integer?)) := by
  simp only [Expr.checkParameter] at h
  split at h
  · rename_i p hp
    obtain ⟨v, hv, hconf⟩ := exists_getElem?_of_forall₂ hargs hp
    have htype : p.type = τ.valueType := by
      by_contra hne
      rw [if_neg hne] at h
      cases h
    rw [htype] at hconf
    rw [hv]
    exact ⟨rfl, .ok v, hasOutcome_parameter hv, .ok (IntegerType.represents_of_conforms hconf)⟩
  · cases h

/-- A conversion to an integer type casts the result. -/
theorem convertTo (ht : t.Extends m.types) (h : m.Evaluates scope e σ x) {kind : ConversionKind}
    (he : e.convertTo t kind τ.valueType = .ok e') :
    m.Evaluates scope e' τ (x >>= fun z => if τ.Holds z then .ok z else .error .cast) := by
  obtain ⟨r, hr, hx⟩ := h.follows
  have hconf : ∀ v, r = .ok v → m.types.conforms e.type v = true := by
    rintro v rfl
    cases hx with
    | ok hv => rw [h.type]; exact hv.conforms
  exact ⟨Expr.type_convertTo he, _, hr.convertTo ht hconf he, hx.bind fun v z hv => .cast hv.represents⟩

/-- Implicitly, an integer type is only converted to types that have all of it. -/
theorem coerce (ht : t.Extends m.types) (h : m.Evaluates scope e σ x)
    (he : e.coerce t τ.valueType = .ok e') : m.Evaluates scope e' τ x := by
  have hcast := h.convertTo ht he
  obtain ⟨rule, hrule, -⟩ := Expr.convertTo_eq_ok he
  obtain ⟨r, -, hx⟩ := h.follows
  cases hx with
  | error _ => exact hcast
  | @ok v z hv =>
    obtain ⟨w, hw⟩ := TypeTable.cast_of_implicitRule? (TypeTable.implicitRule?_mono ht hrule)
      (h.type ▸ hv.conforms)
    have hholds := ((IntegerType.cast_eq_ok_iff hv.represents).1 hw).1
    have hstep : (Except.ok z >>= fun z => if τ.Holds z then .ok z else .error .cast) =
        (.ok z : Except IntegerFault (Option Int)) := if_pos hholds
    rwa [hstep] at hcast

/-- The operands of an operator are converted to what has the integers of both. -/
theorem operands (ht : t.Extends m.types) {op : Operator} (hl : m.Evaluates scope lhs σ x)
    (hr : m.Evaluates scope rhs τ y) (he : Expr.mkBinary t op lhs rhs = .ok e) :
    ∃ l r, e = .binary op l r ∧
      m.Evaluates scope l (σ.join τ) x ∧ m.Evaluates scope r (σ.join τ) y := by
  obtain ⟨operand, l, r, hoperand, hlhs, hrhs, rfl⟩ := Expr.mkBinary_eq_ok.1 he
  have hunify := TypeTable.unify?_of_operandType hoperand
  rw [hl.type, hr.type] at hunify
  obtain rfl := IntegerType.unify?_valueType hunify
  exact ⟨l, r, rfl, hl.coerce ht hlhs, hr.coerce ht hrhs⟩

/-- An operator follows what it does to integers and null, if it does not look at the store. -/
theorem binary {β : Type} {R : Value → β → Prop} {op : Operator} (hop : op.isLogical = false)
    (hl : m.Evaluates scope lhs τ x) (hr : m.Evaluates scope rhs τ y)
    {f : Option Int → Option Int → Except IntegerFault β}
    (hf : ∀ {v w a b}, τ.Represents v a → τ.Represents w b →
      FollowsExact R (op.apply .empty v w) (f a b) ∧ ∀ s, op.apply s v w = op.apply .empty v w) :
    ∃ r, m.HasOutcome scope (.binary op lhs rhs) r ∧ FollowsExact R r (x >>= fun a => y >>= f a) := by
  obtain ⟨r, hlhs, hx⟩ := hl.follows
  obtain ⟨r', hrhs, hy⟩ := hr.follows
  refine ⟨_, hlhs.binary hop hrhs fun v w hv hw => ?_, hx.bind fun v a hv => hy.bind fun w b hw =>
    (hf hv hw).1⟩
  subst hv hw
  cases hx with
  | ok hv =>
    cases hy with
    | ok hw => exact (hf hv hw).2

/-- An arithmetic operator follows what it does to integers and null. -/
theorem arithmetic (ht : t.Extends m.types) {op : Arithmetic} (hl : m.Evaluates scope lhs σ x)
    (hr : m.Evaluates scope rhs τ y) (he : Expr.mkBinary t op.operator lhs rhs = .ok e) :
    m.Evaluates scope e (σ.join τ) (x >>= fun a => y >>= fun b => op.result (σ.join τ) a b) := by
  obtain ⟨l, r, rfl, hl, hr⟩ := hl.operands ht hr he
  refine ⟨?_, hl.binary (by cases op <;> rfl) hr fun hv hw =>
    ⟨op.follows_apply .empty hv hw, fun s => ?_⟩⟩
  · rw [Expr.type, if_pos op.isArithmetic_operator]
    exact hl.type
  · rw [Operator.apply_of_isArithmetic op.isArithmetic_operator,
      Operator.apply_of_isArithmetic op.isArithmetic_operator]

/-- A comparison follows what it says of integers and null. -/
theorem comparison (ht : t.Extends m.types) {c : Comparison} (hl : m.Evaluates scope lhs σ x)
    (hr : m.Evaluates scope rhs τ y) (he : Expr.mkBinary t c.operator lhs rhs = .ok e) :
    e.type = .bool ∧ ∃ r, m.HasOutcome scope e r ∧
      FollowsExact (fun v result => m.types.conforms .bool v = true ∧ result.IsValue v) r
        (x >>= fun a => y >>= fun b => pure (ExactResult.truth (c.holds a b))) := by
  obtain ⟨l, r, rfl, hl, hr⟩ := hl.operands ht hr he
  refine ⟨?_, hl.binary (by cases c <;> rfl) hr fun hv hw => ⟨?_, fun s => ?_⟩⟩
  · rw [Expr.type, if_neg (by rw [c.isArithmetic_operator]; exact Bool.false_ne_true)]
  · rw [c.apply_eq .empty hv hw]
    exact .ok ⟨rfl, rfl⟩
  · rw [c.apply_eq s hv hw, c.apply_eq .empty hv hw]

end Machine.Evaluates

namespace Expr

variable {t : TypeTable} {P : Expr → Prop} {e e' : Expr}

/-- Converting an expression hides no node but a literal. -/
theorem each_of_convertTo (hP : ∀ v type, P (.constant v type)) {kind : ConversionKind} {target : ValueType}
    (he : e.convertTo t kind target = .ok e') (h : e'.Each P) : e.Each P := by
  obtain ⟨rule, -, rfl⟩ := convertTo_eq_ok he
  unfold convertBy at h
  split at h
  · exact h
  · exact each_constant.2 (hP _ _)
  · exact (each_convert.1 h).2

/-- The operands of an operator keep their nodes. -/
theorem each_of_mkBinary (hP : ∀ v type, P (.constant v type)) {op : Operator} {lhs rhs : Expr}
    (he : mkBinary t op lhs rhs = .ok e) (h : e.Each P) : lhs.Each P ∧ rhs.Each P := by
  obtain ⟨operand, l, r, -, hl, hr, rfl⟩ := mkBinary_eq_ok.1 he
  obtain ⟨-, hlhs, hrhs⟩ := each_binary.1 h
  exact ⟨each_of_convertTo hP hl hlhs, each_of_convertTo hP hr hrhs⟩

end Expr

namespace IntegerTree

variable {m : Machine} {scope : Scope} {t : TypeTable} {e : Expr} {parameters : List ParameterDecl}

/-- **Each node is exact.**  By induction on the tree. -/
theorem evaluates_build (ht : t.Extends m.types)
    (hargs : List.Forall₂ (fun p v => m.types.conforms p.type v = true) parameters scope.args)
    {tree : IntegerTree} (he : tree.build t = .ok e)
    (hdeclared : e.Each fun n => n.checkParameter parameters = .ok ()) :
    m.Evaluates scope e tree.type (tree.exact fun i => scope.args[i]?.bind Value.integer?) := by
  induction tree generalizing e with
  | literal k n h =>
    cases he
    refine .constant ?_ ⟨h, rfl⟩
    cases k <;> rfl
  | typedLiteral v type =>
    obtain ⟨w, hw, rfl⟩ := Expr.typedLiteral_eq_ok.1 he
    exact .constant rfl (IntegerType.represents_of_cast hw)
  | parameter place type =>
    cases he
    exact .parameter hargs (Expr.each_parameter.1 hdeclared)
  | arithmetic op lhs rhs ihl ihr =>
    obtain ⟨l, hl, he⟩ := bind_eq_ok.1 he
    obtain ⟨r, hr, he⟩ := bind_eq_ok.1 he
    obtain ⟨hdl, hdr⟩ := Expr.each_of_mkBinary (fun _ _ => rfl) he hdeclared
    exact (ihl hl hdl).arithmetic ht (ihr hr hdr) he
  | convert operand target ih =>
    obtain ⟨o, ho, he⟩ := bind_eq_ok.1 he
    exact (ih ho (Expr.each_of_convertTo (fun _ _ => rfl) he hdeclared)).coerce ht he
  | cast operand target ih =>
    obtain ⟨o, ho, he⟩ := bind_eq_ok.1 he
    exact (ih ho (Expr.each_of_convertTo (fun _ _ => rfl) he hdeclared)).convertTo ht he

end IntegerTree

namespace IntegerTerm

variable {m : Machine} {t : TypeTable} {term : IntegerTerm} {e : Expr} {parameters : List ParameterDecl}

theorem follows_build (ht : t.Extends m.types) (scope : Scope)
    (hargs : List.Forall₂ (fun p v => m.types.conforms p.type v = true) parameters scope.args)
    (he : term.build t = .ok e) (hdeclared : e.Each fun n => n.checkParameter parameters = .ok ()) :
    e.type = term.valueType ∧ ∃ r, m.HasOutcome scope e r ∧
      FollowsExact (fun v result => m.types.conforms term.valueType v = true ∧ result.IsValue v) r
        (term.exact fun i => scope.args[i]?.bind Value.integer?) := by
  cases term with
  | integer tree =>
    obtain ⟨htype, r, hr, hx⟩ := tree.evaluates_build ht hargs he hdeclared
    exact ⟨htype, r, hr, hx.map fun v x hv => ⟨hv.conforms, hv.represents⟩⟩
  | comparison c lhs rhs =>
    obtain ⟨l, hl, he⟩ := bind_eq_ok.1 he
    obtain ⟨r, hr, he⟩ := bind_eq_ok.1 he
    obtain ⟨hdl, hdr⟩ := Expr.each_of_mkBinary (fun _ _ => rfl) he hdeclared
    exact (IntegerTree.evaluates_build ht hargs hl hdl).comparison ht
      (IntegerTree.evaluates_build ht hargs hr hdr) he

/-- **Expressions of integers are exact or fail.**  On arguments of the declared types, in any store, a lambda
whose body was built from a term comes to the value of the term's type that is the exact result.  Where there is
no exact result it fails: as an invalid operation if the result of a node does not fit its type or an integer is
divided by zero, and as an invalid cast if an explicit conversion meets an integer, or null, that its type does
not have. -/
theorem run_follows_exact (ht : t.Extends m.types) (he : term.build t = .ok e) {l : Lambda}
    (hl : Lambda.make parameters e = .ok l) {args : List Value}
    (hargs : List.Forall₂ (fun p v => m.types.conforms p.type v = true) parameters args) (s : Store) :
    l.resultType = term.valueType ∧ ∃ r, (m.run l.compile args).perform s = (r, s) ∧
      FollowsExact (fun v result => m.types.conforms term.valueType v = true ∧ result.IsValue v) r
        (term.exact fun i => args[i]?.bind Value.integer?) := by
  obtain ⟨rfl, hdeclared, -⟩ := Lambda.of_make hl
  obtain ⟨htype, r, hr, hfollows⟩ :=
    follows_build ht ⟨args, e.slots []⟩ hargs he hdeclared
  exact ⟨htype, r, Machine.perform_run_of_hasOutcome (List.forall₂_map_left_iff.2 hargs) hr s, hfollows⟩

/-- A 32-bit integer. -/
def narrow : List ParameterDecl := [⟨"n", .int32⟩]

/-- The integer divided by minus one. -/
def opposite : IntegerTerm :=
  .integer (.arithmetic .div (.parameter 0 ⟨.int32, false⟩) (.literal .int32 (-1) (by decide)))

/-- Integers of three types, of which the first may be null. -/
def mixed : List ParameterDecl := [⟨"a", .nullable .uint32⟩, ⟨"b", .int64⟩, ⟨"c", .uint64⟩]

/-- Whether the sum of the first two is less than the third, which is cast to 32 bits. -/
def below : IntegerTerm :=
  .comparison .lt (.arithmetic .add (.parameter 0 ⟨.uint32, true⟩) (.parameter 1 ⟨.int64, false⟩))
    (.cast (.parameter 2 ⟨.uint64, false⟩) ⟨.int32, false⟩)

/-- The least 32-bit integer has no opposite among them, a sum with null is not less than seven, and the
greatest 64-bit integer is not cast to 32 bits. -/
theorem run_follows_exact_below :
    (∃ l, (opposite.build .empty >>= Lambda.make narrow) = .ok l ∧
      ∃ e, (Draft.bare.run l.compile [.int32 (-2147483648)]).perform .empty = (.error e, .empty) ∧
        e.errorClass = .invalidOperation) ∧
    ∃ l, (below.build .empty >>= Lambda.make mixed) = .ok l ∧
      (Draft.bare.run l.compile [.null, .int64 5, .uint64 7]).perform .empty =
        (.ok (.bool false), .empty) ∧
      ∃ e, (Draft.bare.run l.compile [.uint32 1, .int64 5, .uint64 18446744073709551615]).perform .empty =
        (.error e, .empty) ∧ e.errorClass = .invalidCast := by
  refine ⟨⟨_, rfl, ?_⟩, _, rfl, ?_, ?_⟩
  · have hargs : List.Forall₂ (fun p v => Draft.bare.types.conforms p.type v = true) narrow
        [.int32 (-2147483648)] := .cons rfl .nil
    obtain ⟨-, r, hrun, hfollows⟩ :=
      run_follows_exact (.refl _) (rfl : opposite.build .empty = .ok _) rfl hargs .empty
    have hexact : (opposite.exact fun i => [Value.int32 (-2147483648)][i]?.bind Value.integer?) =
        .error .operation := rfl
    rw [hexact] at hfollows
    cases hfollows with
    | error h => exact ⟨_, hrun, h⟩
  · have hargs : List.Forall₂ (fun p v => Draft.bare.types.conforms p.type v = true) mixed
        [.null, .int64 5, .uint64 7] := .cons rfl (.cons rfl (.cons rfl .nil))
    obtain ⟨-, r, hrun, hfollows⟩ :=
      run_follows_exact (.refl _) (rfl : below.build .empty = .ok _) rfl hargs .empty
    have hexact : (below.exact fun i => [Value.null, .int64 5, .uint64 7][i]?.bind Value.integer?) =
        .ok (.truth false) := rfl
    rw [hexact] at hfollows
    cases hfollows with
    | ok h =>
      obtain ⟨-, rfl⟩ := h
      exact hrun
  · have hargs : List.Forall₂ (fun p v => Draft.bare.types.conforms p.type v = true) mixed
        [.uint32 1, .int64 5, .uint64 18446744073709551615] := .cons rfl (.cons rfl (.cons rfl .nil))
    obtain ⟨-, r, hrun, hfollows⟩ :=
      run_follows_exact (.refl _) (rfl : below.build .empty = .ok _) rfl hargs .empty
    have hexact : (below.exact fun i =>
        [Value.uint32 1, .int64 5, .uint64 18446744073709551615][i]?.bind Value.integer?) =
        .error .cast := rfl
    rw [hexact] at hfollows
    cases hfollows with
    | error h => exact ⟨_, hrun, h⟩

end IntegerTerm
end Reshape
