import Reshape.Proofs.Expr.Construction

/-!
# What is passed for a parameter

A call or a construction passes one argument for each parameter (`Callee.passedAs_of_apply`): what was given,
converted to the type of the parameter, and for what was left out the default.  Whether enough was given is
decided by counting the required parameters, and what was given is placed from the left.  So a required
parameter that comes after an optional one may be left out, and is passed null: `Callee.omits_optional_iff` says
for which parameters.
-/

namespace Reshape

/-- What is applied to arguments. -/
inductive Callee where
  /-- A method, of a receiver. -/
  | method (r : MethodRef)
  /-- A constructor. -/
  | constructor (r : ConstructorRef)

/-- The parameters. -/
def Callee.parameters : Callee → List Parameter
  | method r => r.method.parameters
  | constructor r => r.constructor.parameters

/-- The reference is to a method or constructor of a declared type. -/
def TypeTable.HasCallee (t : TypeTable) : Callee → Prop
  | .method r => t.HasMethod r
  | .constructor r => t.HasConstructor r

/-- Apply to arguments by the checked constructor for it.  A construction has no receiver. -/
def Callee.apply (t : TypeTable) (receiver : Option Expr) (args : List Expr) : Callee → Except Error Expr
  | method r => Expr.mkCall t receiver r args
  | constructor r => Expr.mkConstruct t r args

/-- The arguments of a call or a construction. -/
def Expr.arguments : Expr → List Expr
  | call _ _ args => args
  | construct _ args => args
  | _ => []

namespace TypeTable

/-- What is passed for a parameter, of what was given for it. -/
inductive PassedAs (t : TypeTable) (p : Parameter) : Option Expr → Expr → Prop
  /-- What was given is converted. -/
  | given {e a : Expr} (h : e.coerce t p.type = .ok a) : PassedAs t p (some e) a
  /-- The default stands in for what was left out. -/
  | default {v w : Value} (hp : p.default? = some v) (h : t.cast p.type v = .ok w) :
      PassedAs t p none (.constant w p.type)
  /-- Null stands in for what has no default. -/
  | null (hp : p.default? = none) (h : p.type.acceptsNull = true) :
      PassedAs t p none (.constant .null p.type)

/-- What stands in for the argument if it is left out belongs to the type of the parameter. -/
def Omittable (t : TypeTable) (p : Parameter) : Prop :=
  ∃ w, t.cast p.type (p.default?.getD .null) = .ok w

variable {t : TypeTable}

/-- Null is cast to null, by the types that accept it. -/
theorem cast_null_eq_ok {type : ValueType} {w : Value} :
    t.cast type .null = .ok w ↔ type.acceptsNull = true ∧ w = .null := by
  cases type <;> simp [cast, ValueType.acceptsNull, ValueType.isPlain, eq_comm]

/-- A required parameter can be left out exactly if its type accepts null. -/
theorem omittable_iff_acceptsNull {p : Parameter} (hp : p.isOptional = false) :
    t.Omittable p ↔ p.type.acceptsNull = true := by
  have hdefault : p.default? = none := by simpa [Parameter.isOptional] using hp
  simp only [Omittable, hdefault, Option.getD_none, cast_null_eq_ok, exists_and_left, exists_eq, and_true]

/-- The defaults of a constructor that fits its type belong to its parameters, so whether one can be left out
depends on null only. -/
theorem ConstructorSound.omittable_iff {slotTypes : List ValueType} {c : Constructor}
    (h : t.ConstructorSound slotTypes c) {p : Parameter} (hp : p ∈ c.parameters) :
    t.Omittable p ↔ p.isOptional = true ∨ p.type.acceptsNull = true := by
  cases hoptional : p.isOptional with
  | false => simpa using omittable_iff_acceptsNull hoptional
  | true =>
    obtain ⟨v, hv⟩ := Option.isSome_iff_exists.1 hoptional
    have homittable : t.Omittable p := ⟨v, by rw [hv]; exact cast_of_conforms (h.default p hp v hv)⟩
    simp [homittable]

end TypeTable

namespace Expr

open TypeTable (PassedAs Omittable)

variable {t : TypeTable}

/-- The literal that stands in for what was left out is the default, or null. -/
theorem passedAs_typedLiteral {p : Parameter} {a : Expr}
    (h : typedLiteral t (p.default?.getD .null) p.type = .ok a) : t.PassedAs p none a := by
  obtain ⟨w, hw, rfl⟩ := typedLiteral_eq_ok.1 h
  cases hp : p.default? with
  | some v =>
    rw [hp] at hw
    exact .default hp hw
  | none =>
    rw [hp] at hw
    obtain ⟨haccepts, rfl⟩ := TypeTable.cast_null_eq_ok.1 hw
    exact .null hp haccepts

/-- The converted arguments and the literals after them are passed for the parameters in order. -/
theorem passedAs_append {callee : String} {parameters : List Parameter} {args given defaults : List Expr}
    (hgiven : coerceArguments t callee parameters args = .ok given)
    (hdefaults : defaultArguments t (parameters.drop args.length) = .ok defaults) :
    (given ++ defaults).length = parameters.length ∧ ∀ (i : Nat) p, parameters[i]? = some p →
      ∃ a, (given ++ defaults)[i]? = some a ∧ t.PassedAs p args[i]? a := by
  induction parameters generalizing args given defaults with
  | nil =>
    rw [List.drop_nil] at hdefaults
    cases hdefaults
    cases hgiven
    simp
  | cons q parameters ih =>
    -- the head is passed for `q`, and `ih` says what is passed for the other parameters
    have hcons : ∀ {head : Expr} {args' rest : List Expr}, t.PassedAs q args[0]? head →
        (∀ i : Nat, args[i + 1]? = args'[i]?) → (rest.length = parameters.length ∧
          ∀ (i : Nat) p, parameters[i]? = some p → ∃ a, rest[i]? = some a ∧ t.PassedAs p args'[i]? a) →
        (head :: rest).length = (q :: parameters).length ∧ ∀ (i : Nat) p, (q :: parameters)[i]? = some p →
          ∃ a, (head :: rest)[i]? = some a ∧ t.PassedAs p args[i]? a := by
      intro head args' rest hhead hargs ⟨hlength, hrest⟩
      refine ⟨congrArg Nat.succ hlength, fun i p hp => ?_⟩
      cases i with
      | zero =>
        cases hp
        exact ⟨head, rfl, hhead⟩
      | succ i =>
        rw [hargs i]
        exact hrest i p hp
    cases args with
    | nil =>
      cases hgiven
      simp only [List.length_nil, List.drop_zero, defaultArguments] at hdefaults
      split at hdefaults
      · cases hdefaults
      · rename_i head hhead
        obtain ⟨rest, hrest, rfl⟩ := map_eq_ok.1 hdefaults
        have hnone : coerceArguments t callee parameters [] = .ok [] := by cases parameters <;> rfl
        exact hcons (passedAs_typedLiteral hhead) (fun _ => rfl) (ih hnone hrest)
    | cons e args =>
      simp only [coerceArguments] at hgiven
      split at hgiven
      · cases hgiven
      · rename_i head hhead
        obtain ⟨rest, hrest, rfl⟩ := map_eq_ok.1 hgiven
        exact hcons (.given hhead) (fun _ => rfl) (ih hrest hdefaults)

/-- Parameters can be left out if each of them can. -/
theorem exists_defaultArguments {parameters : List Parameter} :
    (∃ es, defaultArguments t parameters = .ok es) ↔ ∀ p ∈ parameters, t.Omittable p := by
  induction parameters with
  | nil => exact ⟨fun _ => List.forall_mem_nil _, fun _ => ⟨[], rfl⟩⟩
  | cons p parameters ih =>
    have hhead : (∃ e, typedLiteral t (p.default?.getD .null) p.type = .ok e) ↔ t.Omittable p :=
      ⟨fun ⟨e, he⟩ => (typedLiteral_eq_ok.1 he).imp fun _ => And.left,
        fun ⟨w, hw⟩ => ⟨_, typedLiteral_eq_ok.2 ⟨w, hw, rfl⟩⟩⟩
    rw [List.forall_mem_cons, ← ih, ← hhead]
    simp only [defaultArguments]
    constructor
    · rintro ⟨es, h⟩
      split at h
      · cases h
      · rename_i e he
        obtain ⟨rest, hrest, -⟩ := map_eq_ok.1 h
        exact ⟨⟨e, he⟩, rest, hrest⟩
    · rintro ⟨⟨e, he⟩, rest, hrest⟩
      exact ⟨e :: rest, by simp only [he]; exact map_eq_ok.2 ⟨rest, hrest, rfl⟩⟩

end Expr

namespace Callee

open TypeTable (PassedAs Omittable)

variable {t : TypeTable} {k : Callee} {receiver : Option Expr} {args : List Expr}

/-- What was applied binds its arguments to the parameters. -/
theorem bindArguments_of_apply {e : Expr} (h : k.apply t receiver args = .ok e) :
    ∃ callee, Expr.bindArguments t k.parameters args callee = .ok e.arguments := by
  cases k with
  | method r =>
    obtain ⟨bound, -, h⟩ := bind_eq_ok.1 h
    obtain ⟨es, hes, h⟩ := bind_eq_ok.1 h
    cases h
    exact ⟨_, hes⟩
  | constructor r =>
    obtain ⟨es, hes, h⟩ := bind_eq_ok.1 h
    cases h
    exact ⟨_, hes⟩

/-- A callee takes the arguments that its parameters bind, with a suitable receiver. -/
theorem exists_apply (h : ∀ callee, ∃ es, Expr.bindArguments t k.parameters args callee = .ok es) :
    ∃ receiver e, k.apply t receiver args = .ok e := by
  cases k with
  | method r =>
    obtain ⟨es, hes⟩ := h r.method.name
    have hreceiver : ∃ receiver, Expr.ReceiverTyped r.owner r.method.isStatic receiver := by
      cases hstatic : r.method.isStatic with
      | true => exact ⟨none, rfl⟩
      | false => exact ⟨some (.zero (.object r.owner)), rfl, rfl⟩
    obtain ⟨receiver, hreceiver⟩ := hreceiver
    refine ⟨receiver, .call r receiver es, ?_⟩
    exact bind_eq_ok.2 ⟨_, Expr.bindReceiver_self hreceiver _, bind_eq_ok.2 ⟨es, hes, rfl⟩⟩
  | constructor r =>
    obtain ⟨es, hes⟩ := h (t.name r.owner)
    exact ⟨none, .construct r es, bind_eq_ok.2 ⟨es, hes, rfl⟩⟩

/-- One argument is passed for each parameter. -/
theorem passedAs_of_apply {e : Expr} (h : k.apply t receiver args = .ok e) :
    e.arguments.length = k.parameters.length ∧ ∀ (i : Nat) p, k.parameters[i]? = some p →
      ∃ a, e.arguments[i]? = some a ∧ t.PassedAs p args[i]? a := by
  obtain ⟨callee, hbound⟩ := bindArguments_of_apply h
  obtain ⟨-, given, defaults, hgiven, hdefaults, heq⟩ := Expr.bindArguments_eq_ok.1 hbound
  rw [heq]
  exact Expr.passedAs_append hgiven hdefaults

/-- Enough is given, and what is left out can be. -/
theorem omittable_of_apply {e : Expr} (h : k.apply t receiver args = .ok e) :
    k.parameters.countP (!·.isOptional) ≤ args.length ∧
      ∀ p ∈ k.parameters.drop args.length, t.Omittable p := by
  obtain ⟨callee, hbound⟩ := bindArguments_of_apply h
  obtain ⟨⟨hcount, -⟩, -, defaults, -, hdefaults, -⟩ := Expr.bindArguments_eq_ok.1 hbound
  exact ⟨hcount, Expr.exists_defaultArguments.1 ⟨defaults, hdefaults⟩⟩

/-- Zero values are taken for the first parameters, if they are not fewer than the required ones and the others
can be left out. -/
theorem exists_apply_zeros {front back : List Parameter} (hparameters : k.parameters = front ++ back)
    (hcount : k.parameters.countP (!·.isOptional) ≤ front.length) (hback : ∀ p ∈ back, t.Omittable p) :
    ∃ receiver e, k.apply t receiver (front.map fun p => .zero p.type) = .ok e := by
  have htypes : List.Forall₂ (fun (p : Parameter) (e : Expr) => e.type = p.type) front
      (front.map fun p => .zero p.type) :=
    List.forall₂_map_right_iff.2 (List.forall₂_same.2 fun _ _ => rfl)
  obtain ⟨defaults, hdefaults⟩ := Expr.exists_defaultArguments.2 hback
  refine exists_apply fun callee => ⟨front.map (fun p => .zero p.type) ++ defaults,
    Expr.bindArguments_eq_ok.2 ⟨?_, _, defaults, ?_, ?_, rfl⟩⟩
  · rw [List.length_map]
    exact ⟨hcount, by simp [hparameters]⟩
  · rw [hparameters]
    exact Expr.coerceArguments_append htypes back
  · rw [hparameters, List.length_map, List.drop_left]
    exact hdefaults

/-- Only optional parameters are left out exactly if a required one that can be left out, as can all after it,
comes after required ones only. -/
theorem omits_optional_iff : (∀ receiver args e, k.apply t receiver args = .ok e →
      ∀ p ∈ k.parameters.drop args.length, p.isOptional = true) ↔
    ∀ front p back, k.parameters = front ++ p :: back → p.isOptional = false →
      p.type.acceptsNull = true → (∀ q ∈ back, t.Omittable q) → ∀ q ∈ front, q.isOptional = false := by
  constructor
  · intro h front p back hparameters hp haccepts hback q hq
    -- the case of the last required parameter; an earlier one comes before it, with all that is in front
    induction hlength : back.length using Nat.strong_induction_on generalizing front p back with
    | _ n ih =>
      by_cases hlast : ∀ r ∈ back, r.isOptional = true
      · refine Bool.eq_false_iff.2 fun hoptional => ?_
        have hfew : front.countP (!·.isOptional) < front.length :=
          Nat.lt_of_le_of_ne List.countP_le_length fun hall => by
            simpa [hoptional] using List.countP_eq_length.1 hall q hq
        have hnone : back.countP (!·.isOptional) = 0 :=
          List.countP_eq_zero.2 fun r hr => by simp [hlast r hr]
        have hcount : k.parameters.countP (!·.isOptional) ≤ front.length := by
          rw [hparameters, List.countP_append, List.countP_cons, hnone, hp]
          exact hfew
        have homittable : ∀ r ∈ p :: back, t.Omittable r :=
          List.forall_mem_cons.2 ⟨(TypeTable.omittable_iff_acceptsNull hp).2 haccepts, hback⟩
        obtain ⟨receiver, e, happly⟩ := exists_apply_zeros hparameters hcount homittable
        have hdrop : p ∈ k.parameters.drop (front.map fun p => Expr.zero p.type).length := by
          rw [hparameters, List.length_map, List.drop_left]
          exact List.mem_cons_self ..
        exact absurd (h receiver _ e happly p hdrop) (by simp [hp])
      · obtain ⟨r, hr, hrequired⟩ := by simpa using hlast
        obtain ⟨mid, back', rfl⟩ := List.append_of_mem hr
        refine ih back'.length ?_ (front ++ p :: mid) r back' (by simp [hparameters]) hrequired ?_ ?_
          (by simp [hq]) rfl
        · rw [← hlength, List.length_append, List.length_cons]
          omega
        · exact (TypeTable.omittable_iff_acceptsNull hrequired).1 (hback r hr)
        · exact fun r' hr' => hback r' (by simp [hr'])
  · intro h receiver args e happly p hp
    by_contra hrequired
    have hrequired : p.isOptional = false := Bool.eq_false_iff.2 hrequired
    obtain ⟨hcount, homittable⟩ := omittable_of_apply happly
    obtain ⟨mid, back, hdrop⟩ := List.append_of_mem hp
    have hparameters : k.parameters = (k.parameters.take args.length ++ mid) ++ p :: back := by
      rw [List.append_assoc, ← hdrop, List.take_append_drop]
    have hfront := h _ p back hparameters hrequired
      ((TypeTable.omittable_iff_acceptsNull hrequired).1 (homittable p hp))
      (fun q hq => homittable q (by simp [hdrop, hq]))
    -- all that was given is required, and `p` on top of that
    have hgiven : (k.parameters.take args.length).countP (!·.isOptional) = args.length := by
      have hle : args.length ≤ k.parameters.length :=
        Nat.le_of_lt (Nat.lt_of_not_le fun hle => List.ne_nil_of_mem hp (List.drop_eq_nil_of_le hle))
      rw [List.countP_eq_length.2 fun q hq => by simp [hfront q (by simp [hq])], List.length_take,
        Nat.min_eq_left hle]
    rw [hparameters, List.countP_append, List.countP_append, hgiven, List.countP_cons, hrequired] at hcount
    simp only [Bool.not_false, if_true] at hcount
    omega

/-- **What calls and constructions pass.**  One argument is passed for each parameter: what was given for it,
converted to its type; if nothing was given its default, converted; and null if it has no default, for which its
type has to accept null.  The last case does not arise exactly if every required parameter that accepts null,
where all parameters after it can be left out, comes after required ones only.  A parameter of a declared
constructor can be left out if it is optional or accepts null. -/
theorem passes_arguments (t : TypeTable) (k : Callee) :
    (∀ receiver args e, k.apply t receiver args = .ok e →
      e.arguments.length = k.parameters.length ∧ ∀ (i : Nat) p, k.parameters[i]? = some p →
        ∃ a, e.arguments[i]? = some a ∧ t.PassedAs p args[i]? a) ∧
    ((∀ receiver args e, k.apply t receiver args = .ok e →
        ∀ p ∈ k.parameters.drop args.length, p.isOptional = true) ↔
      ∀ front p back, k.parameters = front ++ p :: back → p.isOptional = false →
        p.type.acceptsNull = true → (∀ q ∈ back, t.Omittable q) → ∀ q ∈ front, q.isOptional = false) ∧
    (t.Declared → ∀ r, k = .constructor r → t.HasConstructor r → ∀ p ∈ k.parameters,
      (t.Omittable p ↔ p.isOptional = true ∨ p.type.acceptsNull = true)) := by
  refine ⟨fun receiver args e h => passedAs_of_apply h, omits_optional_iff, ?_⟩
  rintro ht r rfl hr p hp
  have hmem : r.constructor ∈ (t.model r.owner).constructors := List.mem_of_getElem? hr
  exact ((ht.sound r.owner hr.owner_lt).constructors r.constructor hmem).omittable_iff hp

/-! ## A required parameter that is left out -/

/-- Constructs a pair of a number, which is one if it is left out, and a text, which has to be given. -/
def pairing : ConstructorRef :=
  ⟨0, 0, ⟨[⟨"x", .int32, some (.int32 1)⟩, ⟨"y", .text, none⟩], .open, .assign [⟨0, 0⟩, ⟨1, 1⟩]⟩⟩

/-- Pairs of a number and a text. -/
def pairs : TypeTable :=
  TypeTable.empty.push ⟨"Pair", .declared, none, [], [], [⟨"X", .int32, .open, false, false, 0⟩,
    ⟨"Y", .text, .open, false, false, 1⟩], [], [], [pairing.constructor], [.int32, .text], []⟩

theorem declared_pairs : pairs.Declared :=
  .declare (d := ⟨"Pair", .declared, none, [], [], [⟨"X", .int32, .open, false, false⟩,
    ⟨"Y", .text, .open, false, false⟩], [], [],
    [.assigning [(⟨"x", .int32, some (.int32 1)⟩, "X"), (⟨"y", .text, none⟩, "Y")]]⟩) .empty (by simp) rfl

/-- A pair of a number only is made with null for the text. -/
theorem apply_pairing : apply pairs none [.constant (.int32 5) .int32] (.constructor pairing) =
    .ok (.construct pairing [.constant (.int32 5) .int32, .constant .null .text]) := rfl

/-- The number was given, and null is passed for the text. -/
theorem passes_arguments_pairing :
    pairs.PassedAs ⟨"x", .int32, some (.int32 1)⟩ (some (.constant (.int32 5) .int32)) (.constant (.int32 5) .int32) ∧
      pairs.PassedAs ⟨"y", .text, none⟩ none (.constant .null .text) := by
  obtain ⟨-, hpassed⟩ := (passes_arguments pairs (.constructor pairing)).1 _ _ _ apply_pairing
  obtain ⟨x, hx, hxpassed⟩ := hpassed 0 _ rfl
  obtain ⟨y, hy, hypassed⟩ := hpassed 1 _ rfl
  cases hx
  cases hy
  exact ⟨hxpassed, hypassed⟩

/-- **Not only optional arguments can be left out**, also of constructors of declared types. -/
theorem exists_required_omitted : ¬∀ (t : TypeTable) (k : Callee) (receiver : Option Expr) (args : List Expr)
    (e : Expr), t.Declared → t.HasCallee k → k.apply t receiver args = .ok e →
      ∀ p ∈ k.parameters.drop args.length, p.isOptional = true := by
  intro h
  have hpairing : pairs.HasCallee (.constructor pairing) := rfl
  have hoptional := h pairs _ none _ _ declared_pairs hpairing apply_pairing ⟨"y", .text, none⟩ (by decide)
  exact absurd hoptional (by decide)

end Callee
end Reshape
