import Reshape.Proofs.Accessor.Running
import Reshape.Proofs.Accessor.Transparency

/-!
# Generic and typed accessors

The generic and the default typed accessor of a member are different lambdas over different declarations.  What
they convert from drops out of what they do (`Operation.run_lambda`), and so does what they convert to: a result
is handed back as it is at its own type and as `any`.  So both do the same on the same instance and arguments,
each handed over in its own way (`Operation.shapes_agree`).
-/

namespace Reshape

open Action AccessorCache

/-- The request for a generic accessor. -/
def AccessorRequest.generic : AccessorRequest := ⟨.generic, none, none, none, none⟩

namespace Accessor

variable {t : TypeTable} {op : Operation} {a : Access} {m : Machine} {key : AccessorKey} {o : Value}
  {args : List Value} {r : AccessorRequest}

namespace Operation

/-- The boxed instance and arguments, as a generic accessor takes them: for a call in one list, and for a
constructor without an instance. -/
def boxed (o : Value) (args : List Value) : Operation → List Value
  | get _ | set _ => o :: args
  | invoke _ => [o, .list args]
  | construct _ => [.list args]

/-- The instance, if there is one, and the arguments. -/
def plain (op : Operation) (o : Value) (args : List Value) : List Value :=
  if op.isStatic then args else o :: args

/-! ## Requests that leave everything open -/

/-- A request that leaves everything open is refused only if there is no access. -/
theorem check_of_access (hbinding : r.binding? = none) (htypes : r.parameterTypes? = none)
    (ha : op.access? = some a) : op.check t r = .ok () := by
  have hbound : ∀ isStatic member, r.checkBinding isStatic member = .ok () := by
    intro isStatic member
    simp only [AccessorRequest.checkBinding, hbinding]
  have hargs : ∀ declared callee, ((argumentTypes declared r callee).map fun _ => ()) = .ok () := by
    intro declared callee
    unfold argumentTypes
    rw [htypes]
    cases r.shape <;> rfl
  cases op with
  | get member =>
    refine bind_eq_ok.2 ⟨(), hbound .., if_pos ?_⟩
    cases member with
    | field f => rfl
    | property p =>
      obtain ⟨g, hg, -⟩ := Option.map_eq_some_iff.1 ha
      simp only [MemberRef.isReadable, hg, Option.isSome_some]
  | set member =>
    refine bind_eq_ok.2 ⟨(), hbound .., if_pos ?_⟩
    cases member with
    | field f => rfl
    | property p =>
      obtain ⟨g, hg, -⟩ := Option.map_eq_some_iff.1 ha
      simp only [MemberRef.isAssignable, hg, Option.isSome_some]
  | invoke f => exact bind_eq_ok.2 ⟨(), hbound .., hargs ..⟩
  | construct c => exact bind_eq_ok.2 ⟨(), hbound .., hargs ..⟩

/-- Without an access all of them are refused alike. -/
theorem exists_check_error (ha : op.access? = none) :
    ∃ e, ∀ r : AccessorRequest, r.binding? = none → op.check t r = .error e := by
  cases op with
  | get member =>
    cases member with
    | field f => cases ha
    | property p =>
      refine ⟨.noGetter p.owner p.property.name, fun r hbinding => ?_⟩
      have hnone : p.getter? = none := Option.map_eq_none_iff.1 ha
      simp only [check, AccessorRequest.checkBinding, hbinding, MemberRef.isReadable, hnone]
      rfl
  | set member =>
    cases member with
    | field f => cases ha
    | property p =>
      refine ⟨.noSetter p.owner p.property.name, fun r hbinding => ?_⟩
      have hnone : p.setter? = none := Option.map_eq_none_iff.1 ha
      simp only [check, AccessorRequest.checkBinding, hbinding, MemberRef.isAssignable, hnone]
      rfl
  | invoke f => cases ha
  | construct c => cases ha

theorem fits_of_access (hend : op.EndsIn a) (hbinding : r.binding? = none) (htypes : r.parameterTypes? = none) :
    op.Fits (op.key r) :=
  op.fits_key (check_of_access (t := .empty) hbinding htypes hend.access)

/-- A lambda is made if all its casts are allowed. -/
theorem exists_lambda (hend : op.EndsIn a) (hfits : op.Fits key)
    (hinstance : ∀ type, key.instanceType? = some type → op.isStatic = false →
      ∃ rule, t.explicitRule? type (.object op.owner) = some rule)
    (hargs : ∀ x ∈ (op.sources key).zip op.parameters, ∃ rule, t.explicitRule? x.1.type x.2.type = some rule)
    (hresult : ∃ rule, t.explicitRule? op.yields (op.resultType key) = some rule) :
    ∃ l, op.lambda t key = .ok l := by
  have hcast : ∀ (e : Expr) target, (∃ rule, t.explicitRule? e.type target = some rule) →
      ∃ e', e.castTo t target = .ok e' := by
    rintro e target ⟨rule, hrule⟩
    have hclassify : t.classify e.type target .explicit = some rule := hrule
    exact ⟨_, by rw [Expr.castTo, Expr.convertTo, hclassify]⟩
  have hreceiver : ∃ e, receiver t key op.owner op.isStatic = .ok e := by
    unfold receiver
    cases htype : key.instanceType? with
    | none => exact ⟨_, rfl⟩
    | some type =>
      cases hstatic : op.isStatic with
      | true => exact ⟨_, rfl⟩
      | false =>
        obtain ⟨e, he⟩ := hcast (.parameter 0 type) _ (hinstance type htype hstatic)
        exact ⟨some e, map_eq_ok.2 ⟨e, he, rfl⟩⟩
  obtain ⟨e, he⟩ := hreceiver
  obtain ⟨es, hes⟩ := exists_mapM_eq_ok (f := castFor t) fun x hx => hcast x.1 x.2.type (hargs x hx)
  obtain ⟨body, hbody⟩ := hcast (a.node e es) (op.resultType key) (by rwa [a.type_node, hend.type])
  rw [op.lambda_eq hend hfits]
  exact ⟨_, bind_eq_ok.2 ⟨e, he, bind_eq_ok.2 ⟨es, hes, bind_eq_ok.2 ⟨body, hbody, rfl⟩⟩⟩⟩

/-! ## The generic accessor -/

/-- A generic accessor takes arguments as `any`. -/
theorem type_of_mem_generic {e : Expr} (he : e ∈ op.sources (op.key .generic)) : e.type = .any := by
  cases op with
  | get _ => nomatch he
  | set _ =>
    obtain rfl := List.mem_singleton.1 he
    rfl
  | invoke _ | construct _ =>
    obtain ⟨_, -, rfl⟩ := List.mem_map.1 he
    rfl

theorem exists_generic (hend : op.EndsIn a) : ∃ l, op.lambda t (op.key .generic) = .ok l := by
  refine op.exists_lambda hend (fits_of_access hend rfl rfl) (fun type htype _ => ?_) (fun x hx => ?_) ?_
  · have hany : type = .any := by
      cases op <;> cases htype <;> rfl
    exact hany ▸ t.exists_explicitRule?_of_any _
  · rw [type_of_mem_generic (List.of_mem_zip hx).1]
    exact t.exists_explicitRule?_of_any _
  · have hany : op.resultType (op.key .generic) = .any := by
      cases op <;> rfl
    exact hany ▸ t.exists_explicitRule?_any _

/-! ## The default accessor -/

/-- The default accessor takes arguments as the parameters do. -/
theorem types_default (op : Operation) :
    (op.sources (op.key .default)).map Expr.type = op.parameters.map (·.type) := by
  cases op with
  | get _ | set _ => rfl
  | invoke f | construct f => exact types_own _ _

theorem resultType_default : op.resultType (op.key .default) = op.yields := by
  cases op <;> rfl

/-- The default accessor takes an instance of the member's type, unless the member is static. -/
theorem instanceType?_default (op : Operation) :
    (op.key .default).instanceType? = if op.isStatic then none else some (.object op.owner) := by
  cases op <;> rfl

theorem exists_default (hend : op.EndsIn a) : ∃ l, op.lambda t (op.key .default) = .ok l := by
  have hself : ∀ source target, source = target → ∃ rule, t.explicitRule? source target = some rule :=
    fun source _ h => ⟨.identity, h ▸ t.explicitRule?_self source⟩
  have htypes : List.Forall₂ (fun e p => e.type = p.type) (op.sources (op.key .default)) op.parameters :=
    List.forall₂_map_left_iff.1 (List.forall₂_map_right_iff.1 (List.forall₂_eq_eq_eq ▸ types_default op))
  refine op.exists_lambda hend (fits_of_access hend rfl rfl) (fun type htype hstatic => hself _ _ ?_)
    (fun x hx => hself _ _ ((List.forall₂_iff_zip.1 htypes).2 hx)) (hself _ _ resultType_default.symm)
  rw [instanceType?_default, hstatic] at htype
  exact (Option.some.inj htype).symm

/-! ## Both do the same -/

theorem takes_generic (hend : op.EndsIn a) (hcount : args.length = op.parameters.length) :
    op.Takes m (op.key .generic) o args := by
  have hfits : op.Fits (op.key .generic) := fits_of_access hend rfl rfl
  refine ⟨fun type htype => ?_, List.forall₂_iff_zip.2 ⟨hfits.count.trans hcount.symm, fun hx => ?_⟩⟩
  · have hany : type = .any := by
      cases op <;> cases htype <;> rfl
    rw [hany, TypeTable.conforms_any]
  · rw [type_of_mem_generic (List.of_mem_zip hx).1, TypeTable.conforms_any]

theorem takes_default (hobject : op.isStatic = false → m.types.conforms (.object op.owner) o = true)
    (hargs : List.Forall₂ (fun p v => m.types.conforms p.type v = true) op.parameters args) :
    op.Takes m (op.key .default) o args := by
  have htypes : List.Forall₂ (fun type v => m.types.conforms type v = true)
      ((op.sources (op.key .default)).map Expr.type) args := by
    rw [types_default, List.forall₂_map_left_iff]
    exact hargs
  refine ⟨fun type htype => ?_, List.forall₂_map_left_iff.1 htypes⟩
  rw [instanceType?_default] at htype
  split at htype
  · cases htype
  · rename_i hstatic
    cases htype
    exact hobject (Bool.eq_false_iff.2 hstatic)

theorem inputs_generic : op.inputs (op.key .generic) o args = op.boxed o args := by
  cases op <;> rfl

theorem inputs_default : op.inputs (op.key .default) o args = op.plain o args := by
  have hinstance : instanceInput (op.key .default) o = if op.isStatic then [] else [o] := by
    rw [instanceInput, instanceType?_default]
    split <;> rfl
  have hinputs : op.inputs (op.key .default) o args = instanceInput (op.key .default) o ++ args := by
    cases op <;> rfl
  rw [hinputs, hinstance, plain]
  split <;> rfl

/-- The two lambdas of a member do the same. -/
theorem run_generic_eq (hend : op.EndsIn a) {l l' : Lambda} (hl : op.lambda t (op.key .generic) = .ok l)
    (hl' : op.lambda t (op.key .default) = .ok l')
    (hobject : op.isStatic = false → m.types.conforms (.object op.owner) o = true)
    (hargs : List.Forall₂ (fun p v => m.types.conforms p.type v = true) op.parameters args) :
    m.run l.compile (op.boxed o args) = m.run l'.compile (op.plain o args) := by
  have hgeneric := op.run_lambda hend (fits_of_access hend rfl rfl)
    (takes_generic (m := m) (o := o) hend hargs.length_eq.symm) hl
  have hdefault := op.run_lambda hend (fits_of_access hend rfl rfl) (takes_default hobject hargs) hl'
  have hany : op.resultType (op.key .generic) = .any := by
    cases op <;> rfl
  have hconverted : m.converted op.yields (op.resultType (op.key .generic)) =
      m.converted op.yields (op.resultType (op.key .default)) := by
    funext v
    rw [hany, resultType_default, Machine.converted_any, Machine.converted_self]
  rw [← inputs_generic, ← inputs_default, hgeneric, hdefault, hconverted]

/-- **Generic and typed accessors do the same.**  Whatever was asked before, a member that allows the operation
has a generic and a default typed accessor, and on an instance of its type (or null) and one value for each
parameter both yield the same in every store: the typed one when it takes the instance, unless the member is
static, and then the arguments, and the generic one when it takes the instance, except for a constructor, and then
the arguments, for a call in one list.  A member that does not allow the operation has neither. -/
theorem shapes_agree (hop : op.Of t) {log log' : List Exchange} {c c' : AccessorCache} (h : Served t log c)
    (h' : Served t log' c') :
    (op.access? = none → ∃ e, handedOut (op.request t .generic) c = .error e ∧
      handedOut (op.request t .default) c' = .error e) ∧
    (op.access?.isSome = true → ∃ l l',
      handedOut (op.request t .generic) c = .ok (some ⟨op.key .generic, l⟩) ∧
      handedOut (op.request t .default) c' = .ok (some ⟨op.key .default, l'⟩) ∧
      ∀ (m : Machine) (o : Value) (args : List Value),
        (op.isStatic = false → m.types.conforms (.object op.owner) o = true) →
        List.Forall₂ (fun p v => m.types.conforms p.type v = true) op.parameters args →
        m.run l.compile (op.boxed o args) = m.run l'.compile (op.plain o args)) := by
  rw [h.records.handedOut_request hop, h'.records.handedOut_request hop]
  constructor
  · intro ha
    obtain ⟨e, he⟩ := op.exists_check_error (t := t) ha
    exact ⟨e, by rw [he .generic rfl]; rfl, by rw [he .default rfl]; rfl⟩
  · intro ha
    obtain ⟨a, ha⟩ := Option.isSome_iff_exists.1 ha
    have hend := hop.endsIn h.declared ha
    obtain ⟨l, hl⟩ := exists_generic (t := t) hend
    obtain ⟨l', hl'⟩ := exists_default (t := t) hend
    refine ⟨l, l', ?_, ?_, fun m o args => run_generic_eq hend hl hl'⟩
    · rw [check_of_access rfl rfl ha, hl]
      rfl
    · rw [check_of_access rfl rfl ha, hl']
      rfl

/-! ## A point -/

/-- A point is made from its coordinate. -/
def placing : ConstructorRef := ⟨0, 0, ⟨[⟨"x", .int32, none⟩], .open, .assign [⟨0, 0⟩]⟩⟩

/-- Points. -/
def points : TypeTable :=
  TypeTable.empty.push ⟨"Point", .declared, none, [], [], [⟨"X", .int32, .open, false, false, 0⟩], [], [],
    [placing.constructor], [.int32], []⟩

/-- Nothing is supplied for points. -/
def pointMachine : Machine := ⟨points, fun _ _ _ => pure .null, fun _ _ _ => pure ()⟩

theorem declared_points : points.Declared :=
  .declare (d := ⟨"Point", .declared, none, [], [], [⟨"X", .int32, .open, false, false⟩], [], [],
    [.assigning [(⟨"x", .int32, none⟩, "X")]]⟩) .empty (by simp) rfl

/-- The coordinate can be handed over in a list and by itself. -/
theorem shapes_agree_point : ∃ l l',
    handedOut ((construct placing).request points .generic) .empty =
      .ok (some ⟨(construct placing).key .generic, l⟩) ∧
    handedOut ((construct placing).request points .default) .empty =
      .ok (some ⟨(construct placing).key .default, l'⟩) ∧
    pointMachine.run l.compile [.list [.int32 3]] = pointMachine.run l'.compile [.int32 3] := by
  have hop : (construct placing).Of points := rfl
  obtain ⟨l, l', hl, hl', hsame⟩ :=
    (shapes_agree hop (.empty declared_points) (.empty declared_points)).2 rfl
  exact ⟨l, l', hl, hl', hsame pointMachine .null [.int32 3] nofun (.cons rfl .nil)⟩

/-- **A generic accessor does not take an instance and a list of every member.**  The generic accessor of a
constructor takes the list alone. -/
theorem exists_instance_refused : ¬∀ (t : TypeTable) (op : Operation) (l l' : Lambda) (m : Machine) (o : Value)
    (args : List Value) (s : Store), t.Declared → op.Of t → op.lambda t (op.key .generic) = .ok l →
    op.lambda t (op.key .default) = .ok l' → m.types = t → s.WellTyped t →
    m.types.conforms (.object op.owner) o = true →
    List.Forall₂ (fun p v => m.types.conforms p.type v = true) op.parameters args →
    ((m.run l.compile [o, .list args]).perform s).1.isOk =
      ((m.run l'.compile (op.plain o args)).perform s).1.isOk := by
  intro hall
  have hop : (construct placing).Of points := rfl
  have hsame := hall points (construct placing)
    ⟨[⟨"args", .list .any⟩],
      .convert .box (.construct placing [.convert .unbox (.index (.parameter 0 (.list .any)) 0) .int32]) .any⟩
    ⟨[⟨"x", .int32⟩], .construct placing [.parameter 0 .int32]⟩ pointMachine .null [.int32 3] .empty
    declared_points hop rfl rfl rfl (Store.wellTyped_empty points) rfl (.cons rfl .nil)
  cases hsame

end Operation
end Accessor
end Reshape
