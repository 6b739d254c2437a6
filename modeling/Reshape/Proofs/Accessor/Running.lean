import Reshape.Proofs.Accessor.Assembly

/-!
# Running accessors

An accessor checks what is handed over, converts the instance and the arguments to what its member takes,
performs its access, and converts the result (`Operation.run_lambda`).  What it converts from does not matter:
a value that belongs to a type is converted from this type as it is from any other, so of the boundary only the
type of the result is left in what the accessor does (`Operation.act`).
-/

namespace Reshape

open Action

/-! ## Conversions in expressions -/

namespace Expr

/-- A cast does nothing if the types agree, and otherwise converts. -/
theorem castTo_cases {t : TypeTable} {e e' : Expr} {target : ValueType}
    (hne : ∀ v type, e ≠ .constant v type) (h : e.castTo t target = .ok e') :
    e.type = target ∧ e' = e ∨ e.type ≠ target ∧ ∃ rule, e' = .convert rule e target := by
  obtain ⟨rule, hrule, rfl⟩ := convertTo_eq_ok h
  by_cases htype : e.type = target
  · have hself : t.classify e.type target .explicit = some .identity :=
      htype ▸ t.explicitRule?_self e.type
    obtain rfl : .identity = rule := Option.some.inj (hself.symm.trans hrule)
    exact .inl ⟨htype, rfl⟩
  · refine .inr ⟨htype, rule, ?_⟩
    unfold convertBy
    split
    · exact absurd (TypeTable.eq_of_explicitRule?_identity hrule) htype
    · exact absurd rfl (hne _ _)
    · rfl

end Expr

namespace Machine

variable {m : Machine} {scope : Scope} {t : TypeTable}

/-- Convert a value from one type to another. -/
def converted (m : Machine) (source target : ValueType) (v : Value) : Action Value :=
  if source = target then pure v else ofCast (m.types.cast target v)

@[simp] theorem converted_self (type : ValueType) (v : Value) : m.converted type type v = pure v :=
  if_pos rfl

@[simp] theorem converted_any (type : ValueType) (v : Value) : m.converted type .any v = pure v := by
  unfold converted
  split
  · rfl
  · rw [TypeTable.cast]
    rfl

/-- What a value belongs to does not matter to its conversion. -/
theorem converted_of_conforms {source target : ValueType} {v : Value}
    (h : m.types.conforms source v = true) :
    m.converted source target v = ofCast (m.types.cast target v) := by
  unfold converted
  split
  · rename_i htype
    rw [TypeTable.cast_of_conforms (htype ▸ h)]
    rfl
  · rfl

/-- The object that a member is used on. -/
def objectOf (v : Value) (member : String) : Action ObjectRef :=
  match v with
  | .object ref => pure ref
  | .null => throw (.nullReceiver member)
  | v => throw (.badReceiver member v.label)

/-! ## Evaluating what accessors are made of -/

/-- A cast converts what its operand yields. -/
theorem evaluate_castTo {e e' : Expr} {target : ValueType} (hne : ∀ v type, e ≠ .constant v type)
    (h : e.castTo t target = .ok e') {x : Action Value} (he : m.evaluate scope e = liftM x) :
    m.evaluate scope e' = liftM (x >>= m.converted e.type target) := by
  obtain ⟨rfl, rfl⟩ | ⟨htype, rule, rfl⟩ := Expr.castTo_cases hne h
  · rw [he, show m.converted e'.type e'.type = pure from funext (converted_self _), bind_pure]
  · have hconvert : m.converted e.type target = fun v => ofCast (m.types.cast target v) :=
      funext fun v => if_neg htype
    rw [evaluate, he, liftM_bind, hconvert]

theorem evaluateReceiver_some {e : Expr} {x : Action Value} (he : m.evaluate scope e = liftM x)
    (member : String) :
    m.evaluateReceiver scope member (some e) = liftM (x >>= fun v => some <$> objectOf v member) := by
  rw [evaluateReceiver, he, liftM_bind]
  congr 1
  funext v
  cases v <;> rfl

theorem evaluateAll_eq {es : List Expr} {xs : List (Action Value)}
    (h : List.Forall₂ (fun e x => m.evaluate scope e = liftM x) es xs) :
    m.evaluateAll scope es = liftM (xs.mapM id) := by
  induction h with
  | nil => rfl
  | cons he _ ih =>
    rw [evaluateAll, he, ih, List.mapM_cons, liftM_bind]
    simp only [id, liftM_bind, liftM_pure]

end Machine

namespace Accessor

namespace Access

variable {m : Machine} {scope : Scope}

/-- The name that is given when there is no object to access.  Constructing needs none. -/
def name : Access → String
  | load f | store f => f.field.name
  | call g => g.method.name
  | construct _ => ""

/-- Perform an access. -/
def act (m : Machine) (receiver : Option ObjectRef) (args : List Value) : Access → Action Value
  | load f => m.loadField f receiver
  | store f => do
    m.storeField f receiver (args.headD .null)
    pure .null
  | call g => do
    let v ← m.invoke g receiver args
    ofCast (m.types.cast g.method.resultType v)
  | construct c => .object <$> m.construct c args

/-- An access is performed on what its receiver and its arguments yield. -/
theorem evaluate_node (a : Access) {receiver : Option Expr} {args : List Expr}
    {r : Action (Option ObjectRef)} {xs : List (Action Value)}
    (hr : m.evaluateReceiver scope a.name receiver = liftM r)
    (hnone : ∀ c, a = .construct c → r = pure none) (hcount : args.length = a.parameters.length)
    (hargs : List.Forall₂ (fun e x => m.evaluate scope e = liftM x) args xs) :
    m.evaluate scope (a.node receiver args) =
      liftM (r >>= fun ref => xs.mapM id >>= fun vs => a.act m ref vs) := by
  cases a with
  | load f =>
    obtain rfl := List.eq_nil_of_length_eq_zero hcount
    cases hargs
    rw [name] at hr
    rw [node, Machine.evaluate, hr, liftM_bind]
    rfl
  | store f =>
    obtain ⟨e, rfl⟩ := List.length_eq_one_iff.1 hcount
    obtain _ | ⟨he, _ | _⟩ := hargs
    rw [name] at hr
    -- a write primitive is performed as an assignment is
    have hnode : m.evaluate scope (node (.store f) receiver [e]) =
        m.evaluate scope (.fieldSet f receiver e) := by
      rw [node]
      split
      · rw [Machine.evaluate, Machine.evaluate]
        rfl
      · rfl
    rw [hnode, Machine.evaluate, hr, he]
    simp only [act, List.mapM_cons, List.mapM_nil, id, bind_assoc, pure_bind, List.headD_cons, liftM_bind,
      liftM_pure]
  | call g =>
    rw [name] at hr
    rw [node, Machine.evaluate, hr, Machine.evaluateAll_eq hargs]
    simp only [act, liftM_bind]
  | construct c =>
    rw [node, Machine.evaluate, hnone c rfl, Machine.evaluateAll_eq hargs, pure_bind, liftM_bind]
    refine bind_congr fun vs => ?_
    rw [act, ← bind_pure_comp, liftM_bind]
    rfl

end Access

/-! ## What is handed over -/

/-- The instance, if one is handed over. -/
def instanceInput (key : AccessorKey) (o : Value) : List Value :=
  key.instanceType?.toList.map fun _ => o

/-- The arguments of a call.  The generic shape takes them as one list. -/
def callInputs (key : AccessorKey) (args : List Value) : List Value :=
  match key.shape with
  | .generic => [.list args]
  | .typed => args

namespace Operation

/-- What is handed over: the instance, if one is taken, and the arguments. -/
def inputs (op : Operation) (key : AccessorKey) (o : Value) (args : List Value) : List Value :=
  instanceInput key o ++ match op with
    | get _ | set _ => args
    | invoke _ | construct _ => callInputs key args

/-- Values belong to the types at which they are handed over. -/
structure Takes (op : Operation) (m : Machine) (key : AccessorKey) (o : Value) (args : List Value) : Prop where
  /-- The instance does, if one is taken. -/
  object : ∀ type, key.instanceType? = some type → m.types.conforms type o = true
  /-- Each argument does. -/
  args : List.Forall₂ (fun e v => m.types.conforms e.type v = true) (op.sources key) args

/-- The object that the member is used on; a static member is used on none. -/
def target (m : Machine) (op : Operation) (a : Access) (o : Value) : Action (Option ObjectRef) :=
  if op.isStatic then pure none
  else do
    let v ← ofCast (m.types.cast (.object op.owner) o)
    some <$> Machine.objectOf v a.name

/-- Convert the instance and the arguments to what the member takes, and access it. -/
def act (m : Machine) (op : Operation) (a : Access) (o : Value) (args : List Value) : Action Value := do
  let ref ← op.target m a o
  let vs ← (args.zip op.parameters).mapM fun x => ofCast (m.types.cast x.2.type x.1)
  a.act m ref vs

end Operation

section Run

variable {m : Machine} {t : TypeTable} {key : AccessorKey} {op : Operation} {a : Access} {o : Value}
  {args : List Value} {layout : List LocalId}

@[simp] theorem length_instanceInput : (instanceInput key o).length = (instanceDecls key).length := by
  simp [instanceInput, instanceDecls]

/-- The types of parameters of their own. -/
theorem types_own (types : List ValueType) (place : Nat) :
    ((types.zipIdx place).map fun x => Expr.parameter x.2 x.1).map Expr.type = types := by
  rw [List.map_map]
  exact List.zipIdx_map_fst place types

/-- Parameters of their own yield the arguments. -/
theorem evaluates_own {types : List ValueType} (hlength : types.length = args.length) (front : List Value) :
    List.Forall₂ (fun e v => m.evaluate ⟨front ++ args, layout⟩ e = pure v)
      ((types.zipIdx front.length).map fun x => Expr.parameter x.2 x.1) args := by
  induction types generalizing args front with
  | nil =>
    obtain rfl := List.eq_nil_of_length_eq_zero hlength.symm
    exact .nil
  | cons type types ih =>
    obtain ⟨v, vs, rfl⟩ := List.exists_cons_of_length_eq_add_one hlength.symm
    have hrest := ih (Nat.succ.inj hlength) (front ++ [v])
    rw [List.append_assoc, List.length_append] at hrest
    refine .cons ?_ hrest
    rw [Machine.evaluate, show (front ++ v :: vs)[front.length]? = some v by simp]

/-- Elements of the list yield the arguments. -/
theorem evaluates_elements (front : List Value) :
    List.Forall₂ (fun e v => m.evaluate ⟨front ++ [.list args], layout⟩ e = pure v)
      ((List.range' 0 args.length).map fun i => .index (.parameter front.length (.list .any)) i) args := by
  rw [List.forall₂_map_left_iff, List.forall₂_iff_get]
  refine ⟨by simp, fun i hi hi' => ?_⟩
  have hlist : (front ++ [Value.list args])[front.length]? = some (.list args) := by simp
  simp only [List.get_eq_getElem, List.getElem_range', Machine.evaluate, hlist, pure_bind]
  simp [hi']

/-- The instance belongs to the type at which it is handed over. -/
theorem forall₂_instance (h : ∀ type, key.instanceType? = some type → m.types.conforms type o = true) :
    List.Forall₂ (fun type v => m.types.conforms type v = true) ((instanceDecls key).map (·.type))
      (instanceInput key o) := by
  unfold instanceDecls instanceInput
  cases htype : key.instanceType? with
  | none => exact .nil
  | some type => exact .cons (h type htype) .nil

/-- The arguments of a call belong to the types at which they are handed over. -/
theorem forall₂_callInputs {declared : List Parameter} {place : Nat}
    (hcount : (handed key place declared.length).length = declared.length)
    (h : List.Forall₂ (fun e v => m.types.conforms e.type v = true) (handed key place declared.length) args) :
    List.Forall₂ (fun type v => m.types.conforms type v = true) ((handedDecls key declared).map (·.type))
      (callInputs key args) := by
  unfold handed at hcount h
  unfold handedDecls callInputs
  cases hshape : key.shape with
  | generic =>
    have hlist : m.types.conforms (.list .any) (.list args) = true := by
      rw [TypeTable.conforms, List.all_eq_true]
      exact fun v _ => TypeTable.conforms_any v
    exact .cons hlist .nil
  | typed =>
    simp only [hshape] at hcount h
    have hlength : key.parameterTypes.length = declared.length := by simpa using hcount
    have htypes : ((declared.zip key.parameterTypes).map fun x => (⟨x.1.name, x.2⟩ : ParameterDecl)).map
        (·.type) = key.parameterTypes := by
      rw [List.map_map]
      exact List.map_snd_zip (Nat.le_of_eq hlength)
    rw [htypes, ← types_own key.parameterTypes place, List.forall₂_map_left_iff]
    exact h

theorem Operation.forall₂_inputs (hfits : op.Fits key) (h : op.Takes m key o args) :
    List.Forall₂ (fun type v => m.types.conforms type v = true) ((op.declarations key).map (·.type))
      (op.inputs key o args) := by
  have hcount := hfits.count
  have hargs := h.args
  unfold Operation.declarations Operation.inputs
  rw [List.map_append]
  refine List.rel_append (forall₂_instance h.object) ?_
  cases op with
  | get f =>
    cases hargs
    exact .nil
  | set f =>
    obtain _ | ⟨hv, _ | _⟩ := hargs
    exact .cons hv .nil
  | invoke f => exact forall₂_callInputs hcount hargs
  | construct c => exact forall₂_callInputs hcount hargs

/-- What is handed over for a call yields the arguments. -/
theorem evaluates_handed {count : Nat} (front : List Value)
    (h : (handed key front.length count).length = args.length) (hcount : args.length = count) :
    List.Forall₂ (fun e v => m.evaluate ⟨front ++ callInputs key args, layout⟩ e = pure v)
      (handed key front.length count) args := by
  unfold handed at h ⊢
  unfold callInputs
  cases hshape : key.shape with
  | generic =>
    subst hcount
    exact evaluates_elements front
  | typed =>
    simp only [hshape, List.length_map, List.length_zipIdx] at h
    exact evaluates_own h front

theorem Operation.evaluates_sources (hfits : op.Fits key) (h : op.Takes m key o args) :
    List.Forall₂ (fun e v => m.evaluate ⟨op.inputs key o args, layout⟩ e = pure v)
      (op.sources key) args := by
  have hlength := h.args.length_eq
  have hcount := hlength.symm.trans hfits.count
  unfold Operation.inputs
  cases op with
  | get f =>
    cases h.args
    exact .nil
  | set f =>
    have hone : [key.valueType].length = args.length := hlength
    have hown := @evaluates_own m args layout _ hone (instanceInput key o)
    rw [length_instanceInput] at hown
    exact hown
  | invoke f | construct f =>
    simp only [Operation.sources, ← length_instanceInput (o := o)] at hlength ⊢
    exact evaluates_handed _ hlength hcount

/-- The receiver yields the object that the instance is. -/
theorem Operation.evaluateReceiver_eq (hfits : op.Fits key) (h : op.Takes m key o args) {r : Option Expr}
    (hr : receiver t key op.owner op.isStatic = .ok r) :
    m.evaluateReceiver ⟨op.inputs key o args, layout⟩ a.name r = liftM (op.target m a o) := by
  unfold receiver at hr
  unfold Operation.target
  cases htype : key.instanceType? with
  | none =>
    simp only [htype] at hr
    cases hr
    rw [if_pos (hfits.takesInstance htype), Machine.evaluateReceiver]
    rfl
  | some type =>
    simp only [htype] at hr
    cases hstatic : op.isStatic with
    | true =>
      simp only [hstatic, if_true] at hr
      cases hr
      rw [if_pos rfl, Machine.evaluateReceiver]
      rfl
    | false =>
      simp only [hstatic, Bool.false_eq_true, if_false] at hr ⊢
      obtain ⟨e, he, rfl⟩ := map_eq_ok.1 hr
      have hinstance : m.evaluate ⟨op.inputs key o args, layout⟩ (.parameter 0 type) =
          liftM (pure o : Action Value) := by
        unfold Operation.inputs
        rw [instanceInput, htype, Machine.evaluate]
        rfl
      have hconf := h.object type htype
      have hyields := Machine.evaluate_castTo (e := .parameter 0 type) nofun he hinstance
      rw [Machine.evaluateReceiver_some hyields, pure_bind,
        show (Expr.parameter 0 type).type = type from rfl, Machine.converted_of_conforms hconf]

/-- What casts of arguments to parameters yield. -/
theorem evaluates_casts {scope : Scope} {sources es : List Expr} {ps : List Parameter}
    (hyields : List.Forall₂ (fun e v => m.evaluate scope e = pure v) sources args)
    (hconf : List.Forall₂ (fun e v => m.types.conforms e.type v = true) sources args)
    (hne : ∀ e ∈ sources, ∀ v type, e ≠ .constant v type)
    (hes : List.Forall₂ (fun x e => castFor t x = .ok e) (sources.zip ps) es) :
    List.Forall₂ (fun e x => m.evaluate scope e = liftM x) es
      ((args.zip ps).map fun x => ofCast (m.types.cast x.2.type x.1)) := by
  induction hyields generalizing ps es with
  | nil =>
    cases hes
    exact .nil
  | @cons source v _ _ hv _ ih =>
    cases hconf with
    | cons hv' hconf =>
      cases ps with
      | nil =>
        cases hes
        exact .nil
      | cons p ps =>
        cases hes with
        | cons he hes =>
          refine .cons ?_ (ih hconf (fun e he => hne e (List.mem_cons_of_mem _ he)) hes)
          have hsource : m.evaluate scope source = liftM (pure v : Action Value) := hv
          rw [Machine.evaluate_castTo (hne _ (List.mem_cons_self ..)) he hsource, pure_bind,
            Machine.converted_of_conforms hv']

theorem Operation.parameters_of_lambda (hend : op.EndsIn a) (hfits : op.Fits key) {l : Lambda}
    (hl : op.lambda t key = .ok l) : l.parameters = op.declarations key := by
  rw [op.lambda_eq hend hfits] at hl
  obtain ⟨_, -, hl⟩ := bind_eq_ok.1 hl
  obtain ⟨_, -, hl⟩ := bind_eq_ok.1 hl
  obtain ⟨_, -, hl⟩ := bind_eq_ok.1 hl
  cases hl
  rfl

/-- **An accessor** converts the instance and the arguments to what its member takes, accesses it, and converts
the result. -/
theorem Operation.run_lambda (hend : op.EndsIn a) (hfits : op.Fits key) (h : op.Takes m key o args)
    {l : Lambda} (hl : op.lambda t key = .ok l) :
    m.run l.compile (op.inputs key o args) = op.act m a o args >>= m.converted op.yields (op.resultType key) := by
  rw [op.lambda_eq hend hfits] at hl
  obtain ⟨r, hr, hl⟩ := bind_eq_ok.1 hl
  obtain ⟨es, hes, hl⟩ := bind_eq_ok.1 hl
  obtain ⟨body, hbody, hl⟩ := bind_eq_ok.1 hl
  cases hl
  suffices hrun : ∀ layout, m.evaluate ⟨op.inputs key o args, layout⟩ body =
      liftM (op.act m a o args >>= m.converted op.yields (op.resultType key)) from
    Machine.run_compile (op.forall₂_inputs hfits h) (hrun _)
  intro layout
  have hcasts := mapM_eq_ok.1 hes
  have hcount : es.length = a.parameters.length := by
    rw [← hcasts.length_eq, List.length_zip, hfits.count, Nat.min_self, hend.parameters]
  have hnone : ∀ c, a = .construct c → op.target m a o = pure none := by
    rintro c rfl
    rw [Operation.target, ← hend.isStatic]
    rfl
  have hyields := @op.evaluates_sources m key o args layout hfits h
  have hargs := evaluates_casts hyields h.args sources_ne_constant hcasts
  rw [Machine.evaluate_castTo a.node_ne_constant hbody
    (a.evaluate_node (op.evaluateReceiver_eq hfits h hr) hnone hcount hargs), a.type_node, hend.type,
    Operation.act, List.mapM_map]
  rfl

end Run
end Accessor
end Reshape
