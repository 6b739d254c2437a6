import Reshape.Proofs.Accessor.Operation
import Reshape.Proofs.Accessor.Reading
import Reshape.Proofs.Projection.Assembly

/-!
# The lambdas of accessors

The lambda of an accessor takes what its boundary hands over (`Operation.sources`), casts it to what the access
needs, performs the access, and casts the result back (`Operation.lambda_eq`).  So the lambda is determined by
the operation and the key, and later definitions do not change it (`Operation.lambda_mono`).
-/

namespace Reshape

/-! ## Making expressions -/

namespace Expr

variable {t t' : TypeTable}

/-- The conversion of an expression that is no literal does not look at the definitions. -/
theorem convertBy_eq (t t' : TypeTable) {e : Expr} (he : ∀ v type, e ≠ .constant v type)
    (rule : ConversionRule) (target : ValueType) :
    convertBy t' rule e target = convertBy t rule e target := by
  unfold convertBy
  split
  · rfl
  · exact absurd rfl (he _ _)
  · rfl

theorem castTo_mono (ht : t.Extends t') {e e' : Expr} (he : ∀ v type, e ≠ .constant v type)
    {target : ValueType} (h : e.castTo t target = .ok e') : e.castTo t' target = .ok e' := by
  obtain ⟨rule, hrule, rfl⟩ := convertTo_eq_ok h
  have hlater : t'.classify e.type target .explicit = some rule := TypeTable.explicitRule?_mono ht hrule
  simp only [castTo, convertTo, hlater, convertBy_eq t t' he]

section Closed

variable {parameters : List ParameterDecl}

theorem closed_parameter {place : Nat} {d : ParameterDecl} (h : parameters[place]? = some d) :
    (parameter place d.type).Closed parameters := by
  refine ⟨each_parameter.2 ?_, rfl⟩
  simp only [checkParameter, h, if_true]

theorem closed_zero (type : ValueType) : (zero type).Closed parameters := ⟨each_zero.2 rfl, rfl⟩

theorem Closed.index {e : Expr} (h : e.Closed parameters) (position : Nat) :
    (index e position).Closed parameters :=
  ⟨each_index.2 ⟨rfl, h.declared⟩, by rw [checkScopes]; exact h.scopes⟩

theorem Closed.castTo {e e' : Expr} (h : e.Closed parameters) {target : ValueType}
    (he : e.castTo t target = .ok e') : e'.Closed parameters := by
  have hconvert : ∀ rule, (convert rule e target).Closed parameters := fun rule =>
    ⟨each_convert.2 ⟨rfl, h.declared⟩, by rw [checkScopes]; exact h.scopes⟩
  obtain ⟨rule, -, rfl⟩ := convertTo_eq_ok he
  unfold convertBy
  split
  · exact h
  · split
    · exact closed_constant parameters _ _
    · exact hconvert _
  · exact hconvert _

/-- A closed body makes a lambda. -/
theorem Closed.make {e : Expr} (h : e.Closed parameters) :
    Lambda.make parameters e = .ok ⟨parameters, e⟩ :=
  bind_eq_ok.2 ⟨(), forM_eq_ok.2 h.declared, bind_eq_ok.2 ⟨(), h.scopes, rfl⟩⟩

end Closed

end Expr

namespace Accessor

namespace Access

variable {t : TypeTable} {receiver : Option Expr} {args : List Expr}

theorem node_ne_constant (a : Access) (v : Value) (type : ValueType) :
    a.node receiver args ≠ .constant v type := by
  cases a <;> simp only [node] <;> try split
  all_goals nofun

@[simp] theorem type_node (a : Access) : (a.node receiver args).type = a.type := by
  cases a <;> simp only [node] <;> try split
  all_goals rfl

theorem closed_node {parameters : List ParameterDecl} (a : Access)
    (hreceiver : ∀ e, receiver = some e → e.Closed parameters)
    (hargs : ∀ e ∈ args, e.Closed parameters) : (a.node receiver args).Closed parameters := by
  have hvalue : (args.headD (.zero .any)).Closed parameters := by
    cases args with
    | nil => exact Expr.closed_zero .any
    | cons e es => exact hargs e (List.mem_cons_self ..)
  have hdeclared := fun e he => (hreceiver e he).declared
  have hscopes := Expr.checkReceiverScopes_eq_ok.2 fun e he => (hreceiver e he).scopes
  have hall := Expr.checkAllScopes_eq_ok.2 fun e he => (hargs e he).scopes
  cases a with
  | load f => exact ⟨Expr.each_fieldGet.2 ⟨rfl, hdeclared⟩, by rw [node, Expr.checkScopes, hscopes]⟩
  | store f =>
    rw [node]
    split
    · refine ⟨Expr.each_writePrimitive.2 ⟨rfl, hdeclared, hvalue.declared⟩, ?_⟩
      rw [Expr.checkScopes, Expr.seq_eq_ok]
      exact ⟨hscopes, hvalue.scopes⟩
    · refine ⟨Expr.each_fieldSet.2 ⟨rfl, hdeclared, hvalue.declared⟩, ?_⟩
      rw [Expr.checkScopes, Expr.seq_eq_ok]
      exact ⟨hscopes, hvalue.scopes⟩
  | call g =>
    refine ⟨Expr.each_call.2 ⟨rfl, hdeclared, fun e he => (hargs e he).declared⟩, ?_⟩
    rw [node, Expr.checkScopes, Expr.seq_eq_ok]
    exact ⟨hscopes, hall⟩
  | construct c =>
    refine ⟨Expr.each_construct.2 ⟨rfl, fun e he => (hargs e he).declared⟩, ?_⟩
    rw [node, Expr.checkScopes]
    exact hall

/-- A call whose receiver and arguments fit is made as it is. -/
theorem mkCall_self {g : MethodRef} (hreceiver : Expr.ReceiverTyped g.owner g.method.isStatic receiver)
    (hargs : List.Forall₂ (fun p e => e.type = p.type) g.method.parameters args) :
    Expr.mkCall t receiver g args = .ok (.call g receiver args) := by
  rw [Expr.mkCall, Expr.bindReceiver_self hreceiver, Expr.bindArguments_eq_self hargs]
  rfl

theorem mkConstruct_self {c : ConstructorRef}
    (hargs : List.Forall₂ (fun p e => e.type = p.type) c.constructor.parameters args) :
    Expr.mkConstruct t c args = .ok (.construct c args) := by
  rw [Expr.mkConstruct, Expr.bindArguments_eq_self hargs]
  rfl

end Access

/-! ## Lambdas -/

/-- Cast to the type of a parameter. -/
def castFor (t : TypeTable) (x : Expr × Parameter) : Except Error Expr :=
  x.1.castTo t x.2.type

/-- The arguments as a boundary hands them over from a place on: elements of the list, or parameters of
their own. -/
def handed (key : AccessorKey) (place count : Nat) : List Expr :=
  match key.shape with
  | .generic => (List.range' 0 count).map fun i => .index (.parameter place (.list .any)) i
  | .typed => (key.parameterTypes.zipIdx place).map fun x => .parameter x.2 x.1

/-- The declarations of the arguments. -/
def handedDecls (key : AccessorKey) (declared : List Parameter) : List ParameterDecl :=
  match key.shape with
  | .generic => [⟨"args", .list .any⟩]
  | .typed => (declared.zip key.parameterTypes).map fun x => ⟨x.1.name, x.2⟩

/-- The declaration of the instance, if one is taken. -/
def instanceDecls (key : AccessorKey) : List ParameterDecl :=
  key.instanceType?.toList.map fun type => ⟨"instance", type⟩

/-- The receiver that is made from the instance. -/
def receiver (t : TypeTable) (key : AccessorKey) (owner : TypeId) (isStatic : Bool) :
    Except Error (Option Expr) :=
  match key.instanceType? with
  | none => .ok none
  | some type =>
    if isStatic then .ok none else ((Expr.parameter 0 type).castTo t (.object owner)).map some

namespace Operation

/-- The arguments as they are handed over. -/
def sources (op : Operation) (key : AccessorKey) : List Expr :=
  let place := (instanceDecls key).length
  match op with
  | get _ => []
  | set _ => [.parameter place key.valueType]
  | invoke f => handed key place f.method.parameters.length
  | construct c => handed key place c.constructor.parameters.length

/-- The declared parameters. -/
def declarations (op : Operation) (key : AccessorKey) : List ParameterDecl :=
  instanceDecls key ++ match op with
    | get _ => []
    | set _ => [⟨"value", key.valueType⟩]
    | invoke f => handedDecls key f.method.parameters
    | construct c => handedDecls key c.constructor.parameters

/-- The type at which the result is handed back. -/
def resultType (key : AccessorKey) : Operation → ValueType
  | set _ => .any
  | _ => key.valueType

/-- Cast what is handed over, perform the access, cast the result. -/
def assemble (t : TypeTable) (key : AccessorKey) (op : Operation) (a : Access) : Except Error Lambda := do
  let receiver ← receiver t key op.owner op.isStatic
  let args ← ((op.sources key).zip op.parameters).mapM (castFor t)
  let body ← (a.node receiver args).castTo t (op.resultType key)
  pure ⟨op.declarations key, body⟩

/-- The key can be one of the operation. -/
structure Fits (op : Operation) (key : AccessorKey) : Prop where
  /-- An instance is taken if there is one. -/
  takesInstance : key.instanceType? = none → op.isStatic = true
  /-- A constructor takes none. -/
  construct : ∀ c, op = .construct c → key.instanceType? = none
  /-- Each parameter gets an argument. -/
  count : (op.sources key).length = op.parameters.length

end Operation

section Assemble

variable {t t' : TypeTable} {key : AccessorKey} {op : Operation} {a : Access}

theorem receiverOf_eq (t : TypeTable) (key : AccessorKey) (owner : TypeId) (isStatic : Bool) :
    receiverOf t key owner isStatic = (receiver t key owner isStatic).map (instanceDecls key, ·) := by
  simp only [receiverOf, receiver, instanceDecls]
  cases key.instanceType? with
  | none => rfl
  | some type =>
    cases isStatic with
    | true => rfl
    | false =>
      simp only [Bool.false_eq_true, if_false]
      cases (Expr.parameter 0 type).castTo t (.object owner) <;> rfl

theorem listArguments_eq (t : TypeTable) (place position : Nat) (ps : List Parameter) :
    listArguments t place position ps = (((List.range' position ps.length).map fun i =>
      Expr.index (.parameter place (.list .any)) i).zip ps).mapM (castFor t) := by
  induction ps generalizing position with
  | nil => rfl
  | cons p ps ih =>
    rw [listArguments, List.length_cons, List.range'_succ, List.map_cons, List.zip_cons_cons,
      List.mapM_cons, ← ih]
    rfl

theorem ownArguments_eq (t : TypeTable) (place : Nat) (ps : List Parameter) (types : List ValueType) :
    ownArguments t place ps types = (((types.zipIdx place).map fun x =>
      Expr.parameter x.2 x.1).zip ps).mapM (castFor t) := by
  induction ps generalizing place types with
  | nil =>
    rw [List.zip_nil_right]
    cases types <;> rfl
  | cons p ps ih =>
    cases types with
    | nil => rfl
    | cons type types =>
      rw [ownArguments, List.zipIdx_cons, List.map_cons, List.zip_cons_cons, List.mapM_cons, ← ih]
      rfl

theorem argumentsOf_eq (t : TypeTable) (key : AccessorKey) (place : Nat) (ps : List Parameter) :
    argumentsOf t key place ps =
      (((handed key place ps.length).zip ps).mapM (castFor t)).map (handedDecls key ps, ·) := by
  simp only [argumentsOf, handed, handedDecls]
  cases key.shape with
  | generic => rw [listArguments_eq]
  | typed => rw [ownArguments_eq]

/-- The receiver that is made fits the member. -/
theorem receiverTyped_of_receiver {owner : TypeId} {isStatic : Bool} {r : Option Expr}
    (hinstance : key.instanceType? = none → isStatic = true)
    (h : receiver t key owner isStatic = .ok r) : Expr.ReceiverTyped owner isStatic r := by
  unfold receiver at h
  split at h
  · rename_i hnone
    cases h
    exact hinstance hnone
  · split at h
    · rename_i hstatic
      cases h
      exact hstatic
    · rename_i hstatic
      obtain ⟨e, he, rfl⟩ := map_eq_ok.1 h
      exact ⟨by simpa using hstatic, Expr.type_castTo he⟩

/-- The receiver that is made stands over the declarations. -/
theorem closed_receiver {owner : TypeId} {isStatic : Bool} {r : Option Expr}
    (h : receiver t key owner isStatic = .ok r) (more : List ParameterDecl) :
    ∀ e, r = some e → e.Closed (instanceDecls key ++ more) := by
  unfold receiver at h
  split at h
  · cases h
    nofun
  · rename_i type htype
    split at h
    · cases h
      nofun
    · obtain ⟨e, he, rfl⟩ := map_eq_ok.1 h
      rintro _ ⟨⟩
      refine Expr.Closed.castTo (Expr.closed_parameter (d := ⟨"instance", type⟩) ?_) he
      simp [instanceDecls, htype]

/-- Arguments are cast to the types of the parameters. -/
theorem types_of_castFor {sources args : List Expr} {ps : List Parameter}
    (hcount : sources.length = ps.length) (h : (sources.zip ps).mapM (castFor t) = .ok args) :
    List.Forall₂ (fun p e => e.type = p.type) ps args := by
  have hall := (mapM_eq_ok.1 h).imp fun x e (he : castFor t x = .ok e) => Expr.type_castTo he
  have hps : (sources.zip ps).map Prod.snd = ps :=
    List.map_snd_zip (Nat.le_of_eq hcount.symm)
  rw [← hps, List.forall₂_map_left_iff]
  exact hall

theorem closed_handed {declared : List Parameter} (hcount : (handed key (instanceDecls key).length
    declared.length).length = declared.length) :
    ∀ e ∈ handed key (instanceDecls key).length declared.length,
      e.Closed (instanceDecls key ++ handedDecls key declared) := by
  intro e he
  unfold handed at hcount he
  cases hshape : key.shape with
  | generic =>
    simp only [hshape] at he
    obtain ⟨i, -, rfl⟩ := List.mem_map.1 he
    refine Expr.Closed.index (Expr.closed_parameter (d := ⟨"args", .list .any⟩) ?_) i
    simp [handedDecls, hshape]
  | typed =>
    simp only [hshape] at he hcount
    obtain ⟨⟨type, place⟩, hplace, rfl⟩ := List.mem_map.1 he
    have hlength : key.parameterTypes.length = declared.length := by simpa using hcount
    obtain ⟨hle, htype⟩ := List.mk_mem_zipIdx_iff_le_and_getElem?_sub.1 hplace
    have hlt : place - (instanceDecls key).length < declared.length :=
      hlength ▸ (List.getElem?_eq_some_iff.1 htype).1
    have hdecl : (instanceDecls key ++ handedDecls key declared)[place]? =
        some ⟨(declared[place - (instanceDecls key).length]).name, type⟩ := by
      rw [List.getElem?_append_right hle]
      simp only [handedDecls, hshape, List.getElem?_map, List.getElem?_zip_eq_some, Option.map_eq_some_iff]
      exact ⟨(_, type), ⟨List.getElem?_eq_getElem hlt, htype⟩, rfl⟩
    exact Expr.closed_parameter hdecl

/-- The sources stand over the declarations. -/
theorem closed_sources (hfits : op.Fits key) : ∀ e ∈ op.sources key, e.Closed (op.declarations key) := by
  have hcount := hfits.count
  cases op with
  | get m => nofun
  | set m =>
    intro e he
    rw [List.mem_singleton.1 he]
    refine Expr.closed_parameter (d := ⟨"value", key.valueType⟩) ?_
    simp [Operation.declarations]
  | invoke f => exact closed_handed hcount
  | construct c => exact closed_handed hcount

theorem closed_args (hfits : op.Fits key) {args : List Expr}
    (h : ((op.sources key).zip op.parameters).mapM (castFor t) = .ok args) :
    ∀ e ∈ args, e.Closed (op.declarations key) := by
  intro e he
  obtain ⟨x, hx, hcast⟩ := exists_of_mem_forall₂ (mapM_eq_ok.1 h) he
  exact (closed_sources hfits x.1 (List.of_mem_zip hx).1).castTo hcast

/-- A body that is cast back makes a lambda over the declarations. -/
theorem make_of_node (hfits : op.Fits key) {r : Option Expr} {args : List Expr}
    (hr : receiver t key op.owner op.isStatic = .ok r)
    (hargs : ((op.sources key).zip op.parameters).mapM (castFor t) = .ok args) (type : ValueType) :
    ((a.node r args).castTo t type >>= Lambda.make (op.declarations key)) =
      (a.node r args).castTo t type >>= fun body => pure ⟨op.declarations key, body⟩ := by
  have hclosed : (a.node r args).Closed (op.declarations key) :=
    a.closed_node (closed_receiver hr _) (closed_args hfits hargs)
  exact bind_congr_ok fun body hbody => (hclosed.castTo hbody).make

/-- An access whose receiver and arguments fit is made as it is. -/
theorem readMember_eq {m : MemberRef} (hend : (Operation.get m).EndsIn a) {r : Option Expr}
    (hr : Expr.ReceiverTyped m.owner m.isStatic r) : readMember t r m = .ok (a.node r []) := by
  cases m with
  | field f =>
    obtain rfl : Access.load f = a := Option.some.inj hend.access
    have hbound : Expr.bindReceiver t r f.owner f.field.isStatic f.field.name = .ok r :=
      Expr.bindReceiver_self hr f.field.name
    rw [readMember, Expr.mkFieldGet, hbound]
    rfl
  | property p =>
    obtain ⟨g, hg, rfl⟩ := Option.map_eq_some_iff.1 hend.access
    simp only [readMember, hg]
    refine Access.mkCall_self ?_ ?_
    · rw [show g.owner = _ from hend.owner, show g.method.isStatic = _ from hend.isStatic]
      exact hr
    · rw [show g.method.parameters = _ from hend.parameters]
      exact .nil

theorem storeTo_eq {m : MemberRef} (hend : (Operation.set m).EndsIn a) {target : AssignTarget}
    (htarget : m.target? = some target) {r : Option Expr}
    (hr : Expr.ReceiverTyped m.owner m.isStatic r) {value : Expr} (hvalue : value.type = m.type) :
    storeTo t r target value = .ok (a.node r [value]) := by
  cases m with
  | field f =>
    obtain rfl : Access.store f = a := Option.some.inj hend.access
    have hself : value.coerce t f.field.type = .ok value := by
      rw [show f.field.type = value.type from hvalue.symm]
      exact Expr.coerce_self t value
    have hbound : Expr.bindReceiver t r f.owner f.field.isStatic f.field.name = .ok r :=
      Expr.bindReceiver_self hr f.field.name
    obtain rfl := Option.some.inj htarget
    cases hinit : f.field.initOnly with
    | true =>
      simp only [if_true, storeTo, Expr.mkWritePrimitive, Access.node, hinit]
      rw [hbound, hself]
      rfl
    | false =>
      simp only [Bool.false_eq_true, if_false, storeTo, Expr.mkFieldSet, Access.node, hinit]
      rw [hbound, hself]
      rfl
  | property p =>
    obtain ⟨s, hs, rfl⟩ := Option.map_eq_some_iff.1 htarget
    obtain ⟨s', hs', rfl⟩ := Option.map_eq_some_iff.1 hend.access
    obtain rfl : s = s' := Option.some.inj (hs.symm.trans hs')
    refine Access.mkCall_self ?_ ?_
    · rw [show s.owner = _ from hend.owner, show s.method.isStatic = _ from hend.isStatic]
      exact hr
    · rw [show s.method.parameters = _ from hend.parameters]
      exact .cons hvalue .nil

/-! ## One lambda for each operation -/

theorem getterLambda_eq {m : MemberRef} (hend : (Operation.get m).EndsIn a)
    (hfits : (Operation.get m).Fits key) :
    getterLambda t key m = (Operation.get m).assemble t key a := by
  have hlambda : getterLambda t key m = receiver t key m.owner m.isStatic >>= fun r =>
      readMember t r m >>= fun v => v.castTo t key.valueType >>= Lambda.make (instanceDecls key) := by
    rw [getterLambda, receiverOf_eq, map_bind_ok]
  have hdecls : (Operation.get m).declarations key = instanceDecls key := List.append_nil _
  rw [hlambda]
  refine bind_congr_ok fun r hr => ?_
  rw [readMember_eq hend (receiverTyped_of_receiver hfits.takesInstance hr)]
  refine Eq.trans ?_ (make_of_node hfits hr rfl _)
  rw [hdecls]
  rfl

/-- What can be written has a target. -/
theorem exists_target {m : MemberRef} (hend : (Operation.set m).EndsIn a) :
    ∃ target, m.target? = some target := by
  cases m with
  | field f => exact ⟨_, rfl⟩
  | property p =>
    obtain ⟨s, hs, -⟩ := Option.map_eq_some_iff.1 hend.access
    exact ⟨.setter s, by simp only [MemberRef.target?, hs, Option.map_some]⟩

theorem setterLambda_eq {m : MemberRef} (hend : (Operation.set m).EndsIn a)
    (hfits : (Operation.set m).Fits key) {target : AssignTarget} (htarget : m.target? = some target) :
    setterLambda t key m target = (Operation.set m).assemble t key a := by
  have hlambda : setterLambda t key m target = receiver t key m.owner m.isStatic >>= fun r =>
      castFor t (.parameter (instanceDecls key).length key.valueType, ⟨"value", m.type, none⟩) >>=
        fun value => storeTo t r target value >>=
          Lambda.make (instanceDecls key ++ [⟨"value", key.valueType⟩]) := by
    rw [setterLambda, receiverOf_eq, map_bind_ok]
    rfl
  have hone : (((Operation.set m).sources key).zip (Operation.set m).parameters).mapM (castFor t) =
      castFor t (.parameter (instanceDecls key).length key.valueType, ⟨"value", m.type, none⟩) >>=
        fun value => pure [value] := by
    rw [show ((Operation.set m).sources key).zip (Operation.set m).parameters = [(_, _)] from rfl,
      List.mapM_cons, List.mapM_nil]
    rfl
  rw [hlambda]
  refine bind_congr_ok fun r hr => ?_
  rw [hone, bind_assoc]
  refine bind_congr_ok fun value hvalue => ?_
  have hargs : (((Operation.set m).sources key).zip (Operation.set m).parameters).mapM (castFor t) =
      .ok [value] := by
    rw [hone, hvalue]
    rfl
  -- writing yields nothing, and what it yields is handed back as it is
  have hany : (a.node r [value]).castTo t .any = .ok (a.node r [value]) := by
    have hself := castTo_self t (a.node r [value])
    rwa [Access.type_node, show a.type = .any from hend.type] at hself
  rw [storeTo_eq hend htarget (receiverTyped_of_receiver hfits.takesInstance hr) (Expr.type_castTo hvalue)]
  refine Eq.trans ?_ (make_of_node hfits hr hargs _)
  rw [show (Operation.set m).resultType key = .any from rfl, hany]
  rfl

theorem methodLambda_eq {f : MethodRef} (hfits : (Operation.invoke f).Fits key) :
    methodLambda t key f = (Operation.invoke f).assemble t key (.call f) := by
  have hlambda : methodLambda t key f = receiver t key f.owner f.method.isStatic >>= fun r =>
      (((Operation.invoke f).sources key).zip f.method.parameters).mapM (castFor t) >>= fun args =>
        Expr.mkCall t r f args >>= fun call => call.castTo t key.valueType >>=
          Lambda.make ((Operation.invoke f).declarations key) := by
    simp only [methodLambda, receiverOf_eq, argumentsOf_eq, map_bind_ok]
    rfl
  rw [hlambda]
  refine bind_congr_ok fun r hr => bind_congr_ok fun args hargs => ?_
  rw [Access.mkCall_self (receiverTyped_of_receiver hfits.takesInstance hr)
    (types_of_castFor hfits.count hargs)]
  exact make_of_node (a := .call f) hfits hr hargs key.valueType

theorem constructorLambda_eq {c : ConstructorRef} (hfits : (Operation.construct c).Fits key) :
    constructorLambda t key c = (Operation.construct c).assemble t key (.construct c) := by
  have hnone : key.instanceType? = none := hfits.construct c rfl
  have hreceiver : receiver t key (Operation.construct c).owner (Operation.construct c).isStatic =
      .ok none := by
    rw [receiver, hnone]
  have hempty : instanceDecls key = [] := by
    rw [instanceDecls, hnone]
    rfl
  have hlambda : constructorLambda t key c =
      (((Operation.construct c).sources key).zip c.constructor.parameters).mapM (castFor t) >>= fun args =>
        Expr.mkConstruct t c args >>= fun object => object.castTo t key.valueType >>=
          Lambda.make ((Operation.construct c).declarations key) := by
    rw [constructorLambda, argumentsOf_eq, map_bind_ok, Operation.sources, Operation.declarations, hempty]
    rfl
  rw [hlambda, Operation.assemble, hreceiver]
  refine bind_congr_ok fun args hargs => ?_
  rw [Access.mkConstruct_self (types_of_castFor hfits.count hargs)]
  exact make_of_node (a := .construct c) hfits hreceiver hargs key.valueType

/-- **The lambda of an accessor** casts what is handed over, performs the access, and casts the result. -/
theorem Operation.lambda_eq (hend : op.EndsIn a) (hfits : op.Fits key) :
    op.lambda t key = op.assemble t key a := by
  cases op with
  | get m => exact getterLambda_eq hend hfits
  | set m =>
    obtain ⟨target, htarget⟩ := exists_target hend
    simp only [Operation.lambda, htarget]
    exact setterLambda_eq hend hfits htarget
  | invoke f =>
    obtain rfl : Access.call f = a := Option.some.inj hend.access
    exact methodLambda_eq hfits
  | construct c =>
    obtain rfl : Access.construct c = a := Option.some.inj hend.access
    exact constructorLambda_eq hfits

/-! ## What the lambda depends on -/

theorem receiver_mono (ht : t.Extends t') {owner : TypeId} {isStatic : Bool} {r : Option Expr}
    (h : receiver t key owner isStatic = .ok r) : receiver t' key owner isStatic = .ok r := by
  unfold receiver at h ⊢
  cases htype : key.instanceType? with
  | none => rwa [htype] at h
  | some type =>
    simp only [htype] at h ⊢
    cases isStatic with
    | true => exact h
    | false =>
      obtain ⟨e, he, rfl⟩ := map_eq_ok.1 h
      exact map_eq_ok.2 ⟨e, Expr.castTo_mono (e := .parameter 0 type) ht nofun he, rfl⟩

theorem sources_ne_constant : ∀ e ∈ op.sources key, ∀ v type, e ≠ .constant v type := by
  have hhanded : ∀ place count, ∀ e ∈ handed key place count, ∀ v type, e ≠ .constant v type := by
    intro place count e he
    unfold handed at he
    split at he
    all_goals
      obtain ⟨_, -, rfl⟩ := List.mem_map.1 he
      nofun
  cases op with
  | get m => nofun
  | set m =>
    intro e he
    rw [List.mem_singleton.1 he]
    nofun
  | invoke f => exact hhanded _ _
  | construct c => exact hhanded _ _

/-- A lambda that was made is made in the same way later. -/
theorem Operation.assemble_mono (ht : t.Extends t') {l : Lambda} (h : op.assemble t key a = .ok l) :
    op.assemble t' key a = .ok l := by
  obtain ⟨r, hr, h⟩ := bind_eq_ok.1 h
  obtain ⟨args, hargs, h⟩ := bind_eq_ok.1 h
  obtain ⟨body, hbody, h⟩ := bind_eq_ok.1 h
  have hlater : ((op.sources key).zip op.parameters).mapM (castFor t') = .ok args :=
    mapM_mono hargs fun x hx _ hcast =>
      Expr.castTo_mono ht (sources_ne_constant x.1 (List.of_mem_zip hx).1) hcast
  exact bind_eq_ok.2 ⟨r, receiver_mono ht hr, bind_eq_ok.2 ⟨args, hlater,
    bind_eq_ok.2 ⟨body, Expr.castTo_mono ht a.node_ne_constant hbody, h⟩⟩⟩

/-- As many types are handed over as there are parameters, or one list. -/
theorem length_handed {r : AccessorRequest} {declared : List Parameter} {callee : String}
    (h : ((argumentTypes declared r callee).map fun _ => ()) = .ok ()) (hshape : key.shape = r.shape)
    (htypes : key.parameterTypes = Operation.handedTypes r declared) (place : Nat) :
    (handed key place declared.length).length = declared.length := by
  obtain ⟨types, hok, -⟩ := map_eq_ok.1 h
  have htypes := htypes.trans (argumentTypes_eq_ok hok).symm
  unfold handed
  unfold argumentTypes at hok
  rw [hshape]
  split at hok
  · rename_i hgeneric
    simp [hgeneric]
  · rename_i htyped _
    cases hok
    simp [htyped, htypes]
  · rename_i given htyped _
    split at hok
    · rename_i hlength
      cases hok
      simp [htyped, htypes, hlength]
    · cases hok

/-- The key of a request that is not refused is one of the operation. -/
theorem Operation.fits_key {r : AccessorRequest} (h : op.check t r = .ok ()) : op.Fits (op.key r) := by
  have hboundary : ∀ owner isStatic type, (boundary r owner isStatic type).1 = none → isStatic = true := by
    intro owner isStatic type hnone
    unfold boundary at hnone
    split at hnone
    · cases hnone
    · cases isStatic with
      | true => rfl
      | false => cases hnone
  cases op with
  | get m => exact ⟨hboundary _ _ _, nofun, rfl⟩
  | set m => exact ⟨hboundary _ _ _, nofun, rfl⟩
  | invoke f =>
    obtain ⟨-, -, htypes⟩ := bind_eq_ok.1 h
    exact ⟨hboundary _ _ _, nofun, length_handed htypes rfl rfl _⟩
  | construct c =>
    obtain ⟨-, -, htypes⟩ := bind_eq_ok.1 h
    exact ⟨fun _ => rfl, fun _ _ => rfl, length_handed htypes rfl rfl _⟩

/-- **The lambda that is made for a key** is the same under later definitions. -/
theorem Operation.lambda_mono (hop : op.Of t) (hd : t.Declared) (ht : t.Extends t') {r : AccessorRequest}
    (h : op.check t r = .ok ()) {l : Lambda} (hl : op.lambda t (op.key r) = .ok l) :
    op.lambda t' (op.key r) = .ok l := by
  obtain ⟨a, ha⟩ := op.exists_access h
  have hend := hop.endsIn hd ha
  rw [Operation.lambda_eq hend (op.fits_key h)] at hl ⊢
  exact Operation.assemble_mono ht hl

end Assemble

end Accessor
end Reshape
