import Reshape.Proofs.Accessor.Cache
import Reshape.Proofs.Store.Access

/-!
# What an accessor is made for

Getters, setters and invokers are one thing with parameters.  An `Accessor.Operation` is what is asked for: it
has an effective boundary (`Operation.key`), a request for it is refused by `Operation.check` or asks the cache
for the accessor of its key (`run_request`), and it ends in an `Accessor.Access` of a field, a method or a
constructor (`Operation.EndsIn`).  Among operations on declared members the key says which one it is
(`Operation.Of.eq_of_key`).
-/

namespace Reshape

namespace TypeTable

variable {t : TypeTable}

/-- A method of a declared type is known by its identity. -/
theorem HasMethod.eq_of_id {f f' : MethodRef} (hf : t.HasMethod f) (hf' : t.HasMethod f')
    (h : f.id = f'.id) : f = f' := by
  obtain ⟨owner, index, method⟩ := f
  obtain ⟨owner', index', method'⟩ := f'
  simp only [MethodRef.id, MemberId.mk.injEq, true_and] at h
  obtain ⟨rfl, rfl⟩ := h
  have hsame : method = method' := Option.some.inj (hf.symm.trans hf')
  rw [hsame]

theorem HasConstructor.eq_of_id {c c' : ConstructorRef} (hc : t.HasConstructor c)
    (hc' : t.HasConstructor c') (h : c.id = c'.id) : c = c' := by
  obtain ⟨owner, index, constructor⟩ := c
  obtain ⟨owner', index', constructor'⟩ := c'
  simp only [ConstructorRef.id, MemberId.mk.injEq, true_and] at h
  obtain ⟨rfl, rfl⟩ := h
  have hsame : constructor = constructor' := Option.some.inj (hc.symm.trans hc')
  rw [hsame]

end TypeTable

namespace Accessor

/-! ## Accesses -/

/-- What an accessor does in the end. -/
inductive Access where
  /-- Read a field. -/
  | load (f : FieldRef)
  /-- Write a field. -/
  | store (f : FieldRef)
  /-- Call a method. -/
  | call (g : MethodRef)
  /-- Construct an object. -/
  | construct (c : ConstructorRef)

namespace Access

/-- The type that the member belongs to. -/
def owner : Access → TypeId
  | load f | store f => f.owner
  | call g => g.owner
  | construct c => c.owner

/-- Whether there is no instance. -/
def isStatic : Access → Bool
  | load f | store f => f.field.isStatic
  | call g => g.method.isStatic
  | construct _ => true

/-- The arguments. -/
def parameters : Access → List Parameter
  | load _ => []
  | store f => [⟨"value", f.field.type, none⟩]
  | call g => g.method.parameters
  | construct c => c.constructor.parameters

/-- The type of the result. -/
def type : Access → ValueType
  | load f => f.field.type
  | store _ => .any
  | call g => g.method.resultType
  | construct c => .object c.owner

/-- The expression of an access.  A write-once field is written by its write primitive. -/
def node : Access → Option Expr → List Expr → Expr
  | load f, receiver, _ => .fieldGet f receiver
  | store f, receiver, args =>
    if f.field.initOnly then .writePrimitive f receiver (args.headD (.zero .any))
    else .fieldSet f receiver (args.headD (.zero .any))
  | call g, receiver, args => .call g receiver args
  | construct c, _, args => .construct c args

end Access

end Accessor

namespace MemberRef

/-- How a data member is read. -/
def readAccess? : MemberRef → Option Accessor.Access
  | field f => some (.load f)
  | property p => p.getter?.map .call

/-- How a data member is written. -/
def writeAccess? : MemberRef → Option Accessor.Access
  | field f => some (.store f)
  | property p => p.setter?.map .call

/-- What a data member is written by, if it can be written. -/
def target? : MemberRef → Option AssignTarget
  | field f => some (if f.field.initOnly then .primitive f else .field f)
  | property p => p.setter?.map .setter

end MemberRef

namespace Accessor

/-! ## Operations -/

/-- What an accessor is made for. -/
inductive Operation where
  /-- Read a data member. -/
  | get (m : MemberRef)
  /-- Write a data member. -/
  | set (m : MemberRef)
  /-- Call a method. -/
  | invoke (f : MethodRef)
  /-- Construct an object. -/
  | construct (c : ConstructorRef)

namespace Operation

/-- The operation is on a member of the declared types. -/
def Of (t : TypeTable) : Operation → Prop
  | get m | set m => t.HasMember m
  | invoke f => t.HasMethod f
  | construct c => t.HasConstructor c

/-- Ask for an accessor. -/
def request (t : TypeTable) : Operation → AccessorRequest → Synthesis Nat
  | get m => getter t m
  | set m => setter t m
  | invoke f => methodInvoker t f
  | construct c => constructorInvoker t c

/-- The identity of the member. -/
def member : Operation → MemberId
  | get m | set m => m.id
  | invoke f => f.id
  | construct c => c.id

/-- What is done with it. -/
def kind : Operation → AccessorKind
  | get _ => .get
  | set _ => .set
  | invoke _ => .invoke
  | construct _ => .construct

/-- The type that the member belongs to. -/
def owner : Operation → TypeId
  | get m | set m => m.owner
  | invoke f => f.owner
  | construct c => c.owner

/-- Whether there is no instance. -/
def isStatic : Operation → Bool
  | get m | set m => m.isStatic
  | invoke f => f.method.isStatic
  | construct _ => true

/-- The values that are handed over besides the instance. -/
def parameters : Operation → List Parameter
  | get _ => []
  | set m => [⟨"value", m.type, none⟩]
  | invoke f => f.method.parameters
  | construct c => c.constructor.parameters

/-- The type of the value that is read, written or returned. -/
def valueType : Operation → ValueType
  | get m | set m => m.type
  | invoke f => f.method.resultType
  | construct c => .object c.owner

/-- The type of what the access yields.  Writing yields nothing. -/
def yields : Operation → ValueType
  | get m => m.type
  | set _ => .any
  | invoke f => f.method.resultType
  | construct c => .object c.owner

/-- The access in which the operation ends, if the member allows it. -/
def access? : Operation → Option Access
  | get m => m.readAccess?
  | set m => m.writeAccess?
  | invoke f => some (.call f)
  | construct c => some (.construct c)

/-! ### Boundaries -/

/-- The types at which arguments are handed over. -/
def handedTypes (r : AccessorRequest) (declared : List Parameter) : List ValueType :=
  match r.shape with
  | .generic => [.list .any]
  | .typed => r.parameterTypes?.getD (declared.map (·.type))

/-- The key of an accessor: member, operation, shape and effective boundary. -/
def key (op : Operation) (r : AccessorRequest) : AccessorKey :=
  let (instanceType?, valueType) := boundary r op.owner op.isStatic op.valueType
  match op with
  | get m => ⟨m.id, .get, r.shape, instanceType?, valueType, []⟩
  | set m => ⟨m.id, .set, r.shape, instanceType?, valueType, []⟩
  | invoke f => ⟨f.id, .invoke, r.shape, instanceType?, valueType, handedTypes r f.method.parameters⟩
  | construct c =>
    ⟨c.id, .construct, r.shape, none, valueType, handedTypes r c.constructor.parameters⟩

/-- What is checked before the cache is asked. -/
def check (t : TypeTable) (r : AccessorRequest) : Operation → Except Error Unit
  | get m => do
    r.checkBinding m.isStatic m.subject
    if m.isReadable then pure () else throw (.noGetter m.owner m.name)
  | set m => do
    r.checkBinding m.isStatic m.subject
    if m.isAssignable then pure () else throw (.noSetter m.owner m.name)
  | invoke f => do
    r.checkBinding f.method.isStatic (.method f.owner f.method.name)
    (Accessor.argumentTypes f.method.parameters r f.method.name).map fun _ => ()
  | construct c => do
    r.checkBinding true (.constructor c.owner c.constructor)
    (Accessor.argumentTypes c.constructor.parameters r (t.name c.owner)).map fun _ => ()

/-- The lambda of a key. -/
def lambda (t : TypeTable) (key : AccessorKey) : Operation → Except Error Lambda
  | get m => getterLambda t key m
  | set m =>
    match m.target? with
    | some target => setterLambda t key m target
    | none => .error (.noSetter m.owner m.name)
  | invoke f => methodLambda t key f
  | construct c => constructorLambda t key c

/-- The write-once field that a write primitive is made for. -/
def primitive? : Operation → Option MemberId
  | set (.field f) => if f.field.initOnly then some f.id else none
  | _ => none

/-- The access is what the operation says. -/
structure EndsIn (op : Operation) (a : Access) : Prop where
  /-- It is the one of the operation. -/
  access : op.access? = some a
  /-- It is on the same type. -/
  owner : a.owner = op.owner
  /-- It has an instance or has none. -/
  isStatic : a.isStatic = op.isStatic
  /-- It takes the same values. -/
  parameters : a.parameters = op.parameters
  /-- It yields the same. -/
  type : a.type = op.yields

end Operation

end Accessor

namespace AccessorCache

/-- The cache with the write primitive of a field, if there is to be one. -/
def withPrimitive (c : AccessorCache) (field? : Option MemberId) : AccessorCache :=
  field?.elim c c.addPrimitive

end AccessorCache

namespace Accessor

/-! ## Requests -/

theorem run_assignTarget (m : MemberRef) (c : AccessorCache) :
    (assignTarget m).run.run c = match m.target? with
      | some target => (.ok target, c.withPrimitive (Operation.set m).primitive?)
      | none => (.error (.noSetter m.owner m.name), c) := by
  cases m with
  | field f =>
    simp only [assignTarget, MemberRef.target?, Operation.primitive?]
    split <;> rfl
  | property p =>
    simp only [assignTarget, MemberRef.target?]
    cases p.setter? <;> rfl

theorem target?_eq_none {m : MemberRef} : m.target? = none ↔ m.isAssignable = false := by
  cases m with
  | field f => simp [MemberRef.target?, MemberRef.isAssignable]
  | property p => cases h : p.setter? <;> simp [MemberRef.target?, MemberRef.isAssignable, h]

theorem argumentTypes_eq_ok {declared : List Parameter} {r : AccessorRequest} {callee : String}
    {types : List ValueType} (h : argumentTypes declared r callee = .ok types) :
    types = Operation.handedTypes r declared := by
  unfold argumentTypes at h
  split at h
  · rename_i hshape
    cases h
    rw [Operation.handedTypes, hshape]
  · rename_i hshape htypes
    cases h
    rw [Operation.handedTypes, hshape, htypes]
    rfl
  · rename_i given hshape htypes
    split at h
    · cases h
      rw [Operation.handedTypes, hshape, htypes]
      rfl
    · cases h

theorem run_ofExcept_bind {α β : Type} (x : Except Error α) (f : α → Synthesis β) (c : AccessorCache) :
    (Synthesis.ofExcept x >>= f).run.run c = match x with
      | .ok a => (f a).run.run c
      | .error e => (.error e, c) := by
  cases x <;> rfl

/-- A request is refused, or asks the cache for the accessor of its key. -/
theorem run_request (t : TypeTable) (op : Operation) (r : AccessorRequest) (c : AccessorCache) :
    (op.request t r).run.run c = match op.check t r with
      | .error e => (.error e, c)
      | .ok _ => (AccessorCache.getOrBuild (op.key r) (op.lambda t (op.key r))).run.run
          (c.withPrimitive op.primitive?) := by
  cases op with
  | get m =>
    simp only [Operation.request, getter, Operation.check]
    rw [run_ofExcept_bind]
    cases r.checkBinding m.isStatic m.subject with
    | error e => rfl
    | ok _ => cases hread : m.isReadable <;> rfl
  | set m =>
    simp only [Operation.request, setter, Operation.check]
    rw [run_ofExcept_bind]
    cases r.checkBinding m.isStatic m.subject with
    | error e => rfl
    | ok _ =>
      simp only [run_bind, run_assignTarget]
      cases htarget : m.target? with
      | none =>
        have hassign := target?_eq_none.1 htarget
        simp only [hassign]
        rfl
      | some target =>
        have hassign : m.isAssignable = true := by
          by_contra hnot
          rw [target?_eq_none.2 (Bool.eq_false_iff.2 hnot)] at htarget
          cases htarget
        simp only [hassign, Operation.lambda, htarget]
        rfl
  | invoke f =>
    simp only [Operation.request, methodInvoker, Operation.check]
    rw [run_ofExcept_bind]
    cases r.checkBinding f.method.isStatic (.method f.owner f.method.name) with
    | error e => rfl
    | ok _ =>
      simp only [run_ofExcept_bind]
      cases htypes : argumentTypes f.method.parameters r f.method.name with
      | error e => rfl
      | ok types =>
        rw [argumentTypes_eq_ok htypes]
        rfl
  | construct c' =>
    simp only [Operation.request, constructorInvoker, Operation.check]
    rw [run_ofExcept_bind]
    cases r.checkBinding true (.constructor c'.owner c'.constructor) with
    | error e => rfl
    | ok _ =>
      simp only [run_ofExcept_bind]
      cases htypes : argumentTypes c'.constructor.parameters r (t.name c'.owner) with
      | error e => rfl
      | ok types =>
        rw [argumentTypes_eq_ok htypes]
        rfl

section Declared

variable {t t' : TypeTable} {op : Operation} {a : Access}

/-! ## Operations on declared members -/

/-- An operation on a declared member ends in an access of this member. -/
theorem Operation.Of.endsIn (hop : op.Of t) (ht : t.Declared) (ha : op.access? = some a) : op.EndsIn a := by
  cases op with
  | get m =>
    cases m with
    | field f =>
      cases ha
      exact ⟨rfl, rfl, rfl, rfl, rfl⟩
    | property p =>
      have hp : t.HasProperty p := hop
      have haccess := ha
      obtain ⟨g, hg, rfl⟩ := Option.map_eq_some_iff.1 ha
      obtain ⟨-, howner, hgetter⟩ := hp.getter (ht.sound _ hp.owner_lt) hg
      exact ⟨haccess, howner, hgetter.isStatic, hgetter.parameters, congrArg (·.getD .any) hgetter.result⟩
  | set m =>
    cases m with
    | field f =>
      cases ha
      exact ⟨rfl, rfl, rfl, rfl, rfl⟩
    | property p =>
      have hp : t.HasProperty p := hop
      have haccess := ha
      obtain ⟨g, hg, rfl⟩ := Option.map_eq_some_iff.1 ha
      obtain ⟨-, howner, hsetter⟩ := hp.setter (ht.sound _ hp.owner_lt) hg
      exact ⟨haccess, howner, hsetter.isStatic, hsetter.parameters, congrArg (·.getD .any) hsetter.result⟩
  | invoke f =>
    cases ha
    exact ⟨rfl, rfl, rfl, rfl, rfl⟩
  | construct c =>
    cases ha
    exact ⟨rfl, rfl, rfl, rfl, rfl⟩

/-- What is not refused has an access. -/
theorem Operation.exists_access {r : AccessorRequest} (h : op.check t r = .ok ()) :
    ∃ a, op.access? = some a := by
  cases op with
  | get m =>
    obtain ⟨-, -, hread⟩ := bind_eq_ok.1 h
    cases m with
    | field f => exact ⟨_, rfl⟩
    | property p =>
      cases hg : p.getter? with
      | none => simp [MemberRef.isReadable, hg] at hread
      | some g => exact ⟨.call g, by simp [Operation.access?, MemberRef.readAccess?, hg]⟩
  | set m =>
    obtain ⟨-, -, hassign⟩ := bind_eq_ok.1 h
    cases m with
    | field f => exact ⟨_, rfl⟩
    | property p =>
      cases hs : p.setter? with
      | none => simp [MemberRef.isAssignable, hs] at hassign
      | some s => exact ⟨.call s, by simp [Operation.access?, MemberRef.writeAccess?, hs]⟩
  | invoke f => exact ⟨_, rfl⟩
  | construct c => exact ⟨_, rfl⟩

/-- Operations on declared members are known by their keys. -/
theorem Operation.Of.eq_of_key {op' : Operation} (hop : op.Of t) (hop' : op'.Of t) {r r' : AccessorRequest}
    (h : op.key r = op'.key r') : op = op' := by
  have hmember : op.member = op'.member := by
    have hid := congrArg AccessorKey.member h
    cases op <;> cases op' <;> exact hid
  have hkind : op.kind = op'.kind := by
    have hkind := congrArg AccessorKey.kind h
    cases op <;> cases op' <;> exact hkind
  cases op <;> cases op' <;> try cases hkind
  case get.get m m' => rw [TypeTable.HasMember.eq_of_id hop hop' hmember]
  case set.set m m' => rw [TypeTable.HasMember.eq_of_id hop hop' hmember]
  case invoke.invoke f f' => rw [TypeTable.HasMethod.eq_of_id hop hop' hmember]
  case construct.construct c c' => rw [TypeTable.HasConstructor.eq_of_id hop hop' hmember]

theorem Operation.Of.mono (hop : op.Of t) (ht : t.Extends t') : op.Of t' := by
  cases op with
  | get m => exact TypeTable.HasMember.mono ht hop
  | set m => exact TypeTable.HasMember.mono ht hop
  | invoke f => exact TypeTable.HasMethod.mono ht hop
  | construct c => exact TypeTable.HasConstructor.mono ht hop

/-- What is refused does not depend on the definitions. -/
theorem Operation.check_mono {r : AccessorRequest} (h : op.check t r = .ok ()) : op.check t' r = .ok () := by
  cases op with
  | get m | set m | invoke f => exact h
  | construct c =>
    obtain ⟨_, hbinding, htypes⟩ := bind_eq_ok.1 h
    refine bind_eq_ok.2 ⟨(), hbinding, ?_⟩
    obtain ⟨types, hok, -⟩ := map_eq_ok.1 htypes
    refine map_eq_ok.2 ⟨types, ?_, rfl⟩
    unfold Accessor.argumentTypes at hok ⊢
    split at hok
    · exact hok
    · exact hok
    · split at hok
      · rename_i hlength
        rw [if_pos hlength]
        exact hok
      · cases hok

end Declared

end Accessor
end Reshape
