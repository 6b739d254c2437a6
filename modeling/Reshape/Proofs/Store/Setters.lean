import Reshape.Proofs.Expr.Preservation
import Reshape.Proofs.Store.Cells
import Reshape.Proofs.Store.History

/-!
# Generated setters

The setter of an instance property casts the value that it gets to the type of the slot, and the setter of a static
property stores it as it is (`Machine.perform_setter`, `Machine.perform_staticSetter`).  So the two do the same with
the values of the type, and with no others (`Machine.setters_alike_iff`).  Static slots hold values of their types in
every world that is reached while setters of static properties get values of their types only
(`World.Guarded.wellTyped`).
-/

namespace Reshape

/-! ## What setters write -/

namespace Machine

open Action

variable {m : Machine} {s : Store} {p : PropertyRef} {g : MethodRef} {slot : Nat}

/-- A static method does not look at what it is used on. -/
theorem invoke_of_isStatic (hstatic : g.method.isStatic = true) (receiver : Option ObjectRef) (args : List Value) :
    m.invoke g receiver args = m.invoke g none args := by
  simp only [invoke_eq, receiverFor, hstatic, if_true]

/-- The setter of an instance property casts the value and writes the slot of the object, or fails and leaves
everything as it was. -/
theorem perform_setter (hm : m.types.Declared) (hs : s.SlotsTyped m.types) (hp : m.types.HasProperty p)
    (hinstance : p.property.isStatic = false) (hslot : p.property.backing? = some slot) (hg : p.setter? = some g)
    {ref : ObjectRef} (href : s.Live (.object ref)) (hsub : m.types.isSubtype ref.type p.owner = true) (v : Value) :
    (∀ w, m.types.cast p.property.type v = .ok w → ∃ s', (m.invoke g (some ref) [v]).perform s = (.ok .null, s') ∧
      s.WritesOnly s' (.slot ref.address slot) w) ∧
    ∀ cause, m.types.cast p.property.type v = .error cause →
      (m.invoke g (some ref) [v]).perform s = (.error (.cast cause), s) := by
  have hstatic : p.property.isStatic = (some ref).isNone := hinstance
  have hmember : m.types.HasMember (.property p) := hp
  rw [invoke_setter_eq hp (hm.sound _ hp.owner_lt) hg hslot hstatic, storeIn]
  exact perform_storeSlot_null hs href (hmember.slotType hm.sound hinstance hslot hsub) v

/-- The setter of a static property writes the value as it is. -/
theorem perform_staticSetter (hm : m.types.Declared) (hp : m.types.HasProperty p)
    (hstatic : p.property.isStatic = true) (hslot : p.property.backing? = some slot) (hg : p.setter? = some g)
    (receiver : Option ObjectRef) (v : Value) : ∃ s', (m.invoke g receiver [v]).perform s = (.ok .null, s') ∧
      s.WritesOnly s' (.static ⟨p.owner, slot⟩) v := by
  have hsound := hm.sound _ hp.owner_lt
  obtain ⟨-, -, hsetter⟩ := hp.setter hsound hg
  have hnone : p.property.isStatic = (none : Option ObjectRef).isNone := hstatic
  have htype := TypeTable.staticType_of_property hsound hp.mem hstatic hslot
  refine ⟨_, ?_, Store.writesOnly_setStatic s ⟨p.owner, slot⟩ v⟩
  rw [invoke_of_isStatic (hsetter.isStatic.trans hstatic), invoke_setter_eq hp hsound hg hslot hnone, storeIn,
    storeStatic, htype]
  rfl

/-- What a cell holds after a setter was used on a value, if that succeeds. -/
def put? (m : Machine) (s : Store) (g : MethodRef) (receiver : Option ObjectRef) (cell : Cell) (v : Value) :
    Option Value :=
  match (m.invoke g receiver [v]).perform s with
  | (.ok _, s') => s'.content? cell
  | (.error _, _) => none

end Machine

/-! ## Worlds with guarded setters -/

namespace Store

/-- A well-typed store stays so when types are added. -/
theorem WellTyped.mono {t t' : TypeTable} {s : Store} (he : t.Extends t') (hs : s.WellTyped t) : s.WellTyped t' := by
  have htyped := hs.slotsTyped.mono he
  refine ⟨htyped.declared, htyped.slots, hs.slotsLive, fun key v hv => ?_, hs.staticsLive⟩
  obtain ⟨type, htype, hconf⟩ := hs.statics key v hv
  have hlt : key.owner < t.size := by
    by_contra hge
    rw [TypeTable.model, TypeTable.modelIn_of_le (Nat.le_of_not_lt hge)] at htype
    cases htype
  exact ⟨type, he.model_eq hlt ▸ htype, TypeTable.conforms_mono he hconf⟩

end Store

/-- A method is used on what is in the store, and what it stores in a static slot belongs to its parameter. -/
structure MethodRef.GuardedOn (t : TypeTable) (s : Store) (r : MethodRef) (receiver : Option ObjectRef)
    (args : List Value) : Prop where
  /-- It is a method of a declared type. -/
  hasMethod : t.HasMethod r
  /-- The receiver is an object, of any type. -/
  receiver : ∀ ref, receiver = some ref → s.Live (.object ref)
  /-- References in the arguments lead to objects. -/
  live : ∀ v ∈ args, s.Live v
  /-- The setter of a static property is used on values of the property's type. -/
  conforms : ∀ slot, r.method.body = .storeStatic slot →
    List.Forall₂ (fun p v => t.conforms p.type v = true) r.method.parameters args

/-- The lambda was built by the checked constructors, and its literals are in the store. -/
def CompiledLambda.BuiltOver (t : TypeTable) (s : Store) (l : CompiledLambda) : Prop :=
  ∃ (d : Draft) (parameters : List ParameterDecl) (body : Expr) (source : Lambda), d.Reached ∧ body ∈ d.built ∧
    Lambda.make parameters body = .ok source ∧ l = source.compile ∧ d.types.Extends t ∧
      ∀ v type, .constant v type ∈ body.nodes → s.Live v

/-- The operation is used on what is declared and on what is in the store, and where it uses the setter of a static
property itself, it hands a value of the property's type to it. -/
def Operation.Guarded (t : TypeTable) (s : Store) : Operation → Prop
  | instantiate type => type < t.size
  | setSlot _ _ v => s.Live v
  | construct c args => t.HasConstructor c ∧ ∀ v ∈ args, s.Live v
  | invoke r receiver args => r.GuardedOn t s receiver args
  | storeField f _ v | assign _ (.field f) v | assign _ (.primitive f) v => t.HasField f ∧ s.Live v
  | assign ref (.setter r) v => r.GuardedOn t s (some ref) [v]
  | run l args => l.BuiltOver t s ∧ ∀ v ∈ args, s.Live v

/-- A guarded operation keeps the store well typed. -/
theorem Operation.Guarded.keeps {m : Machine} {s : Store} {op : Operation} (h : op.Guarded m.types s)
    (hm : m.types.Declared) (hw : m.WellBehaved) (hs : s.WellTyped m.types) :
    Action.Keeps m.types s (op.action m) fun _ _ => True := by
  have hinvoke : ∀ {r : MethodRef} {receiver args}, r.GuardedOn m.types s receiver args →
      Action.Keeps m.types s (discard (m.invoke r receiver args)) fun _ _ => True := fun hr =>
    (Machine.keeps_invoke_live hm hw hs hr.hasMethod hr.receiver hr.live hr.conforms).map fun _ _ _ _ _ => trivial
  cases op with
  | instantiate type => exact (Machine.keeps_instantiate hs h).map fun _ _ _ _ _ => trivial
  | setSlot ref slot v => exact Machine.keeps_storeSlot hs ref slot h
  | construct c args => exact (Machine.keeps_construct hw hs h.1 h.2).map fun _ _ _ _ _ => trivial
  | invoke r receiver args => exact hinvoke h
  | storeField f receiver v => exact Machine.keeps_storeField hm hs h.1 receiver h.2
  | assign ref target v =>
    cases target with
    | field f => exact Machine.keeps_storeField hm hs h.1 (some ref) h.2
    | primitive f => exact Machine.keeps_storeField hm hs h.1 (some ref) h.2
    | setter r => exact hinvoke h
  | run l args =>
    obtain ⟨⟨d, parameters, body, source, hd, hbody, hmake, rfl, hextends, hliterals⟩, hargs⟩ := h
    obtain ⟨c, hc⟩ := hd.typed
    have hrun := Machine.keeps_run hm hw hmake ((hc body hbody).mono hextends (.refl c)) hs hliterals hargs
    exact hrun.map fun _ _ _ _ _ => trivial

namespace World

/-- A type is declared, or a guarded operation is performed, with any result. -/
inductive GuardedStep : World → World → Prop
  /-- A type is declared over a base that is there, or over none. -/
  | declare {w : World} {d : Declaration} {t : TypeTable} {type : TypeId}
      (hbase : ∀ base, d.base? = some base → base < w.types.size)
      (h : w.types.declare d = .ok (t, type)) : GuardedStep w ⟨t, w.store⟩
  /-- A guarded operation is performed, with supplied bodies that keep the store well typed. -/
  | perform {w : World} {m : Machine} (hm : m.types = w.types) (hw : m.WellBehaved) {op : Operation}
      (hop : op.Guarded w.types w.store) : GuardedStep w ⟨w.types, ((op.action m).perform w.store).2⟩

/-- What is reached from nothing by guarded steps. -/
def Guarded (w : World) : Prop :=
  Relation.ReflTransGen GuardedStep ⟨.empty, .empty⟩ w

/-- A guarded step keeps the definitions declared and the store well typed. -/
theorem GuardedStep.wellTyped {w w' : World} (h : GuardedStep w w') (hd : w.types.Declared)
    (hs : w.store.WellTyped w.types) : w'.types.Declared ∧ w'.store.WellTyped w'.types := by
  cases h with
  | @declare d t type hbase hdeclare =>
    obtain ⟨model, hmodel, hpush⟩ := bind_eq_ok.1 hdeclare
    cases hpush
    exact ⟨.declare hd hbase hmodel, hs.mono (TypeTable.extends_push w.types model)⟩
  | @perform m hm hw op hop =>
    refine ⟨hd, ?_⟩
    rw [← hm] at hop hd hs ⊢
    exact (hop.keeps hd hw hs).wellTyped

/-- The store is well typed in every world that guarded steps lead to. -/
theorem Guarded.wellTyped {w : World} (h : w.Guarded) : w.types.Declared ∧ w.store.WellTyped w.types := by
  induction h with
  | refl => exact ⟨.empty, Store.wellTyped_empty .empty⟩
  | tail _ hstep ih => exact hstep.wellTyped ih.1 ih.2

/-- A static member with a slot reads as a value of its type. -/
theorem Guarded.conforms_static {w : World} (h : w.Guarded) {member : MemberRef} {slot : Nat}
    (hmember : w.types.HasMember member) (hstatic : member.isStatic = true) (hslot : member.slot? = some slot) :
    w.types.conforms member.type ((w.store.static? ⟨member.owner, slot⟩).getD member.type.zero) = true := by
  obtain ⟨hd, hs⟩ := h.wellTyped
  cases hv : w.store.static? ⟨member.owner, slot⟩ with
  | none => exact TypeTable.conforms_zero _
  | some v =>
    obtain ⟨type, htype, hconf⟩ := hs.statics _ v hv
    cases htype.symm.trans (hmember.staticType (hd.sound _ hmember.owner_lt) hstatic hslot)
    exact hconf

end World

/-- **What generated setters do.**  Of two properties of one type with a slot, the setter of the instance property casts
the value and writes the slot of its object, or fails and leaves everything as it was; the setter of the static one
never fails, and writes the static slot with the value as it is.  So both leave the same in their cells exactly if the
value belongs to the type.  Static slots hold values of the types of their members in every world that is reached
while setters of static properties get values of their types only. -/
theorem Machine.setters_alike_iff {m : Machine} (hm : m.types.Declared) {s : Store} (hs : s.SlotsTyped m.types)
    {p q : PropertyRef} (hp : m.types.HasProperty p) (hq : m.types.HasProperty q)
    (htype : q.property.type = p.property.type) (hstatic : p.property.isStatic = true)
    (hinstance : q.property.isStatic = false) {slot place : Nat} (hslot : p.property.backing? = some slot)
    (hplace : q.property.backing? = some place) {g k : MethodRef} (hg : p.setter? = some g) (hk : q.setter? = some k)
    {ref : ObjectRef} (href : s.Live (.object ref)) (hsub : m.types.isSubtype ref.type q.owner = true)
    (receiver : Option ObjectRef) (v : Value) :
    (∀ w, m.types.cast p.property.type v = .ok w → ∃ s', (m.invoke k (some ref) [v]).perform s = (.ok .null, s') ∧
      s.WritesOnly s' (.slot ref.address place) w) ∧
    (∀ cause, m.types.cast p.property.type v = .error cause →
      (m.invoke k (some ref) [v]).perform s = (.error (.cast cause), s)) ∧
    (∃ s', (m.invoke g receiver [v]).perform s = (.ok .null, s') ∧
      s.WritesOnly s' (.static ⟨p.owner, slot⟩) v) ∧
    (m.put? s g receiver (.static ⟨p.owner, slot⟩) v = m.put? s k (some ref) (.slot ref.address place) v ↔
      m.types.conforms p.property.type v = true) ∧
    ∀ (w : World) (member : MemberRef) (slot : Nat), w.Guarded → w.types.HasMember member →
      member.isStatic = true → member.slot? = some slot →
        w.types.conforms member.type ((w.store.static? ⟨member.owner, slot⟩).getD member.type.zero) = true := by
  have hsetter := perform_setter hm hs hq hinstance hplace hk href hsub v
  rw [htype] at hsetter
  obtain ⟨s₁, hrun, hwrites⟩ := perform_staticSetter (s := s) hm hp hstatic hslot hg receiver v
  refine ⟨hsetter.1, hsetter.2, ⟨s₁, hrun, hwrites⟩, ?_, fun w member slot hw => hw.conforms_static⟩
  have hput : m.put? s g receiver (.static ⟨p.owner, slot⟩) v = some v := by
    rw [put?, hrun]
    exact hwrites.content
  rw [hput]
  cases hcast : m.types.cast p.property.type v with
  | error cause =>
    rw [put?, hsetter.2 cause hcast]
    constructor
    · intro h
      cases h
    · intro hconf
      cases hcast.symm.trans (TypeTable.cast_of_conforms hconf)
  | ok w =>
    obtain ⟨s₂, hrun₂, hwrites₂⟩ := hsetter.1 w hcast
    have hput₂ : m.put? s k (some ref) (.slot ref.address place) v = some w := by
      rw [put?, hrun₂]
      exact hwrites₂.content
    rw [hput₂, Option.some.injEq]
    constructor
    · rintro rfl
      exact TypeTable.conforms_of_cast hcast
    · intro hconf
      exact Except.ok.inj ((TypeTable.cast_of_conforms hconf).symm.trans hcast)

/-! ## A static property of another type than its value -/

namespace World

/-- Counters count in all, and each for itself. -/
def counters : TypeTable :=
  TypeTable.empty.push ⟨"Counter", .declared, none, [], [], [],
    [⟨"Total", .int64, .open, .open, true, some 0, some 0, some 1⟩,
      ⟨"Own", .int64, .open, .open, false, some 0, some 2, some 3⟩],
    [⟨"get_Total", [], some .int64, true, .open, .loadStatic 0⟩,
      ⟨"set_Total", [⟨"value", .int64, none⟩], none, true, .open, .storeStatic 0⟩,
      ⟨"get_Own", [], some .int64, false, .open, .loadSlot 0⟩,
      ⟨"set_Own", [⟨"value", .int64, none⟩], none, false, .open, .storeSlot 0⟩],
    [⟨[], .open, .assign []⟩], [.int64], [.int64]⟩

/-- A machine with counters and without supplied bodies. -/
def counterMachine : Machine := ⟨counters, fun _ _ _ => pure .null, fun _ _ _ => pure ()⟩

/-- What is counted in all. -/
def total : PropertyRef :=
  counters.propertyRef 0 0 ⟨"Total", .int64, .open, .open, true, some 0, some 0, some 1⟩

/-- What one counter counts. -/
def own : PropertyRef :=
  counters.propertyRef 0 1 ⟨"Own", .int64, .open, .open, false, some 0, some 2, some 3⟩

/-- The setter of what is counted in all. -/
def setTotal : MethodRef := ⟨0, 1, ⟨"set_Total", [⟨"value", .int64, none⟩], none, true, .open, .storeStatic 0⟩⟩

/-- The setter of what one counter counts. -/
def setOwn : MethodRef := ⟨0, 3, ⟨"set_Own", [⟨"value", .int64, none⟩], none, false, .open, .storeSlot 0⟩⟩

/-- One counter, as it was made. -/
def counting : Store := Store.empty.push ⟨0, [.int64 0]⟩

theorem declared_counters : counters.Declared :=
  .declare (d := ⟨"Counter", .declared, none, [], [], [], [⟨"Total", .int64, .open, .open, true, .slot⟩,
    ⟨"Own", .int64, .open, .open, false, .slot⟩], [], []⟩) .empty (by simp) rfl

theorem slotsTyped_counting : counting.SlotsTyped counters :=
  (Store.wellTyped_empty counters).slotsTyped.push (by decide : 0 < counters.size)

theorem live_counting : counting.Live (.object ⟨0, 0⟩) := Machine.live_push .empty ⟨0, [.int64 0]⟩

/-- With the 32-bit five, the counter counts the 64-bit five, and all count the 32-bit one. -/
theorem setters_alike_iff_five :
    (∃ s', (counterMachine.invoke setOwn (some ⟨0, 0⟩) [.int32 5]).perform counting = (.ok .null, s') ∧
      counting.WritesOnly s' (.slot 0 0) (.int64 5)) ∧
    (∃ s', (counterMachine.invoke setTotal none [.int32 5]).perform counting = (.ok .null, s') ∧
      counting.WritesOnly s' (.static ⟨0, 0⟩) (.int32 5)) ∧
    counterMachine.put? counting setTotal none (.static ⟨0, 0⟩) (.int32 5) ≠
      counterMachine.put? counting setOwn (some ⟨0, 0⟩) (.slot 0 0) (.int32 5) := by
  obtain ⟨hown, -, htotal, halike, -⟩ := Machine.setters_alike_iff (m := counterMachine) declared_counters
    slotsTyped_counting (p := total) (q := own) ⟨rfl, rfl⟩ ⟨rfl, rfl⟩ rfl rfl rfl rfl rfl (g := setTotal)
    (k := setOwn) rfl rfl live_counting (by decide) none (.int32 5)
  exact ⟨hown (.int64 5) rfl, htotal, fun h => absurd (halike.1 h) (by decide)⟩

/-- **A setter can store what it does not cast**, if its property is static: it neither fails nor stores what the value
is cast to. -/
theorem exists_static_uncast : ¬∀ (m : Machine) (s : Store) (p : PropertyRef) (g : MethodRef) (slot : Nat)
    (receiver : Option ObjectRef) (v : Value), m.types.Declared → s.SlotsTyped m.types → m.types.HasProperty p →
      p.property.isStatic = true → p.property.backing? = some slot → p.setter? = some g →
        (∃ e, (m.invoke g receiver [v]).perform s = (.error e, s)) ∨
          ∃ w s', m.types.cast p.property.type v = .ok w ∧ (m.invoke g receiver [v]).perform s = (.ok .null, s') ∧
            s'.static? ⟨p.owner, slot⟩ = some w := by
  intro h
  have hrun : (counterMachine.invoke setTotal none [.int32 5]).perform counting =
      (.ok .null, counting.setStatic ⟨0, 0⟩ (.int32 5)) := rfl
  rcases h counterMachine counting total setTotal 0 none (.int32 5) declared_counters slotsTyped_counting ⟨rfl, rfl⟩
    rfl rfl rfl with ⟨e, herror⟩ | ⟨w, s', hcast, hok, hheld⟩
  · cases hrun.symm.trans herror
  · have hw : w = .int64 5 := Except.ok.inj (hcast.symm.trans rfl)
    cases hrun.symm.trans hok
    have hstored : (counting.setStatic ⟨0, 0⟩ (.int32 5)).static? ⟨0, 0⟩ = some (.int32 5) := rfl
    rw [hw] at hheld
    cases hstored.symm.trans hheld

end World
end Reshape
