import Reshape.Proofs.Accessor.Running
import Reshape.Proofs.Accessor.Transparency
import Reshape.Proofs.Store.Cells

/-!
# Reading what was written

A setter and a getter of one member can be asked for at any boundaries, at different times and from different
caches (`AccessorCache.Obtained`).  Whatever they convert, both end at the one cell of the member: the setter
writes what the value is as one of the member's type, the getter reads it and converts it to the type of its own
boundary, and nothing else in the store changes (`Accessor.read_back`).
-/

namespace Reshape

open Action Accessor

namespace AccessorCache

/-- An accessor that a program which has the types can have obtained: it was handed out by some cache, for a
request on a member that was there, when some of the types were defined. -/
inductive Obtained (types : TypeTable) (op : Accessor.Operation) (r : AccessorRequest) (a : Accessor) : Prop
  /-- The cache handed it out. -/
  | handedOut {t : TypeTable} {log : List Exchange} {c : AccessorCache} (h : Served t log c)
      (ht : t.Extends types) (hop : op.Of t)
      (ha : AccessorCache.handedOut (op.request t r) c = .ok (some a))

/-- An accessor that was obtained is the one of its operation and key. -/
theorem Obtained.exists_access {types : TypeTable} {op : Accessor.Operation} {r : AccessorRequest} {a : Accessor}
    (h : Obtained types op r a) : ∃ access, op.Of types ∧ op.EndsIn access ∧ op.Fits a.key ∧
      a.key = op.key r ∧ op.lambda types a.key = .ok a.lambda := by
  obtain ⟨h, ht, hop, ha⟩ := h
  rw [h.records.handedOut_request hop] at ha
  obtain ⟨_, hcheck, ha⟩ := bind_eq_ok.1 ha
  obtain ⟨l, hl, hsome⟩ := map_eq_ok.1 ha
  cases hsome
  obtain ⟨access, haccess⟩ := op.exists_access hcheck
  exact ⟨access, hop.mono ht, hop.endsIn h.declared haccess, op.fits_key hcheck, rfl,
    op.lambda_mono hop h.declared ht hcheck hl⟩

end AccessorCache

namespace Accessor

variable {m : Machine} {s : Store} {member : MemberRef} {slot : Nat} {ref? : Option ObjectRef} {a : Access}
  {op : Operation} {o v : Value}

/-! ## The object -/

/-- An instance leads to the object that the member is used on, or the member is static and used on none. -/
structure Leads (t : TypeTable) (member : MemberRef) (o : Value) (ref? : Option ObjectRef) : Prop where
  /-- The member can be used on it. -/
  used : member.UsedOn t ref?
  /-- The instance is the object. -/
  object : ∀ ref, ref? = some ref → o = .object ref

theorem Leads.target (h : Leads m.types member o ref?) (howner : op.owner = member.owner)
    (hstatic : op.isStatic = member.isStatic) : op.target m a o = pure ref? := by
  unfold Operation.target
  rw [howner, hstatic]
  cases ref? with
  | none =>
    have hmember : member.isStatic = true := h.used.isStatic
    rw [if_pos hmember]
  | some ref =>
    have hmember : member.isStatic = false := h.used.isStatic
    have hsub := h.used.isSubtype ref rfl
    obtain rfl := h.object ref rfl
    have hcast : m.types.cast (.object member.owner) (.object ref) = .ok (.object ref) := by
      rw [TypeTable.cast, if_pos hsub]
    rw [if_neg (Bool.eq_false_iff.1 hmember), hcast]
    rfl

/-- The cell of the member is the one on the object, whatever a static member is used on. -/
theorem Leads.cell?_object? {t : TypeTable} (h : Leads t member o ref?) :
    member.cell? o.object? = member.cell? ref? := by
  cases ref? with
  | none =>
    have hstatic : member.isStatic = true := h.used.isStatic
    simp only [MemberRef.cell?, hstatic, if_true]
  | some ref =>
    obtain rfl := h.object ref rfl
    rfl

/-- An instance leads to an object, or nothing is done. -/
theorem target_cases (m : Machine) (op : Operation) (member : MemberRef) (a : Access) (o : Value)
    (howner : op.owner = member.owner) (hstatic : op.isStatic = member.isStatic) :
    (∃ e, op.target m a o = throw e) ∨ ∃ ref?, Leads m.types member o ref? := by
  cases hmember : member.isStatic with
  | true => exact .inr ⟨none, ⟨hmember, nofun⟩, nofun⟩
  | false =>
    unfold Operation.target
    rw [howner, hstatic, if_neg (Bool.eq_false_iff.1 hmember)]
    cases hcast : m.types.cast (.object member.owner) o with
    | error e => exact .inl ⟨.cast e, rfl⟩
    | ok w =>
      cases o with
      | null =>
        cases hcast
        exact .inl ⟨.nullReceiver a.name, rfl⟩
      | object ref =>
        rw [TypeTable.cast] at hcast
        split at hcast
        · rename_i hsub
          exact .inr ⟨some ref, ⟨hmember, fun _ h => Option.some.inj h ▸ hsub⟩,
            fun _ h => Option.some.inj h ▸ rfl⟩
        · cases hcast
      | _ => cases hcast

/-! ## The access -/

/-- Writing a value of the member's type writes the slot. -/
theorem act_write (hm : m.types.Declared) (hmember : m.types.HasMember member) (hslot : member.slot? = some slot)
    (ha : member.writeAccess? = some a) (hstatic : member.isStatic = ref?.isNone)
    (hv : m.types.conforms member.type v = true) :
    a.act m ref? [v] = m.storeIn member.owner slot v ref? >>= fun _ => pure .null := by
  cases member with
  | field f =>
    cases hslot
    cases ha
    have hcast : m.types.cast f.field.type v = .ok v := TypeTable.cast_of_conforms hv
    rw [Access.act, List.headD_cons, Machine.storeField_eq hstatic, hcast]
    rfl
  | property p =>
    obtain ⟨g, hg, rfl⟩ := Option.map_eq_some_iff.1 ha
    have hp : m.types.HasProperty p := hmember
    have hsound := hm.sound _ hp.owner_lt
    obtain ⟨-, -, hsetter⟩ := hp.setter hsound hg
    have hresult : g.method.resultType = .any := by
      rw [Method.resultType, hsetter.result]
      rfl
    rw [Access.act, Machine.invoke_setter_eq hp hsound hg hslot hstatic, hresult, bind_assoc]
    rfl

/-- Reading yields what the slot holds. -/
theorem perform_read (hm : m.types.Declared) (hmember : m.types.HasMember member)
    (hslot : member.slot? = some slot) (ha : member.readAccess? = some a)
    (hstatic : member.isStatic = ref?.isNone) (hv : m.types.conforms member.type v = true)
    (hload : (m.loadFrom member.owner slot ref?).perform s = (.ok v, s)) :
    (a.act m ref? []).perform s = (.ok v, s) := by
  cases member with
  | field f =>
    cases hslot
    cases ha
    rw [Access.act, Machine.loadField_eq hstatic]
    exact hload
  | property p =>
    obtain ⟨g, hg, rfl⟩ := Option.map_eq_some_iff.1 ha
    have hp : m.types.HasProperty p := hmember
    have hsound := hm.sound _ hp.owner_lt
    obtain ⟨-, -, hgetter⟩ := hp.getter hsound hg
    have hload : (m.loadFrom p.owner slot ref?).perform s = (.ok v, s) := hload
    have hcast : m.types.cast g.method.resultType v = .ok v := by
      rw [Method.resultType, hgetter.result]
      exact TypeTable.cast_of_conforms hv
    rw [Access.act, Machine.invoke_getter_eq hp hsound hg hslot hstatic, perform_bind_ok hload, hcast]
    rfl

/-! ## Setters and getters -/

variable {key : AccessorKey} {l : Lambda}

/-- A setter at a boundary has something to write: the value belongs to the boundary and is one of the member's
type when it is converted, and the instance leads to an object, unless the member is static. -/
structure Accepts (m : Machine) (member : MemberRef) (boundary : ValueType) (o v w : Value) : Prop where
  /-- The value belongs to the boundary. -/
  handed : m.types.conforms boundary v = true
  /-- The instance leads to an object. -/
  leads : ∃ ref?, Leads m.types member o ref?
  /-- This is what is written. -/
  cast : m.types.cast member.type v = .ok w

/-- A setter refuses a value that does not belong to its boundary. -/
theorem exists_throw_of_not_conforms (hend : (Operation.set member).EndsIn a)
    (hfits : (Operation.set member).Fits key) (hl : (Operation.set member).lambda m.types key = .ok l) (o : Value)
    (hv : ¬m.types.conforms key.valueType v = true) :
    ∃ e, m.run l.compile (instanceInput key o ++ [v]) = throw e := by
  refine Machine.exists_run_eq_throw fun hall => hv ?_
  rw [Operation.parameters_of_lambda hend hfits hl] at hall
  have htype : (((Operation.set member).declarations key).map (·.type))[(instanceDecls key).length]? =
      some key.valueType := by
    simp [Operation.declarations]
  obtain ⟨u, hu, hconf⟩ := exists_getElem?_of_forall₂ hall htype
  rw [← length_instanceInput (o := o), List.getElem?_concat_length] at hu
  exact Option.some.inj hu ▸ hconf

/-- A setter that takes the value converts it and writes it to the object. -/
theorem run_setter_eq (hend : (Operation.set member).EndsIn a) (hfits : (Operation.set member).Fits key)
    (hl : (Operation.set member).lambda m.types key = .ok l)
    (ho : ∀ type, key.instanceType? = some type → m.types.conforms type o = true)
    (hv : m.types.conforms key.valueType v = true) :
    m.run l.compile (instanceInput key o ++ [v]) = (Operation.set member).target m a o >>= fun ref? =>
      ofCast (m.types.cast member.type v) >>= fun w => a.act m ref? [w] := by
  have hrun : m.run l.compile (instanceInput key o ++ [v]) = _ :=
    Operation.run_lambda hend hfits ⟨ho, .cons hv .nil⟩ hl
  have hconverted : m.converted (Operation.set member).yields ((Operation.set member).resultType key) = pure :=
    funext fun u => Machine.converted_self .any u
  have hargs : ([v].zip (Operation.set member).parameters).mapM
      (fun x => ofCast (m.types.cast x.2.type x.1)) =
        ofCast (m.types.cast member.type v) >>= fun w => pure [w] := by
    simp only [Operation.parameters, List.zip_cons_cons, List.zip_nil_left, List.mapM_cons, List.mapM_nil,
      pure_bind]
  rw [hrun, hconverted, bind_pure, Operation.act, hargs]
  simp only [bind_assoc, pure_bind]

/-- **What a setter does**: it fails and changes nothing if it has nothing to write, and otherwise writes the
value, as one of the member's type, to the member's cell. -/
theorem run_setter (hm : m.types.Declared) (hmember : m.types.HasMember member) (hslot : member.slot? = some slot)
    (hend : (Operation.set member).EndsIn a) (hfits : (Operation.set member).Fits key)
    (hl : (Operation.set member).lambda m.types key = .ok l) (hs : s.WellTyped m.types) (hlive : s.Live o)
    (ho : ∀ type, key.instanceType? = some type → m.types.conforms type o = true) (v : Value) :
    ((∃ e, (m.run l.compile (instanceInput key o ++ [v])).perform s = (.error e, s)) ∧
      ∀ w, ¬Accepts m member key.valueType o v w) ∨
    ∃ ref? w cell s', Leads m.types member o ref? ∧ Accepts m member key.valueType o v w ∧
      member.cell? ref? = some cell ∧
      (m.run l.compile (instanceInput key o ++ [v])).perform s = (.ok .null, s') ∧ s.WritesOnly s' cell w := by
  by_cases hv : m.types.conforms key.valueType v = true
  · rw [run_setter_eq hend hfits hl ho hv]
    obtain ⟨e, he⟩ | ⟨ref?, hleads⟩ := target_cases m (.set member) member a o rfl rfl
    · refine .inl ⟨⟨e, by rw [he]; rfl⟩, fun w hw => ?_⟩
      obtain ⟨ref?, hleads⟩ := hw.leads
      have hboth := congrArg (·.perform s) (he.symm.trans (hleads.target rfl rfl))
      cases hboth
    · rw [hleads.target rfl rfl, pure_bind]
      cases hcast : m.types.cast member.type v with
      | error e =>
        refine .inl ⟨⟨.cast e, rfl⟩, fun w hw => ?_⟩
        have hnone := hcast.symm.trans hw.cast
        cases hnone
      | ok w =>
        have hw := TypeTable.conforms_of_cast hcast
        have hreached : ∀ ref, ref? = some ref → s.Live (.object ref) := fun ref href =>
          hleads.object ref href ▸ hlive
        obtain ⟨cell, s', hcell, hstore, hwrites⟩ :=
          Machine.exists_storeIn hm hs hmember hslot hleads.used hreached hw
        refine .inr ⟨ref?, w, cell, s', hleads, ⟨hv, ⟨ref?, hleads⟩, hcast⟩, hcell, ?_, hwrites⟩
        simp only [ofCast, pure_bind, act_write hm hmember hslot hend.access hleads.used.isStatic hw]
        rw [perform_bind_ok hstore]
        rfl
  · obtain ⟨e, he⟩ := exists_throw_of_not_conforms hend hfits hl o hv
    exact .inl ⟨⟨e, by rw [he]; rfl⟩, fun w hw => hv hw.handed⟩

/-- **What a getter does** on a member whose cell holds a value of the member's type: it converts the value to
its own boundary. -/
theorem run_getter (hm : m.types.Declared) (hmember : m.types.HasMember member) (hslot : member.slot? = some slot)
    (hend : (Operation.get member).EndsIn a) (hfits : (Operation.get member).Fits key)
    (hl : (Operation.get member).lambda m.types key = .ok l) (hleads : Leads m.types member o ref?)
    (ho : ∀ type, key.instanceType? = some type → m.types.conforms type o = true) {cell : Cell}
    (hcell : member.cell? ref? = some cell) (hv : s.content? cell = some v)
    (hconf : m.types.conforms member.type v = true) :
    (m.run l.compile (instanceInput key o)).perform s =
      (ofCast (m.types.cast key.valueType v)).perform s := by
  have hrun : m.run l.compile (instanceInput key o ++ []) = _ :=
    Operation.run_lambda hend hfits ⟨ho, .nil⟩ hl
  have hload := Machine.perform_loadFrom hm hmember hslot hleads.used hcell hv
  have hread := perform_read hm hmember hslot hend.access hleads.used.isStatic hconf hload
  have hact : ((Operation.get member).act m a o []).perform s = (.ok v, s) := by
    rw [Operation.act, hleads.target rfl rfl, pure_bind, List.zip_nil_left, List.mapM_nil, pure_bind]
    exact hread
  rw [List.append_nil] at hrun
  rw [hrun, perform_bind_ok hact]
  exact congrArg (·.perform s) (Machine.converted_of_conforms hconf)

/-- **What was written is read back.**  Let a setter and a getter of a member with a slot (a field, write-once or
not, or a property with a slot, of instances or static) be obtained at any boundaries, and let the instance belong
to both.  In a well-typed store the setter fails and changes nothing if it has nothing to write, and otherwise
writes what the value is as one of the member's type to the cell of the member and changes no other cell; and then
the getter yields what this is at its own boundary, or fails as the conversion does.  With the default boundaries
it yields the value that was written. -/
theorem read_back (hm : m.types.Declared) (hslot : member.slot?.isSome = true) {r r' : AccessorRequest}
    {setter getter : Accessor} (hset : AccessorCache.Obtained m.types (.set member) r setter)
    (hget : AccessorCache.Obtained m.types (.get member) r' getter) (hs : s.WellTyped m.types) (hlive : s.Live o)
    (hset_o : ∀ type, setter.key.instanceType? = some type → m.types.conforms type o = true)
    (hget_o : ∀ type, getter.key.instanceType? = some type → m.types.conforms type o = true) (v : Value) :
    ((∃ e, (m.run setter.lambda.compile (instanceInput setter.key o ++ [v])).perform s = (.error e, s)) ∧
      ∀ w, ¬Accepts m member setter.key.valueType o v w) ∨
    ∃ w cell s', Accepts m member setter.key.valueType o v w ∧ member.cell? o.object? = some cell ∧
      (m.run setter.lambda.compile (instanceInput setter.key o ++ [v])).perform s = (.ok .null, s') ∧
      s.WritesOnly s' cell w ∧
      (m.run getter.lambda.compile (instanceInput getter.key o)).perform s' =
        (ofCast (m.types.cast getter.key.valueType w)).perform s' ∧
      (r = .default → r' = .default →
        (m.run getter.lambda.compile (instanceInput getter.key o)).perform s' = (.ok v, s')) := by
  obtain ⟨a, hop, hend, hfits, hkey, hl⟩ := hset.exists_access
  obtain ⟨a', -, hend', hfits', hkey', hl'⟩ := hget.exists_access
  obtain ⟨slot, hslot⟩ := Option.isSome_iff_exists.1 hslot
  obtain herror | ⟨ref?, w, cell, s', hleads, hw, hcell, hrun, hwrites⟩ :=
    run_setter hm hop hslot hend hfits hl hs hlive hset_o v
  · exact .inl herror
  · have hread := run_getter hm hop hslot hend' hfits' hl' hleads hget_o hcell hwrites.content
      (TypeTable.conforms_of_cast hw.cast)
    refine .inr ⟨w, cell, s', hw, hleads.cell?_object? ▸ hcell, hrun, hwrites, hread, ?_⟩
    rintro rfl rfl
    -- the default boundaries are of the member's type, so neither conversion does anything
    have hv := hw.handed
    rw [hkey] at hv
    obtain rfl : v = w := Except.ok.inj ((TypeTable.cast_of_conforms hv).symm.trans hw.cast)
    rw [hread, hkey', show ((Operation.get member).key .default).valueType = member.type from rfl, hw.cast]
    rfl

/-! ## A tag -/

open AccessorCache (tags number declared_tags Obtained Served)

/-- Nothing is supplied for tags. -/
def tagMachine : Machine := ⟨tags, fun _ _ _ => pure .null, fun _ _ _ => pure ()⟩

/-- A tag. -/
def tag : Store := Store.empty.push ⟨0, [.int64 0]⟩

/-- A setter of the number that takes narrow integers. -/
def narrowSetter : Accessor :=
  ⟨⟨number.id, .set, .typed, some (.object 0), .int32, []⟩,
    [⟨"instance", .object 0⟩, ⟨"value", .int32⟩],
    .writePrimitive number (some (.parameter 0 (.object 0)))
      (.convert .widen (.parameter 1 .int32) .int64)⟩

/-- The default getter of the number. -/
def numberGetter : Accessor :=
  ⟨⟨number.id, .get, .typed, some (.object 0), .int64, []⟩,
    [⟨"instance", .object 0⟩], .fieldGet number (some (.parameter 0 (.object 0)))⟩

theorem obtained_narrowSetter :
    Obtained tags (.set (.field number)) ⟨.typed, none, some .int32, none, none⟩ narrowSetter := by
  have hop : (Operation.set (.field number)).Of tags := rfl
  have hserved := Served.empty declared_tags
  exact .handedOut hserved (.refl _) hop ((hserved.records.handedOut_request hop _).trans rfl)

theorem obtained_numberGetter : Obtained tags (.get (.field number)) .default numberGetter := by
  have hop : (Operation.get (.field number)).Of tags := rfl
  have hserved := Served.empty declared_tags
  exact .handedOut hserved (.refl _) hop ((hserved.records.handedOut_request hop _).trans rfl)

/-- The number of a tag is written as a narrow seven and read as a wide one. -/
theorem read_back_tag : ∃ cell s',
    (tagMachine.run narrowSetter.lambda.compile [.object ⟨0, 0⟩, .int32 7]).perform tag = (.ok .null, s') ∧
    tag.WritesOnly s' cell (.int64 7) ∧
    (tagMachine.run numberGetter.lambda.compile [.object ⟨0, 0⟩]).perform s' = (.ok (.int64 7), s') := by
  have htag : tag.WellTyped tags := (Store.wellTyped_empty tags).push (show 0 < tags.size by decide)
  have hlive : tag.Live (.object ⟨0, 0⟩) := Store.live_object.2 ⟨_, rfl, rfl⟩
  have hconf : ∀ type, some (.object 0) = some type →
      tagMachine.types.conforms type (.object ⟨0, 0⟩) = true :=
    fun type htype => Option.some.inj htype ▸ rfl
  obtain ⟨⟨e, he⟩, -⟩ | ⟨w, cell, s', hw, -, hset, hwrites, hget, -⟩ :=
    read_back (m := tagMachine) (s := tag) declared_tags rfl obtained_narrowSetter
      obtained_numberGetter htag hlive hconf hconf (.int32 7)
  · cases he
  · cases hw.cast
    exact ⟨cell, s', hset, hwrites, hget⟩

end Accessor
end Reshape
