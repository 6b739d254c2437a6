import Reshape.Proofs.Store.Access

/-!
# How operations on objects fail

Operations on declared members in a well-typed store fail for reasons that callers can bring about: a
value does not convert, an instance is missing.  The errors of class internal, for slots that are not
there and for wrong numbers of arguments, are out of reach (`Machine.raises_invoke`,
`Machine.raises_construct`), because generated bodies use slots of their type (`Machine.BodyAt`).  Of the
supplied bodies it is assumed that they do not raise such errors themselves (`Machine.Reporting`).
-/

namespace Reshape

/-- The error is not one that checked construction rules out. -/
def Error.Reported (e : Error) : Prop :=
  e.errorClass ≠ .internal

namespace Action

variable {α β : Type} {t : TypeTable} {s : Store} {E : Error → Prop}

/-- If an action fails, then with such an error. -/
def Raises (s : Store) (a : Action α) (E : Error → Prop) : Prop :=
  ∀ e, (a.perform s).1 = .error e → E e

theorem Raises.pure (v : α) : Raises s (pure v) E := fun _ h => by cases h

theorem Raises.throw {e : Error} (h : E e) : Raises s (MonadExcept.throw e : Action α) E := by
  intro e' he
  cases he
  exact h

theorem Raises.imp {E' : Error → Prop} {a : Action α} (ha : Raises s a E) (h : ∀ e, E e → E' e) :
    Raises s a E' :=
  fun e he => h e (ha e he)

/-- A failure is one of the first action, or one of the second on what the first leaves. -/
theorem Raises.bind {a : Action α} {f : α → Action β} {post : α → Store → Prop}
    (ha : Raises s a E) (hkeeps : Keeps t s a post)
    (hf : ∀ v s', s'.WellTyped t → s.Grows s' → post v s' → Raises s' (f v) E) :
    Raises s (a >>= f) E := by
  intro e he
  rcases h : a.perform s with ⟨result, s'⟩
  cases result with
  | error e' =>
    rw [perform_bind_error h] at he
    cases he
    exact ha e (by rw [h])
  | ok v =>
    have hs' := hkeeps.wellTyped
    have hg := hkeeps.grows
    have hv := hkeeps.result v (by rw [h])
    rw [h] at hs' hg hv
    rw [perform_bind_ok h] at he
    exact hf v s' hs' hg hv e he

theorem Raises.map {a : Action α} (ha : Raises s a E) (f : α → β) : Raises s (f <$> a) E := by
  intro e he
  rw [perform_map] at he
  split at he
  · cases he
  · rename_i e' s' h
    cases he
    exact ha e (by rw [h])

theorem Raises.bind_pure {a : Action α} (ha : Raises s a E) (f : α → β) :
    Raises s (a >>= fun v => Pure.pure (f v)) E := by
  rw [bind_pure_comp]
  exact ha.map f

theorem Raises.get_bind {f : Store → Action α} (h : Raises s (f s) E) :
    Raises s (get >>= f) E := by
  intro e he
  rw [perform_bind_ok (perform_get s)] at he
  exact h e he

theorem Raises.modify (f : Store → Store) : Raises s (modify f) E := fun _ h => by cases h

/-- A conversion that fails is reported. -/
theorem Raises.ofCast (r : Except CastError α) : Raises s (Action.ofCast r) Error.Reported := by
  cases r with
  | ok v => exact .pure v
  | error e => exact .throw ErrorClass.noConfusion

end Action

namespace Machine

open Action

variable {m : Machine} {s : Store}

/-! ## Slots -/

/-- Reading a slot that an object has does not fail. -/
theorem raises_loadSlot (hs : s.WellTyped m.types) {ref : ObjectRef} (hlive : s.Live (.object ref))
    {slot : Nat} {type : ValueType}
    (htype : (m.types.model ref.type).slotTypes[slot]? = some type) {E : Error → Prop} :
    Raises s (loadSlot ref slot) E := by
  obtain ⟨r, hr, hrtype⟩ := Store.live_object.1 hlive
  obtain ⟨v, hv, -, -⟩ := hs.slot hr (hrtype ▸ htype)
  have hslots : (s.slots ref)[slot]? = some v := by rw [Store.slots, hr, hv]
  refine .get_bind ?_
  rw [hslots]
  exact .pure v

theorem raises_storeSlot {ref : ObjectRef} (hlive : s.Live (.object ref)) {slot : Nat}
    {type : ValueType} (htype : (m.types.model ref.type).slotTypes[slot]? = some type) (v : Value)
    (hs : s.WellTyped m.types) : Raises s (m.storeSlot ref slot v) Error.Reported := by
  obtain ⟨r, hr, hrtype⟩ := Store.live_object.1 hlive
  refine .get_bind ?_
  simp only [hr, hrtype, htype]
  have hcast : Keeps m.types s (Action.ofCast (m.types.cast type v)) fun _ _ => True :=
    .ofCast hs fun _ _ => trivial
  exact (Raises.ofCast _).bind hcast fun w _ _ _ _ => .modify _

/-- Reading a static slot that a type has does not fail. -/
theorem raises_loadStatic {owner : TypeId} {slot : Nat} {type : ValueType}
    (htype : (m.types.model owner).staticTypes[slot]? = some type) {E : Error → Prop} :
    Raises s (m.loadStatic owner slot) E := by
  simp only [loadStatic, htype]
  exact .get_bind (.pure _)

/-- Writing a static slot that a type has does not fail. -/
theorem raises_storeStatic {owner : TypeId} {slot : Nat} {type : ValueType}
    (htype : (m.types.model owner).staticTypes[slot]? = some type) (v : Value)
    {E : Error → Prop} : Raises s (m.storeStatic owner slot v) E := by
  simp only [storeStatic, htype]
  exact .modify _

theorem raises_requireInstance (receiver : Option ObjectRef) (member : String) :
    Raises s (requireInstance receiver member) Error.Reported := by
  cases receiver with
  | none => exact .throw ErrorClass.noConfusion
  | some ref => exact .pure ref

/-! ## Fields -/

theorem raises_loadField (hm : m.types.Declared) (hs : s.WellTyped m.types) {f : FieldRef}
    (hf : m.types.HasField f) {receiver : Option ObjectRef}
    (hr : s.Receives m.types f.owner receiver) :
    Raises s (m.loadField f receiver) Error.Reported := by
  rw [loadField]
  split
  · rename_i hstatic
    exact raises_loadStatic (hf.staticType (hm.sound _ hf.owner_lt) hstatic)
  · rename_i hstatic
    refine (raises_requireInstance receiver f.field.name).bind
      (keeps_requireInstance hs receiver f.field.name) fun ref s' hs' hg href => ?_
    obtain ⟨hlive, hsub⟩ := hr.mono hg ref href
    exact raises_loadSlot hs' hlive (hf.slotType hm.sound (by simpa using hstatic) hsub)

theorem raises_storeField (hm : m.types.Declared) (hs : s.WellTyped m.types) {f : FieldRef}
    (hf : m.types.HasField f) {receiver : Option ObjectRef}
    (hr : s.Receives m.types f.owner receiver) (v : Value) :
    Raises s (m.storeField f receiver v) Error.Reported := by
  have hcast : Keeps m.types s (Action.ofCast (m.types.cast f.field.type v)) fun _ _ => True :=
    .ofCast hs fun _ _ => trivial
  refine (Raises.ofCast _).bind hcast fun w s' hs' hg _ => ?_
  split
  · rename_i hstatic
    exact raises_storeStatic (hf.staticType (hm.sound _ hf.owner_lt) hstatic) w
  · rename_i hstatic
    refine (raises_requireInstance receiver f.field.name).bind
      (keeps_requireInstance hs' receiver f.field.name) fun ref s'' hs'' hg' href => ?_
    obtain ⟨hlive, hsub⟩ := hr.mono (hg.trans hg') ref href
    exact raises_storeSlot hlive (hf.slotType hm.sound (by simpa using hstatic) hsub) w hs''

/-! ## Methods and constructors -/

/-- What is assumed of the supplied bodies: on well-typed stores they fail with reported errors only. -/
structure Reporting (m : Machine) : Prop where
  /-- Bodies of methods. -/
  method : ∀ body receiver args s, s.WellTyped m.types →
    (∀ ref, receiver = some ref → s.Live (.object ref)) → (∀ v ∈ args, s.Live v) →
    Raises s (m.method body receiver args) Error.Reported
  /-- Bodies of constructors. -/
  constructor : ∀ body ref args s, s.WellTyped m.types → s.Live (.object ref) →
    (∀ v ∈ args, s.Live v) → Raises s (m.constructor body ref args) Error.Reported

/-- What the body of a declared method can be: a supplied one, or a generated one that uses a slot of
the declaring type. -/
inductive BodyAt (t : TypeTable) (r : MethodRef) : MethodBody → Prop
  /-- A supplied body. -/
  | native (body : NativeId) : BodyAt t r (.native body)
  /-- A getter. -/
  | loadSlot {slot : Nat} {type : ValueType}
      (htype : (t.model r.owner).slotTypes[slot]? = some type) : BodyAt t r (.loadSlot slot)
  /-- A getter of a static property. -/
  | loadStatic {slot : Nat} {type : ValueType}
      (htype : (t.model r.owner).staticTypes[slot]? = some type) : BodyAt t r (.loadStatic slot)
  /-- A setter. -/
  | storeSlot {slot : Nat} {type : ValueType} {p : Parameter} (hparameters : r.method.parameters = [p])
      (htype : (t.model r.owner).slotTypes[slot]? = some type) : BodyAt t r (.storeSlot slot)
  /-- A setter of a static property. -/
  | storeStatic {slot : Nat} {type : ValueType} {p : Parameter}
      (hparameters : r.method.parameters = [p])
      (htype : (t.model r.owner).staticTypes[slot]? = some type) : BodyAt t r (.storeStatic slot)

/-- An instance property with a slot has its type at that slot. -/
theorem slotType_of_property {t : TypeTable} {owner : TypeId} (hs : t.Sound owner) {p : Property}
    (hp : p ∈ (t.model owner).properties) (hstatic : p.isStatic = false) {slot : Nat}
    (hslot : p.backing? = some slot) : (t.model owner).slotTypes[slot]? = some p.type := by
  have hshare : ⟨p.name, slot, p.type⟩ ∈ (t.model owner).shares false := by
    refine List.mem_append_right _ (List.mem_filterMap.2 ⟨p, hp, ?_⟩)
    simp [Property.share?, hstatic, hslot]
  rw [hs.laidOut.slotTypes]
  exact hs.laidOut.consecutive.getElem? hshare

theorem bodyAt_of_hasMethod (hm : m.types.Declared) {r : MethodRef} (hr : m.types.HasMethod r) :
    BodyAt m.types r r.method.body := by
  have hsound := hm.sound _ hr.owner_lt
  rcases hsound.laidOut.accessor r.method hr.mem with ⟨body, hnative⟩ | ⟨p, hp, hgetter | hsetter⟩
  · exact hnative ▸ .native body
  · cases hslot : p.backing? with
    | none =>
      obtain ⟨body, hnative⟩ := hgetter.native hslot
      exact hnative ▸ .native body
    | some slot =>
      rw [hgetter.body slot hslot]
      cases hstatic : p.isStatic with
      | true => exact .loadStatic (TypeTable.staticType_of_property hsound hp hstatic hslot)
      | false => exact .loadSlot (slotType_of_property hsound hp hstatic hslot)
  · cases hslot : p.backing? with
    | none =>
      obtain ⟨body, hnative⟩ := hsetter.native hslot
      exact hnative ▸ .native body
    | some slot =>
      rw [hsetter.body slot hslot]
      cases hstatic : p.isStatic with
      | true =>
        exact .storeStatic hsetter.parameters
          (TypeTable.staticType_of_property hsound hp hstatic hslot)
      | false =>
        exact .storeSlot hsetter.parameters (slotType_of_property hsound hp hstatic hslot)

theorem raises_receiverFor (r : MethodRef) (receiver : Option ObjectRef) :
    Raises s (receiverFor r receiver) Error.Reported := by
  rw [receiverFor]
  split
  · exact .pure _
  · exact (raises_requireInstance receiver r.method.name).map _

theorem raises_runBody (hm : m.types.Declared) (hn : m.Reporting) (hs : s.WellTyped m.types)
    {r : MethodRef} (hr : m.types.HasMethod r) {receiver : Option ObjectRef}
    (hreceiver : s.Receives m.types r.owner receiver) {args : List Value}
    (hlive : ∀ v ∈ args, s.Live v) (hlength : args.length = r.method.parameters.length) :
    Raises s (m.runBody r args receiver) Error.Reported := by
  have honly : ∀ p, r.method.parameters = [p] → ∃ v, args = [v] := fun p hp =>
    List.length_eq_one_iff.1 (by rw [hlength, hp]; rfl)
  have hbody := bodyAt_of_hasMethod hm hr
  rw [runBody]
  generalize r.method.body = body at hbody
  cases hbody with
  | native body =>
    exact hn.method body receiver args s hs (fun ref href => (hreceiver ref href).1) hlive
  | loadSlot htype =>
    refine (raises_requireInstance receiver r.method.name).bind
      (keeps_requireInstance hs receiver r.method.name) fun ref s' hs' hg href => ?_
    obtain ⟨hlive', hsub⟩ := hreceiver.mono hg ref href
    exact raises_loadSlot hs' hlive' (TypeTable.slotType_of_prefix hm.sound hsub htype)
  | loadStatic htype => exact raises_loadStatic htype
  | storeSlot hparameters htype =>
    obtain ⟨v, rfl⟩ := honly _ hparameters
    refine (raises_requireInstance receiver r.method.name).bind
      (keeps_requireInstance hs receiver r.method.name) fun ref s' hs' hg href => ?_
    obtain ⟨hlive', hsub⟩ := hreceiver.mono hg ref href
    have htype' := TypeTable.slotType_of_prefix hm.sound hsub htype
    exact (raises_storeSlot hlive' htype' v hs').bind_pure _
  | storeStatic hparameters htype =>
    obtain ⟨v, rfl⟩ := honly _ hparameters
    exact (raises_storeStatic htype v).bind_pure _

theorem raises_invoke (hm : m.types.Declared) (hn : m.Reporting) (hs : s.WellTyped m.types)
    {r : MethodRef} (hr : m.types.HasMethod r) {receiver : Option ObjectRef}
    (hreceiver : s.Receives m.types r.owner receiver) {args : List Value}
    (hlive : ∀ v ∈ args, s.Live v) (hlength : args.length = r.method.parameters.length) :
    Raises s (m.invoke r receiver args) Error.Reported := by
  rw [invoke_eq]
  refine (raises_receiverFor r receiver).bind (keeps_receiverFor hs hreceiver r)
    fun used s' hs' hg hused => ?_
  exact raises_runBody hm hn hs' hr hused (fun v hv => (hlive v hv).mono hg) hlength

theorem raises_load (hm : m.types.Declared) (hn : m.Reporting) (hs : s.WellTyped m.types)
    {member : MemberRef} (hmember : m.types.HasMember member) {receiver : Option ObjectRef}
    (hreceiver : s.Receives m.types member.owner receiver) :
    Raises s (m.load member receiver) Error.Reported := by
  cases member with
  | field f => exact raises_loadField hm hs hmember hreceiver
  | property p =>
    rw [load]
    split
    · rename_i g hg
      obtain ⟨hmethod, howner, hgetter⟩ :=
        TypeTable.HasProperty.getter hmember (hm.sound _ hmember.owner_lt) hg
      have hreceiver' : s.Receives m.types g.owner receiver := howner ▸ hreceiver
      exact raises_invoke hm hn hs hmethod hreceiver' (by simp)
        (by simp [hgetter.parameters])
    · exact .throw ErrorClass.noConfusion

/-- Steps that write slots of an object do not miss them. -/
theorem raises_assignSlots (hs : s.WellTyped m.types) {ref : ObjectRef}
    (href : s.Live (.object ref)) {args : List Value} (hlive : ∀ v ∈ args, s.Live v)
    (steps : List SlotInit)
    (hsteps : ∀ step ∈ steps, ∃ type, (m.types.model ref.type).slotTypes[step.slot]? = some type) :
    Raises s (m.assignSlots ref args steps) Error.Reported := by
  induction steps generalizing s with
  | nil => exact .pure ()
  | cons step rest ih =>
    obtain ⟨type, htype⟩ := hsteps step (List.mem_cons_self ..)
    have harg : s.Live (args[step.parameter]?.getD .null) := by
      cases hv : args[step.parameter]? with
      | none => exact Store.live_null s
      | some v => exact hlive v (List.mem_of_getElem? hv)
    refine (raises_storeSlot href htype _ hs).bind (keeps_storeSlot hs ref step.slot harg)
      fun _ s' hs' hg _ => ?_
    exact ih hs' (href.mono hg) (fun v hv => (hlive v hv).mono hg) fun step hstep =>
      hsteps step (List.mem_cons_of_mem _ hstep)

theorem raises_construct (hm : m.types.Declared) (hn : m.Reporting)
    (hs : s.WellTyped m.types) {c : ConstructorRef} (hc : m.types.HasConstructor c)
    {args : List Value} (hlive : ∀ v ∈ args, s.Live v)
    (hlength : args.length = c.constructor.parameters.length) :
    Raises s (m.construct c args) Error.Reported := by
  have hsound := (hm.sound _ hc.owner_lt).constructors _ hc.mem
  have hmake : Raises s (m.instantiate c.owner) Error.Reported := fun _ he => by cases he
  rw [construct, if_neg (not_not.2 hlength)]
  refine hmake.bind (keeps_instantiate hs hc.owner_lt) fun ref s₁ hs₁ hg₁ href => ?_
  have hlive₁ : ∀ v ∈ args, s₁.Live v := fun v hv => (hlive v hv).mono hg₁
  split
  · rename_i steps hbody
    refine (raises_assignSlots hs₁ href.2 hlive₁ steps fun step hstep => ?_).bind_pure _
    obtain ⟨_, type, _, -, htype, -⟩ := hsound.step steps hbody step hstep
    exact ⟨type, href.1 ▸ htype⟩
  · rename_i body hbody
    exact (hn.constructor body ref args s₁ hs₁ href.2 hlive₁).bind_pure _

end Machine
end Reshape
