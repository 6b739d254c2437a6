import Reshape.Proofs.Expr.Parameters
import Reshape.Proofs.Expr.Unification
import Reshape.Proofs.Projection.Assembly
import Reshape.Proofs.Projection.Bound
import Reshape.Proofs.Projection.NameMatching
import Reshape.Proofs.Schema.Realisation

/-!
# Inferred targets

The target of a configuration can be synthesized from its sources, with a property for each member that is
typed by the member's source.  The type of the source is taken apart for the descriptor and put together
again for the property (`ValueType.reassembled`), which loses the null that was added to a type that
accepts it anyway: so the target accepts a source exactly if nothing was lost, or if what is left takes
everything (`Compilation.inferred_accepts_iff`).
-/

namespace Reshape

/-! ## Types taken apart and put together -/

namespace ValueType

/-- The type that is put together again from what a type is without null and whether it had null. -/
def reassembled (a : ValueType) : ValueType :=
  effectiveType a.underlying a.isNullable

/-- Nothing that matters is lost when the type is put together again: it has no layer for null, or one
around a plain type, which needs it, or everything converts to what is left. -/
def Survives (a : ValueType) : Prop :=
  a.isNullable = false ∨ a.underlying.isPlain = true ∨ a.core = .any

theorem reassembled_of_isNullable_eq_false {a : ValueType} (h : a.isNullable = false) :
    a.reassembled = a := by
  rw [reassembled, effectiveType, h, underlying_of_isNullable_eq_false h]
  rfl

theorem reassembled_nullable (a : ValueType) : (nullable a).reassembled = a.orNull := rfl

end ValueType

namespace TypeTable

variable {t : TypeTable} {a : ValueType} {v : Value}

/-- A type converts to what it is put together again as exactly if it survives. -/
theorem converts_reassembled_iff : t.Converts a a.reassembled ↔ a.Survives := by
  cases hnullable : a.isNullable with
  | false =>
    rw [ValueType.reassembled_of_isNullable_eq_false hnullable]
    exact ⟨fun _ => .inl hnullable, fun _ => .refl a⟩
  | true =>
    obtain ⟨inner, rfl⟩ : ∃ inner, a = .nullable inner :=
      ⟨_, ValueType.eq_nullable_of_isNullable hnullable⟩
    rw [ValueType.reassembled_nullable, ValueType.orNull]
    by_cases hplain : inner.isPlain = true
    · rw [if_pos hplain]
      exact ⟨fun _ => .inr (.inl hplain), fun _ => .refl _⟩
    · rw [if_neg hplain]
      constructor
      · intro h
        refine .inr (.inr (not_not.1 fun hcore => ?_))
        exact absurd (h.layers_le hcore) (Nat.not_succ_le_self _)
      · rintro (h | h | h)
        · cases h
        · exact absurd h hplain
        · exact Converts.nullable_left (.refl inner) h

/-- What is left of a type has its values. -/
theorem conforms_reassembled (h : t.conforms a v = true) : t.conforms a.reassembled v = true := by
  cases hnullable : a.isNullable with
  | false => rwa [ValueType.reassembled_of_isNullable_eq_false hnullable]
  | true =>
    obtain ⟨inner, rfl⟩ : ∃ inner, a = .nullable inner :=
      ⟨_, ValueType.eq_nullable_of_isNullable hnullable⟩
    rw [ValueType.reassembled_nullable]
    by_cases hv : v = .null
    · rw [hv, conforms_null, acceptsNull_orNull]
    · exact conforms_orNull (conforms_nullable hv ▸ h)

end TypeTable

/-! ## Sources that are taken -/

namespace Expr

/-- The property that is inferred from a source takes it: a literal becomes a literal of the property's
type, and the type of any other source survives. -/
def Inferable (t : TypeTable) : Expr → Prop
  | constant v type => ∃ w, t.cast type.reassembled v = .ok w
  | e => e.type.Survives

/-- A literal of its type is taken. -/
theorem inferable_constant {t : TypeTable} {v : Value} {type : ValueType}
    (h : t.conforms type v = true) : (constant v type).Inferable t :=
  ⟨v, TypeTable.cast_of_conforms (TypeTable.conforms_reassembled h)⟩

end Expr

namespace Binding

variable {t : TypeTable} {e e' : Expr} {type : ValueType}

/-- A source without value map, converted to the type that it is assigned to. -/
def converted (t : TypeTable) (e : Expr) (type : ValueType) : Except Error Expr :=
  match e with
  | .constant v _ => Expr.typedLiteral t v type
  | e => e.coerce t type

theorem finish_none (t : TypeTable) (e : Expr) (type : ValueType) :
    finish t e none type = Build.ofExcept (converted t e type) := by
  cases e <;> rfl

theorem exists_converted_iff : (∃ e', converted t e e.type.reassembled = .ok e') ↔ e.Inferable t := by
  cases e with
  | constant v type =>
    constructor
    · rintro ⟨e', h⟩
      obtain ⟨w, hw, -⟩ := bind_eq_ok.1 h
      unfold TypeTable.convertConstant at hw
      split at hw
      · rename_i hcast
        exact ⟨_, hcast⟩
      · cases hw
    · rintro ⟨w, hw⟩
      refine ⟨.constant w type.reassembled, bind_eq_ok.2 ⟨w, ?_, rfl⟩⟩
      rw [TypeTable.convertConstant]
      have hcast : t.cast (Expr.constant v type).type.reassembled v = .ok w := hw
      rw [hcast]
  | _ => exact TypeTable.exists_coerce_iff.trans TypeTable.converts_reassembled_iff

theorem checkScopes_convertBy (rule : ConversionRule) (e : Expr) (bound : List LocalId) :
    (e.convertBy t rule type).checkScopes bound = e.checkScopes bound := by
  unfold Expr.convertBy
  split
  · rfl
  · split <;> rfl
  · rfl

/-- Locals are read in what a source becomes where they are read in the source. -/
theorem checkScopes_converted (h : converted t e type = .ok e') (bound : List LocalId) :
    e'.checkScopes bound = e.checkScopes bound := by
  cases e with
  | constant v _ =>
    obtain ⟨w, -, h⟩ := bind_eq_ok.1 h
    cases h
    rfl
  | _ =>
    obtain ⟨rule, -, rfl⟩ := Expr.convertTo_eq_ok h
    exact checkScopes_convertBy rule _ bound

/-- A source that is finished refers to the parameters that it referred to before. -/
theorem each_converted {P : Expr → Prop} (hP : ∀ n : Expr, n.IsInner → P n)
    (h : converted t e type = .ok e') (he : e.Each P) : e'.Each P := by
  cases e with
  | constant v _ => exact Expr.each_typedLiteral hP h
  | _ => exact Expr.each_coerce hP he h

end Binding

/-! ## Reading members -/

namespace Expr

variable {P : Expr → Prop} (hP : ∀ n : Expr, n.IsInner → P n) {t : TypeTable}
include hP

theorem each_readMember {receiver : Option Expr} {m : MemberRef} {e : Expr}
    (hr : ∀ r ∈ receiver.toList, r.Each P) (h : Accessor.readMember t receiver m = .ok e) :
    e.Each P := by
  cases m with
  | field f =>
    obtain ⟨bound, hbound, h⟩ := bind_eq_ok.1 h
    cases h
    exact each_of_children hP trivial (each_bindReceiver hP hr hbound)
  | property p =>
    simp only [Accessor.readMember] at h
    split at h
    · obtain ⟨bound, hbound, h⟩ := bind_eq_ok.1 h
      obtain ⟨es, hes, h⟩ := bind_eq_ok.1 h
      cases h
      refine each_of_children hP trivial (List.forall_mem_append.2 ⟨?_, ?_⟩)
      · exact each_bindReceiver hP hr hbound
      · exact each_bindArguments hP (by simp) hes
    · cases h

theorem each_mkNavigate {receiver e : Expr} {m : MemberRef} (hr : receiver.Each P)
    (h : mkNavigate t receiver m = .ok e) : e.Each P := by
  obtain ⟨-, -, bound, hbound, rfl⟩ := mkNavigate_eq_ok h
  have hbound := each_upcastReceiver hP hr hbound
  exact each_of_children hP trivial (by simpa [children] using hbound)

end Expr

/-! ## Sources refer to the source object -/

/-- Parameters are referenced as they are declared. -/
abbrev Expr.Refers (parameters : List ParameterDecl) (e : Expr) : Prop :=
  e.Each fun n => n.checkParameter parameters = .ok ()

namespace Binding

variable {t : TypeTable} {source : TypeId} {e : Expr}

/-- Only parameters can be referenced in another way than they are declared. -/
theorem checkParameter_of_not_isParameter (parameters : List ParameterDecl) (n : Expr)
    (h : ¬n.IsParameter) : n.checkParameter parameters = .ok () := by
  cases n <;> first | rfl | exact absurd trivial h

theorem checkParameter_of_isInner (parameters : List ParameterDecl) (n : Expr) (h : n.IsInner) :
    n.checkParameter parameters = .ok () :=
  checkParameter_of_not_isParameter parameters n h.not_isParameter

theorem refers_sourceObject (source : TypeId) :
    (sourceObject source).Refers (Projection.parameters source) :=
  Expr.each_parameter.2 (by simp [Expr.checkParameter, Projection.parameters])

theorem refers_follow {path : String} {from? e? : Option Expr} {names : List String}
    (hfrom : ∀ e, from? = some e → e.Refers (Projection.parameters source))
    (h : follow t source path from? names = .ok e?) :
    ∀ e, e? = some e → e.Refers (Projection.parameters source) := by
  induction names generalizing from? with
  | nil =>
    cases h
    exact hfrom
  | cons name rest ih =>
    obtain ⟨e, he, h⟩ := bind_eq_ok.1 h
    have hread : e.Refers (Projection.parameters source) := by
      cases from? with
      | none =>
        obtain ⟨member, -, he⟩ := hop_none_eq_ok he
        refine Expr.each_readMember (checkParameter_of_isInner _) (fun r hr => ?_) he
        split at hr
        · cases hr
        · rw [Option.toList_some, List.mem_singleton] at hr
          exact hr ▸ refers_sourceObject source
      | some from_ =>
        obtain ⟨owner, member, -, -, he⟩ := hop_some_eq_ok he
        exact Expr.each_mkNavigate (checkParameter_of_isInner _) (hfrom from_ rfl) he
    refine ih ?_ h
    rintro _ ⟨⟩
    exact hread

theorem refers_inferredExpr {strategy : NameStrategy} {wanted : Wanted}
    (h : inferredExpr t source strategy wanted = .ok e) :
    e.Refers (Projection.parameters source) := by
  unfold inferredExpr at h
  split at h
  · refine Expr.each_readMember (checkParameter_of_isInner _) (fun r hr => ?_) h
    rw [Option.toList_some, List.mem_singleton] at hr
    exact hr ▸ refers_sourceObject source
  · cases h
  · cases h

/-- **A source refers to nothing but the source object.** -/
theorem refers_sourceExpr {strategy : NameStrategy} {wanted : Wanted} {s : Source}
    (h : (sourceExpr t source strategy wanted s).Reaches e) :
    e.Refers (Projection.parameters source) := by
  obtain ⟨n, n', h⟩ := h
  have hsettled : Expr.Settled (fun n => n.checkParameter (Projection.parameters source) = .ok ())
      [sourceObject source] :=
    ⟨checkParameter_of_not_isParameter _, by simpa using refers_sourceObject source⟩
  cases s with
  | constant v =>
    cases h
    exact Expr.each_constant.2 rfl
  | expression body => exact Expr.each_rebind hsettled h
  | inferred => exact refers_inferredExpr (Build.run_ofExcept_eq_ok h)
  | lambda l =>
    simp only [sourceExpr] at h
    split at h
    · exact Lambda.each_apply hsettled h
    · cases h
  | path path =>
    obtain ⟨e?, he, h⟩ := bind_eq_ok.1 (Build.run_ofExcept_eq_ok h)
    have hfollow := refers_follow (by simp) he
    cases e? with
    | none => cases h
    | some e' =>
      cases h
      exact hfollow _ rfl

end Binding

/-! ## The members of the target -/

/-- A type has a property of a name with a setter, and no other member of that name is found first. -/
structure TypeTable.Settable (t : TypeTable) (id : TypeId) (name : String) (type : ValueType)
    (p : PropertyRef) (s : MethodRef) : Prop where
  /-- The property is found by its name. -/
  found : t.findMember? id name = some (.property p)
  /-- It is a property of instances. -/
  isStatic : p.property.isStatic = false
  /-- It is of the type. -/
  typed : p.property.type = type
  /-- Its setter. -/
  setter : p.setter? = some s
  /-- The setter is declared by the type. -/
  owner : s.owner = id
  /-- The setter takes a value of the property's type. -/
  takes : s.method.parameters = [⟨"value", type, none⟩]

/-- A described property whose setter is open is one of the emitted type. -/
theorem Descriptor.Wellformed.exists_settable {t : TypeTable} {d : Descriptor} {model : TypeModel}
    (hd : d.Wellformed t) (hbuild : t.build (d.declaration t) = .ok model) {p : PropertyDescriptor}
    (hp : p ∈ d.properties) (hset : p.set.exists = true) : ∃ q s,
      (t.push model).Settable t.size p.name (effectiveType p.type p.nullable) q s := by
  have hmodel : (t.push model).model t.size = model := TypeTable.model_push_size t model
  obtain ⟨i, hi⟩ := List.mem_iff_getElem?.1 hp
  obtain ⟨q, hq, hemitted⟩ := (emittedAs_of_build hbuild).properties i p hi
  -- the setter is found in the method table of the new type
  obtain ⟨k, hk, hmethod⟩ : ∃ k, q.setter? = some k ∧
      model.methods[k]? = some (p.setter (d.slotAt t (d.fields.length + i))) := by
    have hsetter := hemitted.setter
    rw [if_pos hset] at hsetter
    exact Option.map_eq_some_iff.1 hsetter
  have hmethodAt : (t.push model).methodAt? t.size k =
      some ⟨t.size, k, p.setter (d.slotAt t (d.fields.length + i))⟩ := by
    rw [TypeTable.methodAt?, hmodel, hmethod]
    rfl
  have hmem : MemberRef.property ((t.push model).propertyRef t.size i q) ∈
      (t.push model).ownMembers t.size := by
    refine List.mem_append_left _ (List.mem_map_of_mem (List.mem_map.2 ⟨(q, i), ?_, rfl⟩))
    rw [hmodel]
    exact List.mem_zipIdx_iff_getElem?.2 hq
  have hfound := TypeTable.findMember?_of_own (TypeTable.lineage_push_size t model)
    (hd.ownMembers_names hbuild) hmem
  have hname : (MemberRef.property ((t.push model).propertyRef t.size i q)).name = p.name :=
    hemitted.name
  rw [hname] at hfound
  refine ⟨_, ⟨t.size, k, p.setter (d.slotAt t (d.fields.length + i))⟩, hfound, hemitted.isStatic,
    hemitted.type, ?_, rfl, rfl⟩
  rw [TypeTable.propertyRef, hk]
  exact hmethodAt

/-! ## Binding the members -/

namespace Compilation

variable {w w' : Workshop} {c : Configuration} {id : TypeId}

/-- A configured member without value map has a name, and the target has a property of that name for its
source. -/
structure Placed (t : TypeTable) (id : TypeId) (m : MemberTarget) (source : Expr) (p : PropertyRef)
    (s : MethodRef) : Prop where
  /-- There is no value map. -/
  unmapped : m.map? = none
  /-- It is configured by name. -/
  named : m.member = .name m.name
  /-- The property. -/
  settable : t.Settable id m.name source.type.reassembled p s

theorem Placed.targetMember {t : TypeTable} {m : MemberTarget} {source : Expr} {p : PropertyRef}
    {s : MethodRef} (h : Placed t id m source p s) :
    targetMember t id m.member = .ok (.property p) := by
  rw [h.named, Compilation.targetMember, h.settable.found]
  have hstatic : (MemberRef.property p).isStatic = false := h.settable.isStatic
  refine bind_eq_ok.2 ⟨.property p, rfl, ?_⟩
  simp only [hstatic, Bool.false_eq_true, if_false]
  rfl

/-- A member is bound by the setter of its property, to its converted source. -/
theorem Placed.run_bindAssignment {m : MemberTarget} {source value : Expr} {p : PropertyRef}
    {s : MethodRef} (h : Placed w.types id m source p s)
    (hvalue : Binding.converted w.types source source.type.reassembled = .ok value) :
    (bindAssignment id m source).run.run w =
      (.ok ⟨m.name, .property p, .setter s, value⟩, w) := by
  have hbuild : (ofBuild (Binding.within (.member m.name)
      (Binding.finish w.types source m.map? p.property.type))).run.run w = (.ok value, w) := by
    rw [h.unmapped, Binding.finish_none, h.settable.typed, hvalue]
    rfl
  have hassign : (ofSynthesis (Accessor.assignTarget (.property p))).run.run w =
      (.ok (.setter s), w) := by
    rw [Accessor.assignTarget, h.settable.setter]
    rfl
  refine run_bind_eq_ok.2 ⟨w.types, w, rfl, run_bind_eq_ok.2 ⟨.property p, w, ?_, ?_⟩⟩
  · rw [h.targetMember]
    rfl
  · exact run_bind_eq_ok.2 ⟨value, w, hbuild, run_bind_eq_ok.2 ⟨.setter s, w, hassign, rfl⟩⟩

/-- An assignment sets the property of a placed member to its converted source. -/
def Sets (t : TypeTable) (id : TypeId) (entry : MemberTarget × Expr) (a : MemberAssignment) : Prop :=
  ∃ p s value, Placed t id entry.1 entry.2 p s ∧
    Binding.converted t entry.2 entry.2.type.reassembled = .ok value ∧
    a = ⟨entry.1.name, .property p, .setter s, value⟩

/-- Members whose sources are taken are bound. -/
theorem exists_bindAssignments {entries : List (MemberTarget × Expr)}
    (hplaced : ∀ entry ∈ entries, ∃ p s, Placed w.types id entry.1 entry.2 p s)
    (htaken : ∀ entry ∈ entries, entry.2.Inferable w.types) : ∃ assignments,
      (bindAssignments id entries).run.run w = (.ok assignments, w) ∧
        List.Forall₂ (Sets w.types id) entries assignments := by
  induction entries with
  | nil => exact ⟨[], rfl, .nil⟩
  | cons entry rest ih =>
    rw [List.forall_mem_cons] at hplaced htaken
    obtain ⟨⟨p, s, hentry⟩, hplaced⟩ := hplaced
    obtain ⟨value, hvalue⟩ := Binding.exists_converted_iff.2 htaken.1
    obtain ⟨assignments, hrun, hsets⟩ := ih hplaced htaken.2
    refine ⟨_, ?_, .cons ⟨p, s, value, hentry, hvalue, rfl⟩ hsets⟩
    exact run_bind_eq_ok.2 ⟨_, w, hentry.run_bindAssignment hvalue,
      run_bind_eq_ok.2 ⟨assignments, w, hrun, rfl⟩⟩

/-- What is bound to a placed member sets its property. -/
theorem Placed.sets {t : TypeTable} {entry : MemberTarget × Expr} {p : PropertyRef} {s : MethodRef}
    (h : Placed t id entry.1 entry.2 p s) {a : MemberAssignment}
    (ha : Assigned t id entry.1 entry.2 a) : Sets t id entry a := by
  obtain ⟨name, member, target, value⟩ := a
  obtain ⟨hname, hmember, ⟨n, n', hvalue⟩, htarget⟩ := ha
  simp only at hname hmember hvalue htarget
  obtain rfl : member = .property p := Except.ok.inj (hmember.symm.trans h.targetMember)
  rw [h.unmapped, Binding.finish_none] at hvalue
  have hconverted : Binding.converted t entry.2 p.property.type = .ok value :=
    Build.run_ofExcept_eq_ok hvalue
  rw [h.settable.typed] at hconverted
  -- a property is assigned by its setter
  obtain rfl : target = .setter s := by
    cases target with
    | field f => cases htarget
    | primitive f => cases htarget
    | setter g =>
      obtain ⟨q, hq, hg⟩ := htarget
      cases hq
      rw [Option.some.inj (hg.symm.trans h.settable.setter)]
  exact ⟨p, s, value, h, hconverted, by rw [hname]⟩

/-- The bindings of members, in order. -/
theorem forall₂_sets_of_bindAssignments {entries : List (MemberTarget × Expr)}
    (hplaced : ∀ entry ∈ entries, ∃ p s, Placed w.types id entry.1 entry.2 p s)
    {assignments : List MemberAssignment}
    (h : (bindAssignments id entries).run.run w = (.ok assignments, w')) :
    List.Forall₂ (Sets w.types id) entries assignments := by
  have hboth := (List.forall₂_and_left _ _).2 ⟨hplaced, (forall₂_of_bindAssignments h).2⟩
  exact hboth.imp fun entry a ⟨⟨p, s, hp⟩, ha⟩ => hp.sets ha

/-! ## Putting the object together -/

section Make

variable {t : TypeTable} {source : TypeId} {r : ConstructorRef}
  {entries : List (MemberTarget × Expr)} {assignments : List MemberAssignment}

theorem Sets.targetParts {entry : MemberTarget × Expr} {a : MemberAssignment}
    (h : Sets t id entry a) : ∃ name, Expr.targetParts a.target = .ok (id, a.value.type, name) := by
  obtain ⟨p, s, value, hp, hvalue, rfl⟩ := h
  have htype : value.type = entry.2.type.reassembled := by
    have hfinish : (Binding.finish t entry.2 none entry.2.type.reassembled).Reaches value := by
      rw [Binding.finish_none, hvalue]
      exact ⟨0, 0, rfl⟩
    exact Binding.type_of_finish hfinish
  refine ⟨s.method.name, ?_⟩
  simp only [Expr.targetParts, hp.settable.takes, hp.settable.owner, htype]

/-- The parts fit together exactly if the sources read their locals inside their bindings. -/
theorem fits_iff (hid : id < t.size) (howner : r.owner = id) (hbare : r.constructor.parameters = [])
    (hrefers : ∀ entry ∈ entries, entry.2.Refers (Projection.parameters source))
    (h : List.Forall₂ (Sets t id) entries assignments) :
    Projection.Fits t source r [] (assignments.map fun a => (a.target, a.value)) ↔
      ∀ entry ∈ entries, entry.2.checkScopes [] = .ok () := by
  constructor
  · intro hfits entry hentry
    obtain ⟨a, ha, hsets⟩ := exists_of_mem_forall₂ h.flip hentry
    have hclosed := (hfits.bindings _ (List.mem_map_of_mem ha)).closed
    obtain ⟨p, s, value, -, hvalue, rfl⟩ := hsets
    exact (Binding.checkScopes_converted hvalue []).symm.trans hclosed.scopes
  · intro hscopes
    refine ⟨by rw [hbare]; exact .nil, by simp, fun b hb => ?_⟩
    obtain ⟨a, ha, rfl⟩ := List.mem_map.1 hb
    obtain ⟨entry, hentry, hsets⟩ := exists_of_mem_forall₂ h ha
    obtain ⟨name, hparts⟩ := hsets.targetParts
    refine ⟨⟨id, name, hparts, ?_⟩, ?_⟩
    · rw [howner]
      exact TypeTable.isSubtype_refl hid
    obtain ⟨p, s, value, -, hvalue, rfl⟩ := hsets
    refine ⟨?_, (Binding.checkScopes_converted hvalue []).trans (hscopes entry hentry)⟩
    exact Binding.each_converted (Binding.checkParameter_of_isInner _) hvalue (hrefers entry hentry)

/-- A projection of the assignments can be made exactly if the sources read their locals inside their
bindings. -/
theorem exists_make_iff (hid : id < t.size) (howner : r.owner = id)
    (hbare : r.constructor.parameters = [])
    (hrefers : ∀ entry ∈ entries, entry.2.Refers (Projection.parameters source))
    (h : List.Forall₂ (Sets t id) entries assignments) :
    (∃ p, CompiledProjection.make t source r [] assignments = .ok p) ↔
      ∀ entry ∈ entries, entry.2.checkScopes [] = .ok () := by
  rw [← fits_iff hid howner hbare hrefers h]
  constructor
  · rintro ⟨p, hp⟩
    obtain ⟨full, hfull, -⟩ := bind_eq_ok.1 hp
    refine Projection.fits_of_assemble (by rw [hbare]; exact .nil) ?_ hfull
    intro b hb owner type name hparts
    obtain ⟨a, ha, rfl⟩ := List.mem_map.1 hb
    obtain ⟨entry, -, hsets⟩ := exists_of_mem_forall₂ h ha
    obtain ⟨name', hparts'⟩ := hsets.targetParts
    cases hparts.symm.trans hparts'
    rfl
  · intro hfits
    exact ⟨_, bind_eq_ok.2 ⟨_, hfits.assemble, rfl⟩⟩

end Make

/-! ## After the target -/

theorem leavesOpen_of_isExplicit (h : isExplicit c = false) : c.LeavesOpen := by
  simp only [isExplicit, Bool.or_eq_false_iff, Option.isSome_eq_false_iff, Option.isNone_iff_eq_none,
    Bool.not_eq_false', List.isEmpty_iff, List.any_eq_false, Bool.or_eq_true, not_or] at h
  obtain ⟨⟨hconstructor, hparameters⟩, hmembers⟩ := h
  exact ⟨hconstructor, hparameters, by simpa using hmembers⟩

/-- A placed member can be assigned. -/
theorem Placed.blocked {t : TypeTable} {m : MemberTarget} {source : Expr} {p : PropertyRef}
    {s : MethodRef} (h : Placed t id m source p s) : Fitting.blocked t id m = false := by
  have hassignable : (MemberRef.property p).isAssignable = true := by
    rw [MemberRef.isAssignable, h.settable.setter]
    rfl
  simp [Fitting.blocked, h.named, h.settable.found, hassignable]

/-- A constructor without parameters takes nothing, and leaves each member for assignment. -/
theorem resolve_bare {t : TypeTable} (hopen : c.LeavesOpen) {r : ConstructorRef}
    (hone : t.constructors id = [r]) (hbare : r.constructor.parameters = [])
    (hblocked : ∀ m ∈ c.members, Fitting.blocked t r.owner m = false) (strategy : NameStrategy) :
    Fitting.resolve t id c strategy = .ok (r, []) := by
  have hfit : Fitting.fit t c strategy r = .bound (.ofPlaces []) := by
    refine (Fitting.fit_eq_bound_iff hopen).2 ⟨?_, fun place m hm _ => ?_⟩
    · rw [hbare]
      rfl
    · exact hblocked m (List.mem_of_getElem? hm)
  simp only [Fitting.resolve, hopen.constructor, hone, hfit]
  rfl

theorem leftOver_nil (c : Configuration) (sources : List Expr) :
    leftOver c sources [] = c.members.zip sources := by
  have huses : ∀ place, Feeds.uses [] place = false := fun _ => rfl
  simp [leftOver, huses]

/-- With a constructor that takes nothing, all that is left to do is to assign the members. -/
theorem run_bindRest_bare {strategy : NameStrategy} {sources : List Expr} {r : ConstructorRef}
    (hresolve : Fitting.resolve w.types id c strategy = .ok (r, []))
    (hbare : r.constructor.parameters = []) {p : CompiledProjection} :
    (bindRest strategy c sources id).run.run w = (.ok p, w') ↔ ∃ assignments,
      (bindAssignments id (c.members.zip sources)).run.run w = (.ok assignments, w') ∧
        CompiledProjection.make w.types c.source r [] assignments = .ok p := by
  have hargs : bindArguments strategy c.source (r.constructor.parameters.zip
      (([] : Feeds).map (fed? c sources))) = pure [] := by
    rw [hbare]
    rfl
  constructor
  · intro h
    obtain ⟨t, w₁, ht, h₁⟩ := run_bind_eq_ok.1 h
    obtain ⟨rfl, rfl⟩ := run_types_eq_ok ht
    rw [hresolve] at h₁
    obtain ⟨_, w₂, hpure, h₂⟩ := run_bind_eq_ok.1 h₁
    cases hpure
    simp only [hargs, leftOver_nil] at h₂
    obtain ⟨_, w₃, hpure, h₃⟩ := run_bind_eq_ok.1 h₂
    cases hpure
    obtain ⟨assignments, w₄, hassignments, h₄⟩ := run_bind_eq_ok.1 h₃
    obtain ⟨hmake, rfl⟩ := run_ofExcept_eq_ok h₄
    exact ⟨assignments, hassignments, hmake⟩
  · rintro ⟨assignments, hassignments, hmake⟩
    refine run_bind_eq_ok.2 ⟨w.types, w, rfl, run_bind_eq_ok.2 ⟨(r, []), w, ?_, ?_⟩⟩
    · rw [hresolve]
      rfl
    refine run_bind_eq_ok.2 ⟨[], w, ?_, run_bind_eq_ok.2 ⟨assignments, w', ?_, ?_⟩⟩
    · rw [hargs]
      rfl
    · rwa [leftOver_nil]
    · rw [hmake]
      rfl

/-- Members that are all placed are bound exactly if their sources are taken and read their locals inside
their bindings. -/
theorem exists_bindRest_iff {strategy : NameStrategy} {sources : List Expr} {r : ConstructorRef}
    (hopen : c.LeavesOpen) (hid : id < w.types.size) (hone : w.types.constructors id = [r])
    (howner : r.owner = id) (hbare : r.constructor.parameters = [])
    (hlength : c.members.length = sources.length)
    (hplaced : ∀ entry ∈ c.members.zip sources, ∃ p s, Placed w.types id entry.1 entry.2 p s)
    (hrefers : ∀ entry ∈ c.members.zip sources, entry.2.Refers (Projection.parameters c.source)) :
    (∃ p w', (bindRest strategy c sources id).run.run w = (.ok p, w')) ↔
      ∀ entry ∈ c.members.zip sources,
        entry.2.Inferable w.types ∧ entry.2.checkScopes [] = .ok () := by
  have hblocked : ∀ m ∈ c.members, Fitting.blocked w.types r.owner m = false := by
    intro m hm
    rw [← List.map_fst_zip (Nat.le_of_eq hlength)] at hm
    obtain ⟨entry, hentry, rfl⟩ := List.mem_map.1 hm
    obtain ⟨p, s, hp⟩ := hplaced entry hentry
    rw [howner]
    exact hp.blocked
  have hresolve := resolve_bare hopen hone hbare hblocked strategy
  simp only [run_bindRest_bare hresolve hbare]
  constructor
  · rintro ⟨p, w', assignments, hassignments, hmake⟩ entry hentry
    have hsets := forall₂_sets_of_bindAssignments hplaced hassignments
    have hscopes := (exists_make_iff hid howner hbare hrefers hsets).1 ⟨p, hmake⟩
    obtain ⟨a, -, q, s, value, -, hvalue, -⟩ := exists_of_mem_forall₂ hsets.flip hentry
    exact ⟨Binding.exists_converted_iff.1 ⟨value, hvalue⟩, hscopes entry hentry⟩
  · intro h
    obtain ⟨assignments, hassignments, hsets⟩ :=
      exists_bindAssignments hplaced fun entry hentry => (h entry hentry).1
    obtain ⟨p, hmake⟩ := (exists_make_iff hid howner hbare hrefers hsets).2
      fun entry hentry => (h entry hentry).2
    exact ⟨p, w, assignments, hassignments, hmake⟩

/-! ## The inferred target -/

theorem synthesized_of_bindTarget {name : String} {sources : List Expr}
    (htarget : c.target = .synthesized name)
    (h : (bindTarget c sources).run.run w = (.ok id, w')) :
    ∃ d, Synthesized w c sources w'.types w'.engine id d := by
  rw [bindTarget, htarget] at h
  cases hexplicit : isExplicit c with
  | true =>
    simp only [synthesizeTarget, hexplicit, if_true] at h
    cases h
  | false =>
    simp only [run_synthesizeTarget hexplicit] at h
    split at h
    · cases h
    · rename_i d hd
      split at h
      · cases h
      · rename_i hs
        cases h
        obtain rfl := name_of_inferredDescriptor hd
        exact ⟨d, htarget, hexplicit, hd, hs⟩

/-- The property that is inferred for a member without value map. -/
theorem inferredProperty_eq_ok {t : TypeTable} {target : String} {m : MemberTarget} {source : Expr}
    {p : PropertyDescriptor} (hmap : m.map? = none) (h : inferredProperty t target m source = .ok p) :
    m.member = .name m.name ∧
      p = ⟨m.name, source.type.underlying, source.type.isNullable, .open, .open, .none, none⟩ := by
  obtain ⟨member, s, placement, map?, parameter?⟩ := m
  cases hmap
  cases member with
  | declared r => cases h
  | name name =>
    cases h
    exact ⟨rfl, rfl⟩

/-- Properties that are not bound give the constructor no parameters. -/
theorem parameters_eq_nil {t : TypeTable} {name : String} {properties : List PropertyDescriptor}
    (h : ∀ p ∈ properties, p.binding = .none) :
    (Descriptor.mk name none [] [] properties []).parameters t = [] := by
  refine List.eq_nil_iff_forall_not_mem.2 fun q hq => ?_
  obtain ⟨m, hm, hbound, -⟩ := Descriptor.mem_parameters_iff.1 hq
  obtain ⟨p, hp, rfl⟩ := List.mem_map.1 hm
  have hnone : (MemberDescriptor.property p).binding = .none := h p hp
  rw [hnone] at hbound
  cases hbound

/-- The target of members without value map is emitted with nothing but a bare constructor and a property
for each member. -/
theorem placed_of_synthesize {t : TypeTable} {engine engine' : Engine} {t' : TypeTable} {d : Descriptor}
    {name : String} {entries : List (MemberTarget × Expr)}
    (hmaps : ∀ entry ∈ entries, entry.1.map? = none)
    (hd : inferredDescriptor t name entries = .ok d) (hnew : engine.registered? name = none)
    (h : engine.synthesize t d = .ok (t', engine', id)) :
    id < t'.size ∧ t'.constructors id = [⟨id, 0, Descriptor.emptyConstructor⟩] ∧
      ∀ entry ∈ entries, ∃ p s, Placed t' id entry.1 entry.2 p s := by
  obtain ⟨properties, hproperties, hd⟩ := bind_eq_ok.1 hd
  cases hd
  obtain ⟨hvalid, ⟨r, hr, -⟩ | ⟨-, model, hbuild, rfl, rfl, -⟩⟩ := Engine.synthesize_eq_ok h
  · cases hnew.symm.trans hr
  have hmodel : (t.push model).model t.size = model := TypeTable.model_push_size t model
  have hmapped := (List.forall₂_and_left _ _).2 ⟨hmaps, mapM_eq_ok.1 hproperties⟩
  have hinferred := hmapped.imp fun _ _ h => inferredProperty_eq_ok h.1 h.2
  refine ⟨Nat.lt_succ_self _, ?_, fun entry hentry => ?_⟩
  · have hunbound : (Descriptor.mk name none [] [] properties []).parameters t = [] := by
      refine parameters_eq_nil fun p hp => ?_
      obtain ⟨entry, -, -, rfl⟩ := exists_of_mem_forall₂ hinferred hp
      rfl
    obtain ⟨-, hone⟩ | ⟨hparameters, -⟩ := Descriptor.constructors_of_build hbuild
    · rw [TypeTable.constructors, hmodel, hone]
      rfl
    · exact absurd hunbound hparameters
  · obtain ⟨p, hp, hnamed, rfl⟩ := exists_of_mem_forall₂ hinferred.flip hentry
    obtain ⟨q, s, hsettable⟩ :=
      (TypeTable.wellformed_of_validate hvalid).exists_settable hbuild hp rfl
    exact ⟨q, s, hmaps entry hentry, hnamed, hsettable⟩

section Inferred

variable {strategy : NameStrategy} {name : String} {w₁ w₂ : Workshop} {sources : List Expr}
  (htarget : c.target = .synthesized name) (hmaps : ∀ m ∈ c.members, m.map? = none)
  (hnew : w.engine.registered? name = none)
  (hsources : (bindSources (c.strategy?.getD strategy) c.source c.members).run.run w =
    (.ok sources, w₁))
  (hmade : (bindTarget c sources).run.run w₁ = (.ok id, w₂))
include htarget hmaps hnew hsources hmade

/-- With a new target that was synthesized, only the sources decide whether compilation succeeds. -/
theorem exists_compile_iff : (∃ p w₃, (compile strategy c).run.run w = (.ok p, w₃)) ↔
    ∀ e ∈ sources, e.Inferable w₂.types ∧ e.checkScopes [] = .ok () := by
  obtain ⟨-, hbound⟩ := forall₂_of_bindSources hsources
  have hengine := (neutral_bindSources (c.strategy?.getD strategy) c.source c.members w).2
  rw [hsources] at hengine
  have hlength := hbound.length_eq
  obtain ⟨d, hd⟩ := synthesized_of_bindTarget htarget hmade
  obtain rfl : name = d.name := TargetSpec.synthesized.inj (htarget.symm.trans hd.target)
  have hmaps' : ∀ entry ∈ c.members.zip sources, entry.1.map? = none :=
    fun entry hentry => hmaps _ (List.of_mem_zip hentry).1
  obtain ⟨hid, hone, hplaced⟩ :=
    placed_of_synthesize hmaps' hd.descriptor (hengine ▸ hnew) hd.synthesize
  have hrefers : ∀ entry ∈ c.members.zip sources, entry.2.Refers (Projection.parameters c.source) := by
    intro entry hentry
    obtain ⟨m, -, hreaches⟩ := exists_of_mem_forall₂ hbound (List.of_mem_zip hentry).2
    exact Binding.refers_sourceExpr hreaches
  -- what compiles is what is bound after the target
  have hcompile : (∃ p w₃, (compile strategy c).run.run w = (.ok p, w₃)) ↔
      ∃ p w₃, (bindRest (c.strategy?.getD strategy) c sources id).run.run w₂ = (.ok p, w₃) := by
    rw [compile_eq]
    simp only [run_bind, hsources, hmade]
  rw [hcompile, exists_bindRest_iff (leavesOpen_of_isExplicit hd.inferred) hid hone rfl rfl hlength
    hplaced hrefers]
  have hsnd : (c.members.zip sources).map Prod.snd = sources :=
    List.map_snd_zip (Nat.le_of_eq hlength.symm)
  constructor
  · intro h e he
    rw [← hsnd] at he
    obtain ⟨entry, hentry, rfl⟩ := List.mem_map.1 he
    exact h entry hentry
  · intro h entry hentry
    exact h entry.2 (List.of_mem_zip hentry).2

/-- **An inferred target accepts the sources that keep their type.**  If no member has a value map, the
name of the target is new and the target was synthesized from the sources, compilation succeeds exactly if
each source is taken and reads its locals inside their bindings; and literals of their type are taken. -/
theorem inferred_accepts_iff :
    ((∃ p w₃, (compile strategy c).run.run w = (.ok p, w₃)) ↔
        ∀ e ∈ sources, e.Inferable w₂.types ∧ e.checkScopes [] = .ok ()) ∧
      ∀ e ∈ sources, ∀ v type, e = .constant v type → w₂.types.conforms type v = true →
        e.Inferable w₂.types := by
  refine ⟨exists_compile_iff htarget hmaps hnew hsources hmade, fun e _ v type he hv => ?_⟩
  rw [he]
  exact Expr.inferable_constant hv

end Inferred

/-! ## A source that loses its type -/

/-- A table with one type, which has a number and a text that may both be null. -/
def cards : TypeTable :=
  .push .empty ⟨"Card", .declared, none, [], [],
    [⟨"Code", .nullable .int32, .open, false, false, 0⟩,
      ⟨"Title", .nullable .text, .open, false, false, 1⟩], [], [],
    [⟨[], .open, .assign []⟩], [.nullable .int32, .nullable .text], []⟩

/-- A member of the cards by its name, for a target that is inferred. -/
def listing (target member : String) : Configuration :=
  ⟨0, .synthesized target, [.of (.name member)], [], none, none⟩

/-- A workshop in which nothing was synthesized. -/
def unlisted : Workshop := ⟨cards, .new .default, .empty, 0⟩

/-- The number, read from a card. -/
def code : Expr :=
  .fieldGet ⟨0, 0, ⟨"Code", .nullable .int32, .open, false, false, 0⟩⟩
    (some (.parameter 0 (.object 0)))

/-- The text, read from a card. -/
def title : Expr :=
  .fieldGet ⟨0, 1, ⟨"Title", .nullable .text, .open, false, false, 1⟩⟩
    (some (.parameter 0 (.object 0)))

/-- The target of one member is synthesized if its descriptor is accepted. -/
theorem exists_bindTarget_listing {target member : String} {e : Expr}
    (hvalid : cards.validate .default ⟨target, none, [], [],
      [⟨member, e.type.underlying, e.type.isNullable, .open, .open, .none, none⟩], []⟩ = .ok ()) :
    ∃ id w₂, (bindTarget (listing target member) [e]).run.run unlisted = (.ok id, w₂) := by
  obtain ⟨model, hmodel⟩ := (TypeTable.wellformed_of_validate hvalid).exists_build
  have hrun := run_synthesizeTarget (c := listing target member) rfl target [e] unlisted
  have hd : inferredDescriptor unlisted.types target ((listing target member).members.zip [e]) =
      .ok ⟨target, none, [], [],
        [⟨member, e.type.underlying, e.type.isNullable, .open, .open, .none, none⟩], []⟩ := rfl
  rw [hd] at hrun
  simp only at hrun
  have hs : unlisted.engine.synthesize unlisted.types _ = _ := Engine.synthesize_new hvalid hmodel
  rw [hs] at hrun
  exact ⟨_, _, hrun⟩

theorem exists_bindTarget_codes :
    ∃ id w₂, (bindTarget (listing "Codes" "Code") [code]).run.run unlisted = (.ok id, w₂) :=
  exists_bindTarget_listing (TypeTable.validate_of_checks rfl rfl)

theorem exists_bindTarget_titles :
    ∃ id w₂, (bindTarget (listing "Titles" "Title") [title]).run.run unlisted = (.ok id, w₂) :=
  exists_bindTarget_listing (TypeTable.validate_of_checks rfl rfl)

/-- The target of the numbers accepts them. -/
theorem inferred_accepts_iff_codes : ∃ id w₂,
    (listing "Codes" "Code").target = .synthesized "Codes" ∧
    (∀ m ∈ (listing "Codes" "Code").members, m.map? = none) ∧
    unlisted.engine.registered? "Codes" = none ∧
    (bindSources .exact 0 (listing "Codes" "Code").members).run.run unlisted =
      (.ok [code], unlisted) ∧
    (bindTarget (listing "Codes" "Code") [code]).run.run unlisted = (.ok id, w₂) ∧
    ∃ p w₃, (compile .exact (listing "Codes" "Code")).run.run unlisted = (.ok p, w₃) := by
  obtain ⟨id, w₂, hmade⟩ := exists_bindTarget_codes
  have hmaps : ∀ m ∈ (listing "Codes" "Code").members, m.map? = none := by
    simp [listing, MemberTarget.of]
  have hsources : (bindSources .exact 0 (listing "Codes" "Code").members).run.run unlisted =
      (.ok [code], unlisted) := rfl
  have haccepts : (∃ p w₃, (compile .exact (listing "Codes" "Code")).run.run unlisted = (.ok p, w₃)) ↔
      ∀ e ∈ [code], e.Inferable w₂.types ∧ e.checkScopes [] = .ok () :=
    (inferred_accepts_iff rfl hmaps rfl hsources hmade).1
  refine ⟨id, w₂, rfl, hmaps, rfl, hsources, hmade, haccepts.2 fun e he => ?_⟩
  rw [List.mem_singleton.1 he]
  exact ⟨.inr (.inl rfl), rfl⟩

/-- **An inferred target need not accept the sources that it was inferred from.** -/
theorem exists_inferred_refused : ¬∀ (strategy : NameStrategy) (c : Configuration) (name : String)
    (w w₁ w₂ : Workshop) (sources : List Expr) (id : TypeId), c.target = .synthesized name →
    (∀ m ∈ c.members, m.map? = none) → w.engine.registered? name = none →
    (bindSources (c.strategy?.getD strategy) c.source c.members).run.run w = (.ok sources, w₁) →
    (bindTarget c sources).run.run w₁ = (.ok id, w₂) →
    ∃ p w₃, (compile strategy c).run.run w = (.ok p, w₃) := by
  intro hall
  obtain ⟨id, w₂, hmade⟩ := exists_bindTarget_titles
  have hmaps : ∀ m ∈ (listing "Titles" "Title").members, m.map? = none := by
    simp [listing, MemberTarget.of]
  have hsources : (bindSources .exact 0 (listing "Titles" "Title").members).run.run unlisted =
      (.ok [title], unlisted) := rfl
  have hcompiles := hall .exact _ _ _ _ _ _ _ rfl hmaps rfl hsources hmade
  have htaken := (exists_compile_iff rfl hmaps rfl hsources hmade).1 hcompiles
  -- the text has a layer for null that it does not need, and not everything is a text
  obtain ⟨hsurvives, -⟩ := htaken title (List.mem_singleton_self title)
  rcases hsurvives with h | h | h <;> cases h

end Compilation

end Reshape
