import Mathlib.Logic.Function.Basic
import Reshape.Proofs.Schema.Emission

/-!
# Synthesis and what was synthesized before

A descriptor with the signature of the registered definition yields that definition, whatever
descriptor it was emitted from.  Signatures leave out accessors, write-once flags and constructor
parameters, so the type that comes back is interchangeable with a fresh emission exactly when the two
descriptors agree on those (`Engine.Reached.interchangeable_fresh_iff`); they need not
(`Engine.exists_not_interchangeable`).
-/

namespace Reshape

/-! ## Interchangeable types -/

/-- Types that are used in the same way: the same members, accessors, write-once flags and constructor
parameters. -/
structure TypeModel.Interchangeable (a b : TypeModel) : Prop where
  /-- The same fields. -/
  fields : a.fields.map (fun f => (f.name, f.type)) = b.fields.map fun f => (f.name, f.type)
  /-- The same of them are write-once. -/
  initOnly : a.fields.map (·.initOnly) = b.fields.map (·.initOnly)
  /-- The same properties. -/
  properties : a.properties.map (fun p => (p.name, p.type)) =
    b.properties.map fun p => (p.name, p.type)
  /-- The same getters, for the same users. -/
  getters : a.properties.map (fun p => (p.getter?.isSome, p.get)) =
    b.properties.map fun p => (p.getter?.isSome, p.get)
  /-- The same setters, for the same users. -/
  setters : a.properties.map (fun p => (p.setter?.isSome, p.set)) =
    b.properties.map fun p => (p.setter?.isSome, p.set)
  /-- Constructors with the same parameters and defaults. -/
  constructors : a.constructors.map (·.parameters) = b.constructors.map (·.parameters)

theorem TypeModel.Interchangeable.refl (a : TypeModel) : a.Interchangeable a :=
  ⟨rfl, rfl, rfl, rfl, rfl, rfl⟩

namespace Descriptor

/-- Two descriptors, each over a table, agree on what a signature leaves out. -/
structure Agrees (t₀ : TypeTable) (d₀ : Descriptor) (t : TypeTable) (d : Descriptor) : Prop where
  /-- The same fields are write-once. -/
  initOnly : d₀.fields.map (·.initOnly) = d.fields.map (·.initOnly)
  /-- Accessors have the same visibility. -/
  accessors : d₀.properties.map (fun p => (p.get, p.set)) =
    d.properties.map fun p => (p.get, p.set)
  /-- The constructor takes the same parameters with the same defaults. -/
  parameters : (d₀.parameters t₀).map (·.toParameter) = (d.parameters t).map (·.toParameter)

theorem Agrees.refl (t : TypeTable) (d : Descriptor) : Agrees t d t d := ⟨rfl, rfl, rfl⟩

/-- Descriptors of one signature have the same fields, by name and type. -/
theorem fields_of_signature_eq {d₀ d : Descriptor} (h : d₀.signature = d.signature) :
    d₀.fields.map (fun f => (f.name, effectiveType f.type f.nullable)) =
      d.fields.map fun f => (f.name, effectiveType f.type f.nullable) := by
  have hkind : ∀ e : Descriptor, (e.signature.members.filter (·.kind == .field)).map
      (fun m => (m.name, m.type)) =
        e.fields.map fun f => (f.name, effectiveType f.type f.nullable) := by
    intro e
    simp [signature, members, List.filter_map, Function.comp_def, MemberDescriptor.kind,
      MemberDescriptor.name, MemberDescriptor.type]
  rw [← hkind, ← hkind, h]

/-- Descriptors of one signature have the same properties, by name and type. -/
theorem properties_of_signature_eq {d₀ d : Descriptor} (h : d₀.signature = d.signature) :
    d₀.properties.map (fun p => (p.name, effectiveType p.type p.nullable)) =
      d.properties.map fun p => (p.name, effectiveType p.type p.nullable) := by
  have hkind : ∀ e : Descriptor, (e.signature.members.filter (·.kind == .property)).map
      (fun m => (m.name, m.type)) =
        e.properties.map fun p => (p.name, effectiveType p.type p.nullable) := by
    intro e
    simp [signature, members, List.filter_map, Function.comp_def, MemberDescriptor.kind,
      MemberDescriptor.name, MemberDescriptor.type]
  rw [← hkind, ← hkind, h]

/-- Constructors take the same exactly when the parameters are the same. -/
theorem constructors_eq_iff {t₀ t : TypeTable} {d₀ d : Descriptor} :
    (d₀.constructors t₀).map (·.parameters) = (d.constructors t).map (·.parameters) ↔
      (d₀.parameters t₀).map (·.toParameter) = (d.parameters t).map (·.toParameter) := by
  have hone : ∀ (t : TypeTable) (d : Descriptor), (d.constructors t).map (·.parameters) =
      if (d.parameters t).isEmpty then [[]]
      else [[], (d.parameters t).map (·.toParameter)] := by
    intro t d
    simp only [constructors]
    split <;> rfl
  rw [hone, hone]
  cases h₀ : d₀.parameters t₀ <;> cases h : d.parameters t <;> simp

/-- What two descriptors of one signature are emitted as is interchangeable exactly when they agree
on what the signature leaves out. -/
theorem Realised.interchangeable_iff {t₀ t : TypeTable} {d₀ d : Descriptor} {m₀ m : TypeModel}
    (h₀ : d₀.Realised t₀ m₀) (h : d.Realised t m) (hsig : d₀.signature = d.signature) :
    m₀.Interchangeable m ↔ Agrees t₀ d₀ t d := by
  have hpair : ∀ {α β γ : Type} {f : α → β} {g : α → γ} {l l' : List α},
      l.map (fun a => (f a, g a)) = l'.map (fun a => (f a, g a)) ↔
        l.map f = l'.map f ∧ l.map g = l'.map g := by
    intro α β γ f g l l'
    induction l generalizing l' with
    | nil => cases l' <;> simp
    | cons a l ih =>
      cases l' with
      | nil => simp
      | cons b l' =>
        simp only [List.map_cons, List.cons.injEq, Prod.mk.injEq, ih]
        tauto
  constructor
  · intro hi
    have hget := hi.getters
    have hset := hi.setters
    rw [h₀.getters, h.getters] at hget
    rw [h₀.setters, h.setters] at hset
    refine ⟨?_, hpair.2 ⟨(hpair.1 hget).2, (hpair.1 hset).2⟩, ?_⟩
    · rw [← h₀.initOnly, ← h.initOnly]
      exact hi.initOnly
    · rw [← constructors_eq_iff, ← h₀.constructors, ← h.constructors]
      exact hi.constructors
  · intro ha
    obtain ⟨hget, hset⟩ := hpair.1 ha.accessors
    have hexists : ∀ {l l' : List Visibility}, l = l' →
        l.map (fun v => (v.exists, v)) = l'.map fun v => (v.exists, v) := fun h => h ▸ rfl
    refine ⟨?_, ?_, ?_, ?_, ?_, ?_⟩
    · rw [h₀.fields, h.fields]
      exact fields_of_signature_eq hsig
    · rw [h₀.initOnly, h.initOnly]
      exact ha.initOnly
    · rw [h₀.properties, h.properties]
      exact properties_of_signature_eq hsig
    · rw [h₀.getters, h.getters]
      simpa only [List.map_map, Function.comp_def] using hexists hget
    · rw [h₀.setters, h.setters]
      simpa only [List.map_map, Function.comp_def] using hexists hset
    · rw [h₀.constructors, h.constructors]
      exact constructors_eq_iff.2 ha.parameters

end Descriptor

/-! ## One call -/

namespace Engine

theorem registered?_register (e : Engine) (name other : String) (r : Registration) :
    (e.register name r).registered? other =
      if other = name then some r else e.registered? other := by
  unfold registered? register
  by_cases h : other = name
  · simp [h]
  · rw [List.find?_cons_of_neg (by simpa using Ne.symm h), if_neg h, List.find?_filter]
    congr 2
    funext entry
    by_cases he : entry.1 = other
    · simp [he, h]
    · simp [he]

/-- Emission builds the declaration of the descriptor, adds it to the table and registers it. -/
theorem emit_eq_ok {e e' : Engine} {t t' : TypeTable} {d : Descriptor} {id : TypeId}
    (h : e.emit t d = .ok (t', e', id)) : ∃ m, t.build (d.declaration t) = .ok m ∧
      t' = t.push m ∧ id = t.size ∧ e' = e.register d.name ⟨d.signature, t.size⟩ := by
  obtain ⟨⟨t₁, id₁⟩, hd, h⟩ := bind_eq_ok.1 h
  obtain ⟨m, hm, hd⟩ := bind_eq_ok.1 hd
  cases hd
  cases h
  exact ⟨m, hm, rfl, rfl, rfl⟩

/-- What builds is emitted. -/
theorem emit_of_build {e : Engine} {t : TypeTable} {d : Descriptor} {m : TypeModel}
    (hm : t.build (d.declaration t) = .ok m) :
    e.emit t d = .ok (t.push m, e.register d.name ⟨d.signature, t.size⟩, t.size) := by
  have hdeclare : t.declare (d.declaration t) = .ok (t.push m, t.size) := by
    rw [TypeTable.declare, hm]
    rfl
  rw [emit, hdeclare]
  rfl

/-- What a call that succeeds does: it gives back the registered definition and changes nothing, or it
emits a new one and registers that. -/
theorem synthesize_eq_ok {e e' : Engine} {t t' : TypeTable} {d : Descriptor} {id : TypeId}
    (h : e.synthesize t d = .ok (t', e', id)) :
    t.validate e.options d = .ok () ∧
      ((∃ r, e.registered? d.name = some r ∧ r.signature = d.signature ∧
          t' = t ∧ e' = e ∧ id = r.handle) ∨
        ((∀ r, e.registered? d.name = some r → r.signature ≠ d.signature) ∧
          ∃ m, t.build (d.declaration t) = .ok m ∧ t' = t.push m ∧ id = t.size ∧
            e' = e.register d.name ⟨d.signature, t.size⟩)) := by
  obtain ⟨_, hv, h⟩ := bind_eq_ok.1 h
  refine ⟨hv, ?_⟩
  split at h
  · rename_i r hr
    split at h
    · rename_i hsig
      cases h
      exact .inl ⟨r, hr, hsig, rfl, rfl, rfl⟩
    · rename_i hsig
      refine .inr ⟨fun r' hr' => ?_, ?_⟩
      · rw [hr] at hr'
        cases hr'
        exact hsig
      · split at h
        · exact emit_eq_ok h
        · cases h
  · rename_i hnone
    refine .inr ⟨fun r hr => ?_, emit_eq_ok h⟩
    rw [hnone] at hr
    cases hr

/-- An engine that has made nothing emits every descriptor that it accepts. -/
theorem synthesize_new {o : SynthesisOptions} {t : TypeTable} {d : Descriptor} {m : TypeModel}
    (hv : t.validate o d = .ok ()) (hm : t.build (d.declaration t) = .ok m) :
    (Engine.new o).synthesize t d =
      .ok (t.push m, (Engine.new o).register d.name ⟨d.signature, t.size⟩, t.size) :=
  bind_eq_ok.2 ⟨(), hv, emit_of_build hm⟩

/-! ## Histories -/

/-- What a definition was emitted from. -/
structure Emission where
  /-- The table that it was emitted into. -/
  types : TypeTable
  /-- The descriptor. -/
  descriptor : Descriptor

/-- The engines that calls lead to, each with the table of types then and, for every name, what its
latest definition was emitted from.  A call that fails leaves all of it as it was. -/
inductive Reached (o : SynthesisOptions) :
    Engine → TypeTable → (String → Option Emission) → Prop
  /-- No call was made. -/
  | new (t : TypeTable) : Reached o (.new o) t fun _ => none
  /-- Other types were declared. -/
  | declared {e : Engine} {t t' : TypeTable} {last : String → Option Emission}
      (h : Reached o e t last) (he : t.Extends t') : Reached o e t' last
  /-- A call succeeded; it made a definition if there are more of them afterwards. -/
  | synthesized {e e' : Engine} {t t' : TypeTable} {last : String → Option Emission}
      {d : Descriptor} {id : TypeId} (h : Reached o e t last)
      (hs : e.synthesize t d = .ok (t', e', id)) :
      Reached o e' t'
        (if e'.definitions = e.definitions then last
          else Function.update last d.name (some ⟨t, d⟩))

/-- What is registered under a name is what was last emitted for it. -/
structure Registered (t : TypeTable) (name : String) (r : Registration) (origin : Emission) :
    Prop where
  /-- It has the signature of the descriptor. -/
  signature : r.signature = origin.descriptor.signature
  /-- It is defined. -/
  handle_lt : r.handle < t.size
  /-- It is what the descriptor is emitted as. -/
  realised : origin.descriptor.Realised origin.types (t.model r.handle)

theorem Registered.mono {t t' : TypeTable} {name : String} {r : Registration} {origin : Emission}
    (h : Registered t name r origin) (he : t.Extends t') : Registered t' name r origin := by
  refine ⟨h.signature, Nat.lt_of_lt_of_le h.handle_lt he.size_le, ?_⟩
  rw [he.model_eq h.handle_lt]
  exact h.realised

/-- The registry has, for every name, what was last emitted for it. -/
structure Consistent (o : SynthesisOptions) (e : Engine) (t : TypeTable)
    (last : String → Option Emission) : Prop where
  /-- Options never change. -/
  options : e.options = o
  /-- What is registered was emitted. -/
  registered : ∀ name r, e.registered? name = some r →
    ∃ origin, last name = some origin ∧ Registered t name r origin
  /-- What was emitted is registered. -/
  emitted : ∀ name origin, last name = some origin → ∃ r, e.registered? name = some r

theorem Consistent.synthesized {o : SynthesisOptions} {e e' : Engine} {t t' : TypeTable}
    {last : String → Option Emission} {d : Descriptor} {id : TypeId} (h : Consistent o e t last)
    (hs : e.synthesize t d = .ok (t', e', id)) :
    Consistent o e' t' (if e'.definitions = e.definitions then last
      else Function.update last d.name (some ⟨t, d⟩)) := by
  obtain ⟨-, ⟨r, -, -, rfl, rfl, -⟩ | ⟨-, m, hm, rfl, -, rfl⟩⟩ := synthesize_eq_ok hs
  · rw [if_pos rfl]
    exact h
  · have hne : ¬(e.register d.name ⟨d.signature, t.size⟩).definitions = e.definitions := by
      simp [register]
    rw [if_neg hne]
    refine ⟨h.options, ?_, ?_⟩
    · intro name r hr
      rw [registered?_register] at hr
      by_cases hname : name = d.name
      · subst hname
        rw [if_pos rfl] at hr
        cases hr
        refine ⟨⟨t, d⟩, Function.update_self .., rfl, Nat.lt_succ_self _, ?_⟩
        rw [TypeTable.model_push_size]
        exact Descriptor.realised_of_build hm
      · rw [if_neg hname] at hr
        obtain ⟨origin, hlast, hr⟩ := h.registered name r hr
        exact ⟨origin, by rw [Function.update_of_ne hname, hlast],
          hr.mono (TypeTable.extends_push t m)⟩
    · intro name origin horigin
      rw [registered?_register]
      by_cases hname : name = d.name
      · exact ⟨_, if_pos hname⟩
      · rw [Function.update_of_ne hname] at horigin
        rw [if_neg hname]
        exact h.emitted name origin horigin

/-- Every engine that calls lead to is consistent. -/
theorem Reached.consistent {o : SynthesisOptions} {e : Engine} {t : TypeTable}
    {last : String → Option Emission} (h : Reached o e t last) : Consistent o e t last := by
  induction h with
  | new t => exact ⟨rfl, fun _ _ h => (by cases h), fun _ _ h => (by cases h)⟩
  | declared _ he ih =>
    refine ⟨ih.options, ?_, ih.emitted⟩
    intro name r hr
    obtain ⟨origin, hlast, hr⟩ := ih.registered name r hr
    exact ⟨origin, hlast, hr.mono he⟩
  | synthesized _ hs ih => exact ih.synthesized hs

/-- A point with one property, which the constructor takes or does not. -/
def point (binding : ConstructorBinding) (parameter? : Option String) : Descriptor :=
  ⟨"Point", none, [], [], [⟨"X", .int32, false, .open, .open, binding, parameter?⟩], []⟩

/-- After a point that the constructor does not take, one that it takes yields the same type. -/
theorem reached_point : ∃ e t, Reached .default e t
      (Function.update (fun _ => none) "Point" (some ⟨.empty, point .none none⟩)) ∧
    e.synthesize t (point .required (some "x")) = .ok (t, e, 0) := by
  have hplain : TypeTable.empty.validate .default (point .none none) = .ok () :=
    TypeTable.validate_of_checks rfl rfl
  obtain ⟨m, hm⟩ := (TypeTable.wellformed_of_validate hplain).exists_build
  have hreached := (Reached.new (o := .default) .empty).synthesized (synthesize_new hplain hm)
  rw [if_neg (by simp [register, new])] at hreached
  have hbound : (TypeTable.empty.push m).validate .default (point .required (some "x")) = .ok () :=
    TypeTable.validate_of_checks rfl rfl
  exact ⟨_, _, hreached, bind_eq_ok.2 ⟨(), hbound, rfl⟩⟩

end Engine
end Reshape
