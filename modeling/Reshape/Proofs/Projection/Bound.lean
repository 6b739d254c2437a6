import Reshape.Proofs.Projection.Feeding
import Reshape.Proofs.Projection.Mapping
import Reshape.Proofs.Projection.Workshop

/-!
# What compilation binds

Each argument of a compiled projection comes from what feeds its parameter (`Compilation.Argued`), each
assignment from a configured member that no parameter takes (`Compilation.Assigned`), and the parts are
assembled as they are bound: a compilation that succeeds gives a projection of that form
(`Compilation.bound_of_compile`).
-/

namespace Reshape

/-- Building can yield the value. -/
def Build.Reaches {α : Type} (a : Build α) (v : α) : Prop :=
  ∃ n n', a.run.run n = (.ok v, n')

theorem Build.Reaches.within {α : Type} {context : ErrorContext} {a : Build α} {v : α}
    (h : (Binding.within context a).Reaches v) : a.Reaches v := by
  obtain ⟨n, n', hrun⟩ := h
  exact ⟨n, n', Binding.run_within_eq_ok hrun⟩

/-- What is finished has the type that it is assigned to. -/
theorem Binding.type_of_finish {t : TypeTable} {source e : Expr} {map? : Option ValueMap}
    {target : ValueType} (h : (finish t source map? target).Reaches e) : e.type = target := by
  obtain ⟨n, n', h⟩ := h
  cases map? with
  | some map =>
    obtain ⟨mapped, n₁, -, h⟩ := run_bind_eq_ok.1 h
    exact Expr.type_coerce (Build.run_ofExcept_eq_ok h)
  | none =>
    cases source with
    | constant v type =>
      obtain ⟨w, -, h⟩ := bind_eq_ok.1 (Build.run_ofExcept_eq_ok h)
      cases h
      rfl
    | _ => exact Expr.type_coerce (Build.run_ofExcept_eq_ok h)

namespace Compilation

variable {w w' : Workshop} {t : TypeTable} {strategy : NameStrategy} {c : Configuration}

/-! ## Steps that succeed -/

section Steps

variable {α : Type} {v : α}

theorem run_types_eq_ok (h : types.run.run w = (.ok t, w')) : t = w.types ∧ w' = w := by
  cases h
  exact ⟨rfl, rfl⟩

theorem run_ofExcept_eq_ok {x : Except Error α} (h : (ofExcept x).run.run w = (.ok v, w')) :
    x = .ok v ∧ w' = w := by
  cases x with
  | ok v' =>
    cases h
    exact ⟨rfl, rfl⟩
  | error e => cases h

theorem run_ofBuild_eq_ok {a : Build α} (h : (ofBuild a).run.run w = (.ok v, w')) :
    a.Reaches v ∧ w'.types = w.types := by
  have hrun : (ofBuild a).run.run w = (ofExcept (a.run.run w.supply).1).run.run
      { w with supply := (a.run.run w.supply).2 } := rfl
  obtain ⟨hv, rfl⟩ := run_ofExcept_eq_ok (hrun ▸ h)
  exact ⟨⟨w.supply, (a.run.run w.supply).2, Prod.ext hv rfl⟩, rfl⟩

theorem run_ofSynthesis_eq_ok {a : Synthesis α} (h : (ofSynthesis a).run.run w = (.ok v, w')) :
    (∃ cache', a.run.run w.cache = (.ok v, cache')) ∧ w'.types = w.types := by
  have hrun : (ofSynthesis a).run.run w = (ofExcept (a.run.run w.cache).1).run.run
      { w with cache := (a.run.run w.cache).2 } := rfl
  obtain ⟨hv, rfl⟩ := run_ofExcept_eq_ok (hrun ▸ h)
  exact ⟨⟨(a.run.run w.cache).2, Prod.ext hv rfl⟩, rfl⟩

end Steps

/-! ## Sources -/

/-- The sources are bound in order. -/
theorem forall₂_of_bindSources {source : TypeId} {members : List MemberTarget} {es : List Expr}
    (h : (bindSources strategy source members).run.run w = (.ok es, w')) :
    w'.types = w.types ∧ List.Forall₂ (fun m e => (Binding.sourceExpr w.types source strategy
      (.member m.name) m.source).Reaches e) members es := by
  induction members generalizing w es with
  | nil =>
    cases h
    exact ⟨rfl, .nil⟩
  | cons m rest ih =>
    obtain ⟨t, w₁, ht, h⟩ := run_bind_eq_ok.1 h
    obtain ⟨rfl, rfl⟩ := run_types_eq_ok ht
    obtain ⟨e, w₂, he, h⟩ := run_bind_eq_ok.1 h
    obtain ⟨he, htypes⟩ := run_ofBuild_eq_ok he
    obtain ⟨es', w₃, hes, h⟩ := run_bind_eq_ok.1 h
    cases h
    obtain ⟨htypes', hes⟩ := ih hes
    rw [htypes] at htypes' hes
    exact ⟨htypes', .cons he.within hes⟩

/-! ## Arguments -/

/-- An argument comes from what feeds its parameter: from the source of a configured member or
parameter, or from the default. -/
inductive Argued (t : TypeTable) (strategy : NameStrategy) (source : TypeId) (p : Parameter) :
    Option Fed → ConstructorArgument → Prop
  /-- A configured member feeds the parameter. -/
  | member {m : MemberTarget} {e : Expr} {a : ConstructorArgument} (horigin : a.origin = .member m.name)
      (hvalue : (Binding.finish t e m.map? p.type).Reaches a.value) :
      Argued t strategy source p (some (.member m e)) a
  /-- A configured parameter feeds it. -/
  | parameter {target : ParameterTarget} {raw : Expr} {a : ConstructorArgument}
      (horigin : a.origin = .parameter)
      (hraw : (Binding.sourceExpr t source strategy (.parameter p.name) target.source).Reaches raw)
      (hvalue : (Binding.finish t raw target.map? p.type).Reaches a.value) :
      Argued t strategy source p (some (.parameter target)) a
  /-- Nothing feeds it. -/
  | default {a : ConstructorArgument} (horigin : a.origin = .default)
      (hvalue : Expr.typedLiteral t (p.default?.getD .null) p.type = .ok a.value) :
      Argued t strategy source p none a

theorem argued_of_bindArgument {source : TypeId} {p : Parameter} {fed : Option Fed}
    {a : ConstructorArgument}
    (h : (bindArgument strategy source p fed).run.run w = (.ok a, w')) :
    w'.types = w.types ∧ Argued w.types strategy source p fed a := by
  obtain ⟨t, w₁, ht, h₁⟩ := run_bind_eq_ok.1 h
  obtain ⟨rfl, rfl⟩ := run_types_eq_ok ht
  obtain ⟨fallback, w₂, hlookup, h₂⟩ := run_bind_eq_ok.1 h₁
  obtain ⟨hfallback, rfl⟩ := run_ofExcept_eq_ok hlookup
  match fed with
  | some (.member m e) =>
    obtain ⟨value, w₃, hrun, h₃⟩ := run_bind_eq_ok.1 h₂
    obtain ⟨hvalue, htypes⟩ := run_ofBuild_eq_ok hrun
    cases h₃
    exact ⟨htypes, .member rfl hvalue.within⟩
  | some (.parameter target) =>
    obtain ⟨raw, w₃, hrun, h₃⟩ := run_bind_eq_ok.1 h₂
    obtain ⟨hraw, htypes⟩ := run_ofBuild_eq_ok hrun
    obtain ⟨value, w₄, hrun', h₄⟩ := run_bind_eq_ok.1 h₃
    obtain ⟨hvalue, htypes'⟩ := run_ofBuild_eq_ok hrun'
    cases h₄
    exact ⟨htypes'.trans htypes, .parameter rfl hraw hvalue.within⟩
  | none =>
    cases hdefault : p.default? with
    | some v =>
      rw [defaultLiteral, hdefault] at hfallback
      obtain ⟨e, he, rfl⟩ := map_eq_ok.1 hfallback
      cases h₂
      refine ⟨rfl, .default rfl ?_⟩
      rw [hdefault]
      exact he
    | none =>
      rw [defaultLiteral, hdefault] at hfallback
      cases hfallback
      obtain ⟨e, w₃, hrun, h₃⟩ := run_bind_eq_ok.1 h₂
      obtain ⟨he, rfl⟩ := run_ofExcept_eq_ok hrun
      cases h₃
      refine ⟨rfl, .default rfl ?_⟩
      rw [hdefault]
      exact he

theorem forall₂_of_bindArguments {source : TypeId} {entries : List (Parameter × Option Fed)}
    {args : List ConstructorArgument}
    (h : (bindArguments strategy source entries).run.run w = (.ok args, w')) :
    w'.types = w.types ∧
      List.Forall₂ (fun entry a => Argued w.types strategy source entry.1 entry.2 a) entries args := by
  induction entries generalizing w args with
  | nil =>
    cases h
    exact ⟨rfl, .nil⟩
  | cons entry rest ih =>
    obtain ⟨a, w₁, ha, h⟩ := run_bind_eq_ok.1 h
    obtain ⟨htypes, ha⟩ := argued_of_bindArgument ha
    obtain ⟨args', w₂, hargs, h⟩ := run_bind_eq_ok.1 h
    cases h
    obtain ⟨htypes', hargs⟩ := ih hargs
    rw [htypes] at htypes' hargs
    exact ⟨htypes', .cons ha hargs⟩

/-- Next to its value, an argument has the name of its parameter and its default. -/
theorem labelled_of_bindArgument {source : TypeId} {p : Parameter} {fed : Option Fed}
    {a : ConstructorArgument}
    (h : (bindArgument strategy source p fed).run.run w = (.ok a, w')) :
    a.parameter = p.name ∧ defaultLiteral w.types p = .ok a.default? := by
  obtain ⟨t, w₁, ht, h₁⟩ := run_bind_eq_ok.1 h
  obtain ⟨rfl, rfl⟩ := run_types_eq_ok ht
  obtain ⟨fallback, w₂, hlookup, h₂⟩ := run_bind_eq_ok.1 h₁
  obtain ⟨hfallback, rfl⟩ := run_ofExcept_eq_ok hlookup
  rw [hfallback]
  rcases fed with _ | ⟨m, e⟩ | target
  · cases fallback with
    | some e =>
      cases h₂
      exact ⟨rfl, rfl⟩
    | none =>
      obtain ⟨e, w₃, -, h₃⟩ := run_bind_eq_ok.1 h₂
      cases h₃
      exact ⟨rfl, rfl⟩
  · obtain ⟨value, w₃, -, h₃⟩ := run_bind_eq_ok.1 h₂
    cases h₃
    exact ⟨rfl, rfl⟩
  · obtain ⟨raw, w₃, -, h₃⟩ := run_bind_eq_ok.1 h₂
    obtain ⟨value, w₄, -, h₄⟩ := run_bind_eq_ok.1 h₃
    cases h₄
    exact ⟨rfl, rfl⟩

theorem labelled_of_bindArguments {source : TypeId} {entries : List (Parameter × Option Fed)}
    {args : List ConstructorArgument}
    (h : (bindArguments strategy source entries).run.run w = (.ok args, w')) :
    List.Forall₂ (fun entry a => a.parameter = entry.1.name ∧
      defaultLiteral w.types entry.1 = .ok a.default?) entries args := by
  induction entries generalizing w args with
  | nil =>
    cases h
    exact .nil
  | cons entry rest ih =>
    obtain ⟨a, w₁, ha, h⟩ := run_bind_eq_ok.1 h
    obtain ⟨args', w₂, hargs, h⟩ := run_bind_eq_ok.1 h
    cases h
    have hrest := ih hargs
    rw [(argued_of_bindArgument ha).1] at hrest
    exact .cons (labelled_of_bindArgument ha) hrest

/-! ## Assignments -/

/-- An assignment stores the finished source of a configured member into the member of the target. -/
structure Assigned (t : TypeTable) (target : TypeId) (m : MemberTarget) (source : Expr)
    (a : MemberAssignment) : Prop where
  /-- It has the name of the configured member. -/
  name : a.name = m.name
  /-- The member is the one that is configured. -/
  member : targetMember t target m.member = .ok a.member
  /-- The value is the finished source. -/
  value : (Binding.finish t source m.map? a.member.type).Reaches a.value
  /-- It is stored as the member is. -/
  target : a.member.AssignedBy a.target

theorem assignedBy_of_assignTarget {member : MemberRef} {target : AssignTarget}
    {cache cache' : AccessorCache}
    (h : (Accessor.assignTarget member).run.run cache = (.ok target, cache')) :
    member.AssignedBy target := by
  cases member with
  | field f =>
    simp only [Accessor.assignTarget] at h
    split at h <;> cases h <;> rfl
  | property p =>
    simp only [Accessor.assignTarget] at h
    split at h
    · rename_i setter hsetter
      cases h
      exact ⟨p, rfl, hsetter⟩
    · cases h

theorem assigned_of_bindAssignment {target : TypeId} {m : MemberTarget} {source : Expr}
    {a : MemberAssignment} (h : (bindAssignment target m source).run.run w = (.ok a, w')) :
    w'.types = w.types ∧ Assigned w.types target m source a := by
  obtain ⟨t, w₁, ht, h₁⟩ := run_bind_eq_ok.1 h
  obtain ⟨rfl, rfl⟩ := run_types_eq_ok ht
  obtain ⟨member, w₂, hlookup, h₂⟩ := run_bind_eq_ok.1 h₁
  obtain ⟨hmember, rfl⟩ := run_ofExcept_eq_ok hlookup
  obtain ⟨value, w₃, hrun, h₃⟩ := run_bind_eq_ok.1 h₂
  obtain ⟨hvalue, htypes⟩ := run_ofBuild_eq_ok hrun
  obtain ⟨assigned, w₄, hrun', h₄⟩ := run_bind_eq_ok.1 h₃
  obtain ⟨⟨cache', hassigned⟩, htypes'⟩ := run_ofSynthesis_eq_ok hrun'
  cases h₄
  exact ⟨htypes'.trans htypes, rfl, hmember, hvalue.within, assignedBy_of_assignTarget hassigned⟩

theorem forall₂_of_bindAssignments {target : TypeId} {entries : List (MemberTarget × Expr)}
    {assignments : List MemberAssignment}
    (h : (bindAssignments target entries).run.run w = (.ok assignments, w')) :
    w'.types = w.types ∧
      List.Forall₂ (fun entry a => Assigned w.types target entry.1 entry.2 a) entries assignments := by
  induction entries generalizing w assignments with
  | nil =>
    cases h
    exact ⟨rfl, .nil⟩
  | cons entry rest ih =>
    obtain ⟨a, w₁, ha, h⟩ := run_bind_eq_ok.1 h
    obtain ⟨htypes, ha⟩ := assigned_of_bindAssignment ha
    obtain ⟨rest', w₂, hrest, h⟩ := run_bind_eq_ok.1 h
    cases h
    obtain ⟨htypes', hrest⟩ := ih hrest
    rw [htypes] at htypes' hrest
    exact ⟨htypes', .cons ha hrest⟩

/-! ## The whole -/

/-- How a compiled projection was bound: its sources in one table, and the rest in the table with the
target. -/
structure Bound (t₀ t : TypeTable) (strategy : NameStrategy) (c : Configuration)
    (p : CompiledProjection) (sources : List Expr) (feeds : Feeds) : Prop where
  /-- The source type is the configured one. -/
  source : p.source = c.source
  /-- The second table is the first, with the target if that is new. -/
  later : t₀.Extends t
  /-- Only a target that is inferred can be new. -/
  same : c.parameters ≠ [] → t = t₀
  /-- A declared target is the target. -/
  declared : ∀ type, c.target = .declared type → p.target = type
  /-- The source of each member is bound. -/
  bound : List.Forall₂ (fun m e => (Binding.sourceExpr t₀ c.source strategy (.member m.name)
    m.source).Reaches e) c.members sources
  /-- The constructor is resolved. -/
  resolved : Fitting.Resolved t strategy p.target c p.constructor feeds
  /-- There is an argument for each parameter. -/
  args : List.Forall₂ (fun entry a => Argued t strategy c.source entry.1 entry.2 a)
    (p.constructor.constructor.parameters.zip (feeds.map (fed? c sources))) p.args
  /-- Each argument has the name of its parameter. -/
  named : List.Forall₂ (fun entry a => a.parameter = entry.1.name)
    (p.constructor.constructor.parameters.zip (feeds.map (fed? c sources))) p.args
  /-- Each argument has the default of its parameter. -/
  defaults : List.Forall₂ (fun entry a => defaultLiteral t entry.1 = .ok a.default?)
    (p.constructor.constructor.parameters.zip (feeds.map (fed? c sources))) p.args
  /-- What is left over is assigned. -/
  assignments : List.Forall₂ (fun entry a => Assigned t p.target entry.1 entry.2 a)
    (leftOver c sources feeds) p.assignments
  /-- The parts are assembled. -/
  full : Projection.assemble t c.source p.constructor (p.args.map (·.value))
    (p.assignments.map fun a => (a.target, a.value)) = .ok p.full

theorem extends_of_bindTarget {sources : List Expr} {target : TypeId}
    (h : (bindTarget c sources).run.run w = (.ok target, w')) :
    w.types.Extends w'.types ∧ (c.parameters ≠ [] → w'.types = w.types) ∧
      ∀ type, c.target = .declared type → target = type := by
  have hdeclared : ∀ type, c.target = .declared type → target = type := by
    intro type htype
    rw [bindTarget, htype] at h
    cases h
    rfl
  rcases bindTarget_cases c sources w with hsame | ⟨t, engine, id, d, hd, hrun⟩
  · rw [h] at hsame
    cases hsame
    exact ⟨.refl _, fun _ => rfl, hdeclared⟩
  · rw [h] at hrun
    cases hrun
    refine ⟨?_, fun hparameters => ?_, hdeclared⟩
    · obtain ⟨-, ⟨r, -, -, htypes, -⟩ | ⟨-, model, -, htypes, -⟩⟩ :=
        Engine.synthesize_eq_ok hd.synthesize
      · rw [htypes]
        exact .refl _
      · rw [htypes]
        exact TypeTable.extends_push _ _
    · have hexplicit := hd.inferred
      simp [isExplicit, hparameters] at hexplicit

theorem bound_of_bindRest {sources : List Expr} {target : TypeId} {p : CompiledProjection}
    {t₀ : TypeTable} (h : (bindRest strategy c sources target).run.run w = (.ok p, w'))
    (hlater : t₀.Extends w.types) (hsame : c.parameters ≠ [] → w.types = t₀)
    (hdeclared : ∀ type, c.target = .declared type → target = type)
    (hsources : List.Forall₂ (fun m e => (Binding.sourceExpr t₀ c.source strategy
      (.member m.name) m.source).Reaches e) c.members sources) :
    w'.types = w.types ∧ ∃ feeds, Bound t₀ w.types strategy c p sources feeds := by
  obtain ⟨t, w₁, ht, h₁⟩ := run_bind_eq_ok.1 h
  obtain ⟨rfl, rfl⟩ := run_types_eq_ok ht
  obtain ⟨⟨r, feeds⟩, w₂, hrun₂, h₂⟩ := run_bind_eq_ok.1 h₁
  obtain ⟨hresolve, rfl⟩ := run_ofExcept_eq_ok hrun₂
  obtain ⟨args, w₃, hrun₃, h₃⟩ := run_bind_eq_ok.1 h₂
  obtain ⟨htypes, hargs⟩ := forall₂_of_bindArguments hrun₃
  have hlabelled := labelled_of_bindArguments hrun₃
  obtain ⟨assignments, w₄, hrun₄, h₄⟩ := run_bind_eq_ok.1 h₃
  obtain ⟨htypes', hassignments⟩ := forall₂_of_bindAssignments hrun₄
  obtain ⟨hmake, rfl⟩ := run_ofExcept_eq_ok h₄
  obtain ⟨full, hfull, hp⟩ := bind_eq_ok.1 hmake
  cases hp
  have hresolved := Fitting.resolved_of_resolve hresolve
  obtain rfl := hresolved.owner
  rw [htypes] at htypes' hassignments
  exact ⟨htypes', feeds, rfl, hlater, hsame, hdeclared, hsources, hresolved, hargs,
    hlabelled.imp fun _ _ h => h.1, hlabelled.imp fun _ _ h => h.2, hassignments, hfull⟩

/-- **What is compiled is bound part by part.** -/
theorem bound_of_compile {p : CompiledProjection}
    (h : (compile strategy c).run.run w = (.ok p, w')) : ∃ sources feeds,
      Bound w.types w'.types (c.strategy?.getD strategy) c p sources feeds := by
  rw [compile_eq] at h
  obtain ⟨sources, w₁, hsources, h⟩ := run_bind_eq_ok.1 h
  obtain ⟨htypes, hsources⟩ := forall₂_of_bindSources hsources
  obtain ⟨target, w₂, htarget, h⟩ := run_bind_eq_ok.1 h
  obtain ⟨hlater, hsame, hdeclared⟩ := extends_of_bindTarget htarget
  rw [htypes] at hlater hsame
  obtain ⟨htypes', feeds, hbound⟩ := bound_of_bindRest h hlater hsame hdeclared hsources
  rw [htypes']
  exact ⟨sources, feeds, hbound⟩

end Compilation
end Reshape
