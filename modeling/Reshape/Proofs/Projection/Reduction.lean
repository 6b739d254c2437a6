import Reshape.Proofs.Projection.Assembly
import Reshape.Proofs.Projection.Correctness

/-!
# Reduced projections

A compiled projection whose constructor copies what members feed into their own slots can be restricted to
columns.  On every object on which the full projection succeeds, a reduced one succeeds too, and makes the
same object, but for the members that are left out: where the constructor can do without one of them, its
slot holds the default of the parameter or what the constructor leaves (`CompiledProjection.reduced_agrees`).
That presumes that no source has side effects.
-/

namespace Reshape
namespace CompiledProjection

open Compilation

/-! ## What is asked for -/

section Columns

variable {t : TypeTable} {p : CompiledProjection} {columns columns' : List String} {a : ConstructorArgument}
  {name : String}

/-- What a reduced projection assigns after construction. -/
def selected (p : CompiledProjection) (columns : List String) : List MemberAssignment :=
  p.assignments.filter fun a => columns.contains a.name

theorem mem_selected {a : MemberAssignment} :
    a ∈ p.selected columns ↔ a ∈ p.assignments ∧ a.name ∈ columns := by
  rw [selected, List.mem_filter, List.contains_iff_mem]

theorem reducedArgument_of_mem (horigin : a.origin = .member name) (h : name ∈ columns) :
    reducedArgument columns a = a.value := by
  rw [reducedArgument, horigin]
  cases a.default? with
  | none => rfl
  | some d => exact if_pos (List.contains_iff_mem.2 h)

theorem reducedArgument_of_required (h : a.default? = none) : reducedArgument columns a = a.value := by
  rw [reducedArgument, h]
  cases a.origin <;> rfl

theorem reducedArgument_of_origin (h : ∀ name, a.origin ≠ .member name) :
    reducedArgument columns a = a.value := by
  rw [reducedArgument]
  cases horigin : a.origin with
  | member name => exact absurd horigin (h name)
  | default | parameter => rfl

theorem reducedArgument_of_default {d : Expr} (horigin : a.origin = .member name)
    (hdefault : a.default? = some d) (h : name ∉ columns) : reducedArgument columns a = d := by
  rw [reducedArgument, horigin, hdefault]
  exact if_neg fun hmem => h (List.contains_iff_mem.1 hmem)

/-- A reduced argument is the argument, or its default. -/
theorem reducedArgument_cases (columns : List String) (a : ConstructorArgument) :
    reducedArgument columns a = a.value ∨ a.default? = some (reducedArgument columns a) := by
  cases hdefault : a.default? with
  | none => exact .inl (reducedArgument_of_required hdefault)
  | some d =>
    cases horigin : a.origin with
    | member name =>
      by_cases hmem : name ∈ columns
      · exact .inl (reducedArgument_of_mem horigin hmem)
      · exact .inr (congrArg some (reducedArgument_of_default horigin hdefault hmem).symm)
    | default | parameter => exact .inl (reducedArgument_of_origin (by simp [horigin]))

/-- Columns that the projection has are projected. -/
theorem project_of_subset (h : columns ⊆ p.columns) : p.project t (some columns) =
    Projection.assemble t p.source p.constructor (p.args.map (reducedArgument columns))
      ((p.selected columns).map fun a => (a.target, a.value)) := by
  have hknown : (columns.find? fun c => !p.columns.contains c) = none :=
    List.find?_eq_none.2 fun c hc => by simp [h hc]
  rw [project, reduced, hknown]
  rfl

/-- A column that the projection does not have is refused. -/
theorem project_of_not_subset (h : ¬columns ⊆ p.columns) : ∃ unknown ∈ columns, unknown ∉ p.columns ∧
    p.project t (some columns) = .error (.unknownColumn unknown p.target p.columns) := by
  cases hfind : columns.find? fun c => !p.columns.contains c with
  | none =>
    refine absurd (fun c hc => ?_) h
    simpa using List.find?_eq_none.1 hfind c hc
  | some unknown =>
    refine ⟨unknown, List.mem_of_find?_eq_some hfind, by simpa using List.find?_some hfind, ?_⟩
    rw [project, reduced, hfind]

/-- Order and repetition of the columns do not matter. -/
theorem project_congr (h : ∀ name, name ∈ columns' ↔ name ∈ columns) (hcolumns : columns ⊆ p.columns) :
    p.project t (some columns') = p.project t (some columns) := by
  have hcontains : ∀ name, columns'.contains name = columns.contains name := fun name => by
    rw [Bool.eq_iff_iff, List.contains_iff_mem, List.contains_iff_mem, h]
  have hargs : reducedArgument columns' = reducedArgument columns := by
    funext a
    simp only [reducedArgument, hcontains]
  have hselected : p.selected columns' = p.selected columns := by
    simp only [selected, hcontains]
  rw [project_of_subset hcolumns, project_of_subset fun name hname => hcolumns ((h name).1 hname), hargs,
    hselected]

/-- With all columns, all arguments are as in the full projection. -/
theorem reducedArgument_of_subset (h : p.columns ⊆ columns) (ha : a ∈ p.args) :
    reducedArgument columns a = a.value := by
  cases horigin : a.origin with
  | member name =>
    refine reducedArgument_of_mem horigin (h (List.mem_append_left _ ?_))
    exact List.mem_filterMap.2 ⟨a, ha, by rw [memberOf?, horigin]⟩
  | default | parameter => exact reducedArgument_of_origin (by simp [horigin])

theorem map_reducedArgument_of_subset (h : p.columns ⊆ columns) :
    p.args.map (reducedArgument columns) = p.args.map (·.value) :=
  List.map_congr_left fun _ ha => reducedArgument_of_subset h ha

/-- With all columns, all assignments are made. -/
theorem selected_of_subset (h : p.columns ⊆ columns) : p.selected columns = p.assignments :=
  List.filter_eq_self.2 fun _ ha =>
    List.contains_iff_mem.2 (h (List.mem_append_right _ (List.mem_map_of_mem ha)))

end Columns

/-! ## What reduced projections keep -/

/-- Configured members have slots, and the constructor copies different parameters into different slots: a
parameter that a configured member feeds into the slot of that member. -/
structure Reducible (t : TypeTable) (c : Configuration) (p : CompiledProjection) (steps : List SlotInit) :
    Prop where
  /-- Configured members have slots. -/
  stored : ∀ mt ∈ c.members, ∃ member slot, mt.Stored t p.target member slot
  /-- The constructor has steps. -/
  body : p.constructor.constructor.body = .assign steps
  /-- No parameter is copied twice. -/
  parametersNodup : (steps.map (·.parameter)).Nodup
  /-- No slot is written twice. -/
  slotsNodup : (steps.map (·.slot)).Nodup
  /-- What a member feeds is copied into its slot. -/
  own : ∀ mt ∈ c.members, ∀ member slot, mt.Stored t p.target member slot →
    ∀ (i : Nat) (a : ConstructorArgument), p.args[i]? = some a → a.origin = .member mt.name →
      ⟨i, slot⟩ ∈ steps

/-- No source of the projection has side effects on the object. -/
structure SideEffectFree (m : Machine) (s : Store) (ref : ObjectRef) (p : CompiledProjection) : Prop where
  /-- Sources of arguments. -/
  args : ∀ a ∈ p.args, m.SideEffectFree s [.object ref] a.value
  /-- Sources of assignments. -/
  assignments : ∀ a ∈ p.assignments, m.SideEffectFree s [.object ref] a.value

/-- How the slots that a reduced projection makes compare to those that the full projection makes. -/
structure Reduces (m : Machine) (s : Store) (ref : ObjectRef) (t : TypeTable) (c : Configuration)
    (p : CompiledProjection) (columns : List String) (slots slots' : List Value) : Prop where
  /-- A selected column is a configured member, and has its value. -/
  selected : ∀ name ∈ columns, ∃ mt ∈ c.members, mt.name = name ∧ ∃ member slot v,
    mt.Stored t p.target member slot ∧ slots[slot]? = some v ∧ slots'[slot]? = some v
  /-- A member that feeds a required parameter has its value. -/
  required : ∀ mt ∈ c.members, ∀ member slot, mt.Stored t p.target member slot →
    ∀ (i : Nat) (a : ConstructorArgument) (param : Parameter), p.args[i]? = some a →
      a.origin = .member mt.name → p.parameters[i]? = some param → param.default? = none →
        ∃ v, slots[slot]? = some v ∧ slots'[slot]? = some v
  /-- A member that is not selected and feeds an optional parameter has the default of the parameter,
  converted to the type of the slot. -/
  defaulted : ∀ mt ∈ c.members, mt.name ∉ columns → ∀ member slot, mt.Stored t p.target member slot →
    ∀ (i : Nat) (a : ConstructorArgument) (param : Parameter) (d : Value), p.args[i]? = some a →
      a.origin = .member mt.name → p.parameters[i]? = some param → param.default? = some d →
        ∃ type w, (m.types.model p.target).slotTypes[slot]? = some type ∧ m.types.cast type d = .ok w ∧
          slots'[slot]? = some w
  /-- A member that is not selected and feeds no parameter has what the constructor leaves, run on the
  reduced arguments. -/
  left : ∃ vs constructed,
    List.Forall₂ (fun a v => m.Returns s [.object ref] (reducedArgument columns a) v) p.args vs ∧
    (m.construct p.constructor vs).perform s =
      (.ok ⟨s.heap.size, p.target⟩, s.push ⟨p.target, constructed⟩) ∧
    ∀ mt ∈ c.members, mt.name ∉ columns → (∀ a ∈ p.args, a.origin ≠ .member mt.name) →
      ∀ member slot, mt.Stored t p.target member slot →
        ∃ v, constructed[slot]? = some v ∧ slots'[slot]? = some v
  /-- A slot of no configured member is as in the full projection. -/
  other : ∀ slot, (∀ mt ∈ c.members, ∀ member, ¬ mt.Stored t p.target member slot) →
    slots'[slot]? = slots[slot]?

/-! ## The parts of a reduced projection -/

section Parts

variable {t₀ t : TypeTable} {strategy : NameStrategy} {c : Configuration} {p : CompiledProjection}
  {sources : List Expr} {feeds : Feeds} {steps : List SlotInit} {m : Machine} {s : Store}
  {ref : ObjectRef} {columns : List String} {vs : List Value} {ws ws' : List (Nat × Value)}

/-- A compiled projection that can be reduced, and a machine that has the types. -/
structure Reduction (t₀ t : TypeTable) (strategy : NameStrategy) (c : Configuration)
    (p : CompiledProjection) (sources : List Expr) (feeds : Feeds) (steps : List SlotInit)
    (m : Machine) : Prop where
  /-- It was bound. -/
  bound : Bound t₀ t strategy c p sources feeds
  /-- The configuration is genuine. -/
  genuine : c.Genuine t₀
  /-- All members have slots of their own. -/
  reducible : Reducible t c p steps
  /-- The machine has the types. -/
  later : t.Extends m.types
  /-- The types are declared. -/
  declared : m.types.Declared

variable (h : Reduction t₀ t strategy c p sources feeds steps m)

include h

/-- An argument of a parameter with a default has the default as a literal. -/
theorem Reduction.defaults : List.Forall₂ (fun (param : Parameter) (a : ConstructorArgument) =>
    a.default? = param.default?.map fun d => .constant d param.type) p.parameters p.args := by
  have hdefaults : List.Forall₂ (fun param (a : ConstructorArgument) =>
      defaultLiteral t param = .ok a.default?) p.parameters p.args := by
    rw [← map_fst_fed h.bound, List.forall₂_map_left_iff]
    exact h.bound.defaults
  have hsound := constructorSound_of_bound h.bound h.genuine h.later h.declared
  have hparams := (List.forall₂_and_left _ _).2
    ⟨fun param (hparam : param ∈ p.parameters) => hparam, hdefaults⟩
  refine hparams.imp fun param a ⟨hparam, hdefault⟩ => ?_
  rw [defaultLiteral] at hdefault
  cases hd : param.default? with
  | none =>
    rw [hd] at hdefault
    exact (Except.ok.inj hdefault).symm
  | some d =>
    rw [hd] at hdefault
    obtain ⟨e, he, hsome⟩ := map_eq_ok.1 hdefault
    obtain ⟨w, hw, rfl⟩ := Machine.typedLiteral_eq_ok h.later he
    -- a default is of its parameter's type already
    rw [TypeTable.cast_of_conforms (hsound.default param hparam d hd)] at hw
    cases hw
    exact hsome.symm

/-- A reduced argument is the argument, or the default of the parameter as a literal. -/
theorem Reduction.reduced (columns : List String) :
    List.Forall₂ (fun (param : Parameter) (a : ConstructorArgument) => reducedArgument columns a = a.value ∨
      ∃ d, param.default? = some d ∧ reducedArgument columns a = .constant d param.type)
      p.parameters p.args := by
  refine h.defaults.imp fun param a hdefault => ?_
  rcases reducedArgument_cases columns a with hvalue | hreduced
  · exact .inl hvalue
  · rw [hdefault] at hreduced
    obtain ⟨d, hd, heq⟩ := Option.map_eq_some_iff.1 hreduced
    exact .inr ⟨d, hd, heq.symm⟩

omit h in
/-- The name of a member that an argument comes from is that of a configured one. -/
theorem exists_of_origin (hb : Bound t₀ t strategy c p sources feeds) {a : ConstructorArgument}
    (ha : a ∈ p.args) {name : String} (horigin : a.origin = .member name) :
    ∃ mt ∈ c.members, mt.name = name := by
  obtain ⟨⟨param, fed⟩, hentry, hargued⟩ := exists_of_mem_forall₂ hb.args ha
  obtain ⟨feed?, -, hfed⟩ := List.mem_map.1 (List.of_mem_zip hentry).2
  cases hargued with
  | @member mt e _ horigin' _ =>
    obtain ⟨place, -, hmt, -⟩ := fed?_eq_member hfed
    exact ⟨mt, List.mem_of_getElem? hmt, ArgumentOrigin.member.inj (horigin'.symm.trans horigin)⟩
  | parameter horigin' _ _ => cases horigin'.symm.trans horigin
  | default horigin' _ => cases horigin'.symm.trans horigin

omit h in
/-- An assignment is that of a configured member that no argument comes from. -/
theorem exists_of_assignment (hb : Bound t₀ t strategy c p sources feeds) {a : MemberAssignment}
    (ha : a ∈ p.assignments) : ∃ mt place, c.members[place]? = some mt ∧ feeds.uses place = false ∧
      a.name = mt.name ∧ targetMember t p.target mt.member = .ok a.member ∧
        a.member.AssignedBy a.target := by
  obtain ⟨⟨mt, e⟩, hentry, hassigned⟩ := exists_of_mem_forall₂ hb.assignments ha
  obtain ⟨place, hmt, -, huses⟩ := mem_leftOver hentry
  exact ⟨mt, place, hmt, huses, hassigned.name, hassigned.member, hassigned.target⟩

/-- The parts of the full projection fit together. -/
theorem Reduction.fits_full : Projection.Fits t c.source p.constructor (p.args.map (·.value))
    (p.assignments.map fun a => (a.target, a.value)) :=
  Projection.fits_of_assemble (forall₂_type_args h.bound)
    (type_of_initialiser h.bound h.genuine h.later h.declared) h.bound.full

/-- The parts of a reduced projection fit together. -/
theorem Reduction.fits (columns : List String) :
    Projection.Fits t c.source p.constructor (p.args.map (reducedArgument columns))
      ((p.selected columns).map fun a => (a.target, a.value)) := by
  refine ⟨?_, ?_, fun b hb => ?_⟩
  · refine List.forall₂_map_right_iff.2 (List.Forall₂.mp (fun param a hreduced htype => ?_)
      (h.reduced columns) (List.forall₂_map_right_iff.1 h.fits_full.types))
    rcases hreduced with hvalue | ⟨d, -, hdefault⟩
    · rw [hvalue]
      exact htype
    · rw [hdefault]
      rfl
  · intro e he
    obtain ⟨a, ha, rfl⟩ := List.mem_map.1 he
    obtain ⟨param, -, hvalue | ⟨d, -, hdefault⟩⟩ := exists_of_mem_forall₂ (h.reduced columns) ha
    · rw [hvalue]
      exact h.fits_full.closed _ (List.mem_map_of_mem ha)
    · rw [hdefault]
      exact Expr.closed_constant _ d param.type
  · obtain ⟨a, ha, rfl⟩ := List.mem_map.1 hb
    exact h.fits_full.bindings _ (List.mem_map.2 ⟨a, (mem_selected.1 ha).1, rfl⟩)

/-- Assignments are to members with slots. -/
theorem Reduction.assigns : ∀ a ∈ p.assignments, m.Assigns p.target a := by
  intro a ha
  obtain ⟨mt, place, hmt, -, -, hfound, htarget⟩ := exists_of_assignment h.bound ha
  have hmem := List.mem_of_getElem? hmt
  obtain ⟨hmember, hsub, -⟩ := found_spec h.bound h.genuine hmem hfound
  obtain ⟨member, slot, hstored⟩ := h.reducible.stored mt hmem
  obtain rfl : a.member = member := Except.ok.inj (hfound.symm.trans hstored.found)
  exact ⟨hmember.mono h.later, h.later.isSubtype hsub, htarget,
    Option.isSome_iff_exists.2 ⟨slot, hstored.slot⟩⟩

/-- The parts of a reduced projection have no side effects, if no source has. -/
theorem Reduction.plain (hfree : p.SideEffectFree m s ref) (columns : List String) :
    Projection.Plain m s ref p.constructor (p.args.map (reducedArgument columns))
      (p.selected columns) := by
  refine ⟨?_, ?_, fun a ha => h.assigns a (mem_selected.1 ha).1⟩
  · intro e he
    obtain ⟨a, ha, rfl⟩ := List.mem_map.1 he
    obtain ⟨param, -, hvalue | ⟨d, -, hdefault⟩⟩ := exists_of_mem_forall₂ (h.reduced columns) ha
    · rw [hvalue]
      exact ⟨hfree.args a ha, (h.fits_full.closed _ (List.mem_map_of_mem ha)).scopes⟩
    · rw [hdefault]
      exact Machine.harmless_constant d param.type
  · intro a ha
    have hmem := (mem_selected.1 ha).1
    exact ⟨hfree.assignments a hmem,
      (h.fits_full.bindings _ (List.mem_map.2 ⟨a, hmem, rfl⟩)).closed.scopes⟩

/-! ## What the parts make -/

/-- What a projection with the columns makes. -/
abbrev Makes (m : Machine) (s : Store) (ref : ObjectRef) (p : CompiledProjection) (steps : List SlotInit)
    (columns : List String) (vs : List Value) (ws ws' : List (Nat × Value)) : Prop :=
  Projection.Made m s ref p.constructor (p.args.map (reducedArgument columns)) steps (p.selected columns)
    vs ws ws'

omit h in
/-- The argument in a place has its value in that place. -/
theorem Makes.exists_argument (hmakes : Makes m s ref p steps columns vs ws ws') {i : Nat}
    {a : ConstructorArgument} (ha : p.args[i]? = some a) :
    ∃ v, vs[i]? = some v ∧ m.Returns s [.object ref] (reducedArgument columns a) v :=
  exists_getElem?_of_forall₂ (List.forall₂_map_left_iff.1 hmakes.args) ha

/-- If all columns make something, so do some of them: sources give what they gave, and defaults can be
converted. -/
theorem Reduction.exists_makes (hall : Makes m s ref p steps p.columns vs ws ws') (columns : List String) :
    ∃ vs ws ws', Makes m s ref p steps columns vs ws ws' := by
  have hargs : ∀ a ∈ p.args, ∃ v, m.Returns s [.object ref] (reducedArgument columns a) v := by
    intro a ha
    obtain ⟨param, -, hvalue | ⟨d, -, hdefault⟩⟩ := exists_of_mem_forall₂ (h.reduced columns) ha
    · obtain ⟨i, hi⟩ := List.mem_iff_getElem?.1 ha
      obtain ⟨v, -, hv⟩ := hall.exists_argument hi
      rw [reducedArgument_of_subset (List.Subset.refl _) ha, ← hvalue] at hv
      exact ⟨v, hv⟩
    · rw [hdefault]
      exact ⟨d, Machine.returns_constant d param.type⟩
  obtain ⟨vs₁, hvs₁⟩ := exists_forall₂ hargs
  have hsteps : ∀ step ∈ steps, ∃ w, m.StepWrites p.target vs₁ step w := by
    intro step hstep
    have hsound := constructorSound_of_bound h.bound h.genuine h.later h.declared
    obtain ⟨param, type, rule, hparam, htype, hrule⟩ := hsound.step steps h.reducible.body step hstep
    obtain ⟨a, ha, hreduced⟩ := exists_getElem?_of_forall₂ (h.reduced columns) hparam
    obtain ⟨v₁, hv₁, hreturns₁⟩ := exists_getElem?_of_forall₂ hvs₁ ha
    rcases hreduced with hvalue | ⟨d, hd, hdefault⟩
    · -- the argument is as before, and so is its conversion
      obtain ⟨v, hv, hreturns⟩ := hall.exists_argument ha
      rw [reducedArgument_of_subset (List.Subset.refl _) (List.mem_of_getElem? ha)] at hreturns
      rw [hvalue] at hreturns₁
      obtain rfl := hreturns.unique hreturns₁
      obtain ⟨w, -, hw⟩ := exists_of_mem_forall₂ hall.steps.flip hstep
      exact ⟨w, hw.slot, by rw [hv₁, ← hv]; exact hw.value⟩
    · rw [hdefault] at hreturns₁
      obtain rfl := hreturns₁.unique (Machine.returns_constant d param.type)
      have hconf := hsound.default param (List.mem_of_getElem? hparam) _ hd
      obtain ⟨w, hw⟩ := TypeTable.cast_of_implicitRule? hrule hconf
      exact ⟨(step.slot, w), rfl, type, htype, by rw [hv₁]; exact hw⟩
  obtain ⟨ws₁, hws₁⟩ := exists_forall₂ hsteps
  have hassigned : ∀ a ∈ p.selected columns, ∃ w, m.Puts s [.object ref] a w := by
    intro a ha
    have hmem : a ∈ p.selected p.columns := by
      rw [selected_of_subset (List.Subset.refl _)]
      exact (mem_selected.1 ha).1
    obtain ⟨w, -, hw⟩ := exists_of_mem_forall₂ hall.assigned.flip hmem
    exact ⟨w, hw⟩
  obtain ⟨ws₁', hws₁'⟩ := exists_forall₂ hassigned
  exact ⟨vs₁, ws₁, ws₁', List.forall₂_map_left_iff.2 hvs₁, hws₁, hws₁'⟩

/-! ## What the slots hold -/

/-- The slots of the object that a projection makes. -/
abbrev made (m : Machine) (p : CompiledProjection) (ws ws' : List (Nat × Value)) : List Value :=
  ((m.zeros p.target).writes (ws ++ ws')).slots

/-- What an assignment writes is for a selected member that no argument comes from. -/
theorem Reduction.exists_of_mem_assigned (hmakes : Makes m s ref p steps columns vs ws ws')
    {w : Nat × Value} (hw : w ∈ ws') : ∃ mt place member, c.members[place]? = some mt ∧
      feeds.uses place = false ∧ mt.name ∈ columns ∧ mt.Stored t p.target member w.1 := by
  obtain ⟨a, ha, hputs⟩ := exists_of_mem_forall₂ hmakes.assigned hw
  obtain ⟨hmem, hselected⟩ := mem_selected.1 ha
  obtain ⟨mt, place, hmt, huses, hname, hfound, -⟩ := exists_of_assignment h.bound hmem
  exact ⟨mt, place, a.member, hmt, huses, hname ▸ hselected, hfound, hputs.slot⟩

/-- The slot of a member that an argument comes from, or that is not selected, is not assigned. -/
theorem Reduction.notMem_assigned (hmakes : Makes m s ref p steps columns vs ws ws') {mt : MemberTarget}
    (hmt : mt ∈ c.members) {member : MemberRef} {slot : Nat} (hstored : mt.Stored t p.target member slot)
    (hnot : (∃ (i : Nat) (a : ConstructorArgument), p.args[i]? = some a ∧ a.origin = .member mt.name) ∨
      mt.name ∉ columns) : ∀ w ∈ ws', w.1 ≠ slot := by
  rintro w hw rfl
  obtain ⟨mt', place', member', hmt', huses, hselected, hstored'⟩ := h.exists_of_mem_assigned hmakes hw
  obtain rfl := eq_of_stored h.bound h.genuine h.later h.declared hmt (List.mem_of_getElem? hmt')
    hstored hstored'
  rcases hnot with ⟨i, a, ha, horigin⟩ | hunselected
  · rw [uses_of_origin h.bound h.genuine ha horigin hmt'] at huses
    cases huses
  · exact hunselected hselected

/-- A slot that a step writes and no assignment holds the argument, converted. -/
theorem Reduction.held_of_step (hmakes : Makes m s ref p steps columns vs ws ws') {step : SlotInit}
    (hstep : step ∈ steps) (hleft : ∀ w ∈ ws', w.1 ≠ step.slot) {a : ConstructorArgument}
    (ha : p.args[step.parameter]? = some a) : ∃ v type w,
      m.Returns s [.object ref] (reducedArgument columns a) v ∧
      (m.types.model p.target).slotTypes[step.slot]? = some type ∧ m.types.cast type v = .ok w ∧
      (made m p ws ws')[step.slot]? = some w := by
  have hsame : ∀ step' ∈ steps, step'.slot = step.slot → step'.parameter = step.parameter :=
    fun _ hstep' hslot => congrArg SlotInit.parameter
      (List.inj_on_of_nodup_map h.reducible.slotsNodup hstep' hstep hslot)
  obtain ⟨type, w, htype, hcast, hheld⟩ := Machine.held_of_step hmakes.steps hstep hsame hleft
  obtain ⟨v, hv, hreturns⟩ := hmakes.exists_argument ha
  rw [hv] at hcast
  exact ⟨v, type, w, hreturns, htype, hcast, hheld⟩

/-- Columns that agree on the argument of a step make the same of the slot. -/
theorem Reduction.held_congr {columns' : List String} {vs' : List Value} {ws₁ ws₁' : List (Nat × Value)}
    (hmakes : Makes m s ref p steps columns vs ws ws')
    (hmakes' : Makes m s ref p steps columns' vs' ws₁ ws₁') {step : SlotInit} (hstep : step ∈ steps)
    (hleft : ∀ w ∈ ws', w.1 ≠ step.slot) (hleft' : ∀ w ∈ ws₁', w.1 ≠ step.slot)
    {a : ConstructorArgument} (ha : p.args[step.parameter]? = some a)
    (hsame : reducedArgument columns' a = reducedArgument columns a) :
    ∃ w, (made m p ws ws')[step.slot]? = some w ∧ (made m p ws₁ ws₁')[step.slot]? = some w := by
  obtain ⟨v, type, w, hv, htype, hw, hheld⟩ := h.held_of_step hmakes hstep hleft ha
  obtain ⟨v', type', w', hv', htype', hw', hheld'⟩ := h.held_of_step hmakes' hstep hleft' ha
  rw [hsame] at hv'
  obtain rfl := hv.unique hv'
  obtain rfl := Option.some.inj (htype.symm.trans htype')
  obtain rfl := Except.ok.inj (hw.symm.trans hw')
  exact ⟨w, hheld, hheld'⟩

/-- The slot of a member that an argument comes from holds the argument, converted. -/
theorem Reduction.held_of_origin (hmakes : Makes m s ref p steps columns vs ws ws') {mt : MemberTarget}
    (hmt : mt ∈ c.members) {member : MemberRef} {slot : Nat} (hstored : mt.Stored t p.target member slot)
    {i : Nat} {a : ConstructorArgument} (ha : p.args[i]? = some a) (horigin : a.origin = .member mt.name) :
    ∃ v type w, m.Returns s [.object ref] (reducedArgument columns a) v ∧
      (m.types.model p.target).slotTypes[slot]? = some type ∧ m.types.cast type v = .ok w ∧
      (made m p ws ws')[slot]? = some w :=
  h.held_of_step hmakes (h.reducible.own mt hmt member slot hstored i a ha horigin)
    (h.notMem_assigned hmakes hmt hstored (.inl ⟨i, a, ha, horigin⟩)) ha

/-- No slot is assigned twice. -/
theorem Reduction.nodup_assigned (hmakes : Makes m s ref p steps columns vs ws ws') :
    (ws'.map (·.1)).Nodup := by
  have hnames : ((p.selected columns).map (·.name)).Nodup := by
    have hall : p.assignments.map (·.name) = (leftOver c sources feeds).map fun entry => entry.1.name :=
      map_eq_of_forall₂ h.bound.assignments fun _ _ hassigned => hassigned.name
    have hnodup := nodup_leftOver h.bound h.genuine
    rw [← hall] at hnodup
    exact hnodup.sublist (List.filter_sublist.map _)
  refine nodup_of_forall₂ hmakes.assigned hnames ?_
  intro a ha a' ha' w w' hputs hputs' hslot
  obtain ⟨mt, place, hmt, -, hname, hfound, -⟩ := exists_of_assignment h.bound (mem_selected.1 ha).1
  obtain ⟨mt', place', hmt', -, hname', hfound', -⟩ :=
    exists_of_assignment h.bound (mem_selected.1 ha').1
  have hsame := eq_of_stored h.bound h.genuine h.later h.declared (List.mem_of_getElem? hmt)
    (List.mem_of_getElem? hmt') ⟨hfound, hputs.slot⟩ ⟨hfound', hslot ▸ hputs'.slot⟩
  rw [hname, hname', hsame]

/-- The slot of a selected assignment holds what it writes. -/
theorem Reduction.held_of_selected (hmakes : Makes m s ref p steps columns vs ws ws')
    {a : MemberAssignment} (ha : a ∈ p.selected columns) :
    ∃ w, m.Puts s [.object ref] a w ∧ (made m p ws ws')[w.1]? = some w.2 := by
  obtain ⟨w, hw, hputs⟩ := exists_of_mem_forall₂ hmakes.assigned.flip ha
  obtain ⟨mt, place, member, hmt, -, -, hstored⟩ := h.exists_of_mem_assigned hmakes hw
  have hlt : w.1 < ((m.zeros p.target).writes ws).slots.length := by
    rw [Record.length_writes, Machine.zeros, List.length_map]
    exact (List.getElem?_eq_some_iff.1 (slotType_of_stored h.bound h.genuine h.later h.declared
      (List.mem_of_getElem? hmt) hstored)).1
  refine ⟨w, hputs, ?_⟩
  rw [made, Record.writes_append]
  exact Record.getElem?_writes_of_mem hw (h.nodup_assigned hmakes) hlt

/-- A step writes a slot of no configured member from an argument that does not depend on the columns. -/
theorem Reduction.reducedArgument_of_free {step : SlotInit} (hstep : step ∈ steps)
    (hfree : ∀ mt ∈ c.members, ∀ member, ¬ mt.Stored t p.target member step.slot) :
    ∃ a, p.args[step.parameter]? = some a ∧ ∀ columns, reducedArgument columns a = a.value := by
  have hsound := constructorSound_of_bound h.bound h.genuine h.later h.declared
  obtain ⟨param, -, -, hparam, -⟩ := hsound.step steps h.reducible.body step hstep
  obtain ⟨a, ha, -⟩ := exists_getElem?_of_forall₂ h.defaults hparam
  refine ⟨a, ha, fun columns => reducedArgument_of_origin fun name horigin => ?_⟩
  -- a member would have its own slot written by the only step of the parameter
  obtain ⟨mt, hmt, rfl⟩ := exists_of_origin h.bound (List.mem_of_getElem? ha) horigin
  obtain ⟨member, slot, hstored⟩ := h.reducible.stored mt hmt
  have hown := h.reducible.own mt hmt member slot hstored _ a ha horigin
  have hsame := List.inj_on_of_nodup_map h.reducible.parametersNodup hown hstep rfl
  rw [← hsame] at hfree
  exact hfree mt hmt member hstored

/-- A slot of no configured member does not depend on the columns. -/
theorem Reduction.held_of_free {columns' : List String} {vs' : List Value} {ws₁ ws₁' : List (Nat × Value)}
    (hmakes : Makes m s ref p steps columns vs ws ws')
    (hmakes' : Makes m s ref p steps columns' vs' ws₁ ws₁') {slot : Nat}
    (hfree : ∀ mt ∈ c.members, ∀ member, ¬ mt.Stored t p.target member slot) :
    (made m p ws₁ ws₁')[slot]? = (made m p ws ws')[slot]? := by
  have hleft : ∀ {columns vs ws ws'}, Makes m s ref p steps columns vs ws ws' →
      ∀ w ∈ ws', w.1 ≠ slot := by
    rintro columns vs ws ws' hmakes w hw rfl
    obtain ⟨mt, place, member, hmt, -, -, hstored⟩ := h.exists_of_mem_assigned hmakes hw
    exact hfree mt (List.mem_of_getElem? hmt) member hstored
  by_cases hstep : ∃ step ∈ steps, step.slot = slot
  · obtain ⟨step, hstep, rfl⟩ := hstep
    obtain ⟨a, ha, hvalue⟩ := h.reducedArgument_of_free hstep hfree
    obtain ⟨w, hheld, hheld'⟩ := h.held_congr hmakes hmakes' hstep (hleft hmakes) (hleft hmakes') ha
      ((hvalue columns').trans (hvalue columns).symm)
    rw [hheld, hheld']
  · have hnot : ∀ {columns vs ws ws'}, Makes m s ref p steps columns vs ws ws' →
        (made m p ws ws')[slot]? = (m.zeros p.target).slots[slot]? := by
      intro columns vs ws ws' hmakes
      rw [made, Record.writes_append, Record.getElem?_writes_of_notMem (hleft hmakes),
        Record.getElem?_writes_of_notMem]
      rintro w hw rfl
      obtain ⟨step, hmem, hwrites⟩ := exists_of_mem_forall₂ hmakes.steps hw
      exact hstep ⟨step, hmem, hwrites.slot.symm⟩
    rw [hnot hmakes, hnot hmakes']

/-- A member whose argument is not reduced has the value that it has with all columns. -/
theorem Reduction.kept_of_origin (hall : Makes m s ref p steps p.columns vs ws ws') {vs₁ : List Value}
    {ws₁ ws₁' : List (Nat × Value)} (hmakes : Makes m s ref p steps columns vs₁ ws₁ ws₁')
    {mt : MemberTarget} (hmt : mt ∈ c.members) {member : MemberRef} {slot : Nat}
    (hstored : mt.Stored t p.target member slot) {i : Nat} {a : ConstructorArgument}
    (ha : p.args[i]? = some a) (horigin : a.origin = .member mt.name)
    (hvalue : reducedArgument columns a = a.value) :
    ∃ v, (made m p ws ws')[slot]? = some v ∧ (made m p ws₁ ws₁')[slot]? = some v :=
  h.held_congr hall hmakes (h.reducible.own mt hmt member slot hstored i a ha horigin)
    (h.notMem_assigned hall hmt hstored (.inl ⟨i, a, ha, horigin⟩))
    (h.notMem_assigned hmakes hmt hstored (.inl ⟨i, a, ha, horigin⟩)) ha
    (hvalue.trans (reducedArgument_of_subset (List.Subset.refl _) (List.mem_of_getElem? ha)).symm)

/-- A selected column has the value that it has with all columns. -/
theorem Reduction.kept_of_selected (hall : Makes m s ref p steps p.columns vs ws ws') {vs₁ : List Value}
    {ws₁ ws₁' : List (Nat × Value)} (hmakes : Makes m s ref p steps columns vs₁ ws₁ ws₁') {name : String}
    (hcolumn : name ∈ p.columns) (hname : name ∈ columns) : ∃ mt ∈ c.members, mt.name = name ∧
      ∃ member slot v, mt.Stored t p.target member slot ∧ (made m p ws ws')[slot]? = some v ∧
        (made m p ws₁ ws₁')[slot]? = some v := by
  rcases List.mem_append.1 hcolumn with hargs | hassignments
  · obtain ⟨a, ha, hmember⟩ := List.mem_filterMap.1 hargs
    have horigin : a.origin = .member name := by
      rw [memberOf?] at hmember
      split at hmember
      · rename_i other horigin
        rw [horigin, Option.some.inj hmember]
      · cases hmember
    obtain ⟨mt, hmt, rfl⟩ := exists_of_origin h.bound ha horigin
    obtain ⟨member, slot, hstored⟩ := h.reducible.stored mt hmt
    obtain ⟨i, ha⟩ := List.mem_iff_getElem?.1 ha
    obtain ⟨v, hv, hv'⟩ := h.kept_of_origin hall hmakes hmt hstored ha horigin
      (reducedArgument_of_mem horigin hname)
    exact ⟨mt, hmt, rfl, member, slot, v, hstored, hv, hv'⟩
  · obtain ⟨a, ha, rfl⟩ := List.mem_map.1 hassignments
    obtain ⟨mt, place, hmt, -, hsame, hfound, -⟩ := exists_of_assignment h.bound ha
    obtain ⟨w, hputs, hheld⟩ := h.held_of_selected hall (mem_selected.2 ⟨ha, hcolumn⟩)
    obtain ⟨w', hputs', hheld'⟩ := h.held_of_selected hmakes (mem_selected.2 ⟨ha, hname⟩)
    obtain rfl := hputs.unique hputs'
    exact ⟨mt, List.mem_of_getElem? hmt, hsame.symm, a.member, w.1, w.2, ⟨hfound, hputs.slot⟩, hheld,
      hheld'⟩

/-- **What a reduced projection makes, compared to the full one.** -/
theorem Reduction.reduces (hall : Makes m s ref p steps p.columns vs ws ws') {vs₁ : List Value}
    {ws₁ ws₁' : List (Nat × Value)} (hmakes : Makes m s ref p steps columns vs₁ ws₁ ws₁')
    (hcolumns : columns ⊆ p.columns) :
    Reduces m s ref t c p columns (made m p ws ws') (made m p ws₁ ws₁') where
  selected := fun name hname => h.kept_of_selected hall hmakes (hcolumns hname) hname
  required := by
    intro mt hmt member slot hstored i a param ha horigin hparam hrequired
    obtain ⟨a', ha', hdefault⟩ := exists_getElem?_of_forall₂ h.defaults hparam
    obtain rfl := Option.some.inj (ha.symm.trans ha')
    rw [hrequired] at hdefault
    exact h.kept_of_origin hall hmakes hmt hstored ha horigin (reducedArgument_of_required hdefault)
  defaulted := by
    intro mt hmt hunselected member slot hstored i a param d ha horigin hparam hd
    obtain ⟨a', ha', hdefault⟩ := exists_getElem?_of_forall₂ h.defaults hparam
    obtain rfl := Option.some.inj (ha.symm.trans ha')
    rw [hd] at hdefault
    obtain ⟨v, type, w, hv, htype, hw, hheld⟩ := h.held_of_origin hmakes hmt hstored ha horigin
    rw [reducedArgument_of_default horigin hdefault hunselected] at hv
    obtain rfl := hv.unique (Machine.returns_constant d param.type)
    exact ⟨type, w, htype, hw, hheld⟩
  left := by
    have hlength : vs₁.length = p.constructor.constructor.parameters.length := by
      rw [← (List.forall₂_map_left_iff.1 hmakes.args).length_eq]
      exact h.defaults.length_eq.symm
    refine ⟨vs₁, ((m.zeros p.target).writes ws₁).slots, List.forall₂_map_left_iff.1 hmakes.args, ?_, ?_⟩
    · rw [Machine.perform_construct h.reducible.body hlength hmakes.steps, m.writes_zeros]
      rfl
    · intro mt hmt hunselected hnone member slot hstored
      have hlt : slot < ((m.zeros p.target).writes ws₁).slots.length := by
        rw [Record.length_writes, Machine.zeros, List.length_map]
        exact (List.getElem?_eq_some_iff.1
          (slotType_of_stored h.bound h.genuine h.later h.declared hmt hstored)).1
      refine ⟨_, List.getElem?_eq_getElem hlt, ?_⟩
      rw [made, Record.writes_append,
        Record.getElem?_writes_of_notMem (h.notMem_assigned hmakes hmt hstored (.inr hunselected))]
      exact List.getElem?_eq_getElem hlt
  other := fun slot hfree => h.held_of_free hall hmakes hfree

/-- A projection with the columns makes its object. -/
theorem Reduction.perform_apply (hmakes : Makes m s ref p steps columns vs ws ws') {q : Projection}
    (hq : q = .assembled c.source p.constructor (p.args.map (reducedArgument columns))
      ((p.selected columns).map fun a => (a.target, a.value)))
    (hfree : p.SideEffectFree m s ref) (hsub : m.types.isSubtype ref.type c.source = true) :
    (q.apply m (.object ref)).perform s =
      (.ok (.object ⟨s.heap.size, p.target⟩), s.push ⟨p.target, made m p ws ws'⟩) := by
  rw [Projection.Made.perform_apply hmakes hq h.declared.sound hsub h.reducible.body
    (h.fits columns).types.length_eq.symm (h.plain hfree columns), m.writes_zeros]
  rfl

end Parts

/-! ## End to end -/

/-- **Reduced projections agree with the full one.**  Let the full projection succeed on an object, on which
no source has side effects.  With columns that it has, the projection succeeds on the object too, and its
slots compare to those of the full one as `Reduces` says; only which columns there are matters, and with all
of them it is the full projection.  Other columns are refused. -/
theorem reduced_agrees {strategy : NameStrategy} {c : Configuration} {w w' : Workshop}
    {p : CompiledProjection} (hcompile : (Compilation.compile strategy c).run.run w = (.ok p, w'))
    (hbuilt : c.Built w.types) {steps : List SlotInit} (hreducible : Reducible w'.types c p steps)
    {t : TypeTable} (hcurrent : w'.types.Extends t) {m : Machine} (hlater : t.Extends m.types)
    (hdeclared : m.types.Declared) {s s' : Store} {ref : ObjectRef} (hfree : p.SideEffectFree m s ref)
    {o : Value} (hfull : (p.full.apply m (.object ref)).perform s = (.ok o, s')) :
    ∃ slots, o = .object ⟨s.heap.size, p.target⟩ ∧ s' = s.push ⟨p.target, slots⟩ ∧
      (∀ columns, columns ⊆ p.columns → ∃ q slots', p.project t (some columns) = .ok q ∧
        (q.apply m (.object ref)).perform s = (.ok o, s.push ⟨p.target, slots'⟩) ∧
        Reduces m s ref w'.types c p columns slots slots' ∧
        (∀ columns', (∀ name, name ∈ columns' ↔ name ∈ columns) →
          p.project t (some columns') = .ok q) ∧
        (p.columns ⊆ columns → q = p.full)) ∧
      ∀ columns, ¬columns ⊆ p.columns → ∃ unknown ∈ columns, unknown ∉ p.columns ∧
        p.project t (some columns) = .error (.unknownColumn unknown p.target p.columns) := by
  obtain ⟨sources, feeds, hbound⟩ := Compilation.bound_of_compile hcompile
  have h : Reduction w.types w'.types (c.strategy?.getD strategy) c p sources feeds steps m :=
    ⟨hbound, hbuilt.genuine, hreducible, hcurrent.trans hlater, hdeclared⟩
  -- the full projection is the one with all columns
  have hpart : ∀ columns, p.columns ⊆ columns → p.full = .assembled c.source p.constructor
      (p.args.map (reducedArgument columns)) ((p.selected columns).map fun a => (a.target, a.value)) := by
    intro columns hcolumns
    rw [map_reducedArgument_of_subset hcolumns, selected_of_subset hcolumns]
    exact full_eq_assembled hbound hbuilt.genuine (hcurrent.trans hlater) hdeclared
  have hall := hpart p.columns (List.Subset.refl _)
  obtain ⟨hsub, vs, ws, ws', hmade⟩ := Projection.made_of_apply hall hdeclared.sound hreducible.body
    (h.fits p.columns).types.length_eq.symm (h.plain hfree p.columns) hfull
  cases (h.perform_apply hmade hall hfree hsub).symm.trans hfull
  refine ⟨_, rfl, rfl, fun columns hcolumns => ?_, fun columns => project_of_not_subset⟩
  obtain ⟨vs₁, ws₁, ws₁', hmakes⟩ := h.exists_makes hmade columns
  have hproject : p.project t (some columns) = .ok (.assembled c.source p.constructor
      (p.args.map (reducedArgument columns)) ((p.selected columns).map fun a => (a.target, a.value))) := by
    rw [project_of_subset hcolumns, hbound.source]
    exact ((h.fits columns).mono hcurrent).assemble
  refine ⟨_, made m p ws₁ ws₁', hproject, h.perform_apply hmakes rfl hfree hsub,
    h.reduces hmade hmakes hcolumns, fun columns' hsame => ?_, fun hcovers => (hpart columns hcovers).symm⟩
  rw [project_congr hsame hcolumns, hproject]

/-! ## A badge with a rank -/

open Compilation (codedSource)

/-- The badge of a person with a rank that is configured. -/
def rankedConfiguration : Configuration :=
  ⟨0, .declared 1, [⟨.name "Code", .inferred, .auto, none, none⟩,
    ⟨.name "Rank", .constant (.int32 5), .auto, none, none⟩], [], none, none⟩

/-- The compiled badge with a rank. -/
def ranked : CompiledProjection where
  source := 0
  constructor := ⟨1, 0, badgeConstructor⟩
  args := [⟨"Code", .member "Code", .convert .widen codedSource .int64, none⟩,
    ⟨"Rank", .member "Rank", .constant (.int32 5) .int32, some (.constant (.int32 1) .int32)⟩]
  assignments := []
  full := .assembled 0 ⟨1, 0, badgeConstructor⟩
    [.convert .widen codedSource .int64, .constant (.int32 5) .int32] []

theorem run_ranked : (Compilation.compile .exact rankedConfiguration).run.run badgeShop =
    (.ok ranked, badgeShop) := rfl

theorem perform_ranked : (ranked.full.apply badgeMachine (.object ⟨0, 0⟩)).perform persons =
    (.ok (.object ⟨1, 1⟩), persons.push ⟨1, [.int64 7, .int64 5]⟩) := rfl

theorem reducible_ranked : Reducible badges rankedConfiguration ranked [⟨0, 0⟩, ⟨1, 1⟩] where
  stored := by
    intro mt hmt
    rcases List.mem_pair.1 hmt with rfl | rfl
    · exact ⟨_, 0, rfl, rfl⟩
    · exact ⟨_, 1, rfl, rfl⟩
  body := rfl
  parametersNodup := by decide
  slotsNodup := by decide
  own := by
    intro mt hmt member slot hstored i a ha horigin
    rcases List.mem_pair.1 hmt with rfl | rfl
    · obtain rfl := Except.ok.inj hstored.found
      cases hstored.slot
      match i, ha with
      | 0, _ => decide
      | 1, ha =>
        cases ha
        simp [MemberTarget.name, ProjectedMember.text] at horigin
    · obtain rfl := Except.ok.inj hstored.found
      cases hstored.slot
      match i, ha with
      | 0, ha =>
        cases ha
        simp [MemberTarget.name, ProjectedMember.text] at horigin
      | 1, _ => decide

theorem sideEffectFree_ranked : ranked.SideEffectFree badgeMachine persons ⟨0, 0⟩ where
  args := by
    intro a ha
    rcases List.mem_pair.1 ha with rfl | rfl
    · refine Expr.sideEffectFree_of_isPure wellTyped_persons ?_ ?_
      · rintro _ hv
        rw [List.mem_singleton.1 hv]
        exact Store.live_object.2 ⟨_, rfl, rfl⟩
      · refine Expr.each_convert.2 ⟨⟨trivial, fun _ _ h => by cases h⟩, ?_⟩
        refine Expr.each_fieldGet.2 ⟨⟨trivial, fun _ _ h => by cases h⟩, fun e he => ?_⟩
        cases he
        exact Expr.each_parameter.2 ⟨trivial, fun _ _ h => by cases h⟩
    · exact (Machine.harmless_constant (.int32 5) .int32).free
  assignments := by simp [ranked]

/-- The badge without its rank has the default, and the person's code. -/
theorem reduced_agrees_ranked : ∃ q slots, ranked.project badges (some ["Code"]) = .ok q ∧
    (q.apply badgeMachine (.object ⟨0, 0⟩)).perform persons =
      (.ok (.object ⟨1, 1⟩), persons.push ⟨1, slots⟩) ∧
    slots[0]? = some (.int64 7) ∧ slots[1]? = some (.int64 1) ∧
    ∃ e, ranked.project badges (some ["Code", "Name"]) = .error e := by
  have hbuilt : rankedConfiguration.Built badges :=
    .member (m := ⟨.name "Rank", .constant (.int32 5), .auto, none, none⟩)
      (.member (m := ⟨.name "Code", .inferred, .auto, none, none⟩) (.new 0 (.declared 1))
        fun _ h => by cases h) fun _ h => by cases h
  obtain ⟨slots, -, hstore, hknown, hunknown⟩ := reduced_agrees run_ranked hbuilt reducible_ranked
    (.refl _) (.refl _) declared_badges sideEffectFree_ranked perform_ranked
  have hslots : slots = [.int64 7, .int64 5] := by
    have hrecord := congrArg (fun s : Store => s.record? persons.heap.size) hstore
    simp only [Store.record?_push, if_true, Option.some.injEq, Record.mk.injEq] at hrecord
    exact hrecord.2.symm
  obtain ⟨q, slots', hproject, hrun, hreduces, -, -⟩ := hknown ["Code"] (by decide)
  refine ⟨q, slots', hproject, hrun, ?_, ?_, ?_⟩
  · obtain ⟨mt, hmt, hname, member, slot, v, hstored, hv, hv'⟩ := hreduces.selected "Code" (by simp)
    rcases List.mem_pair.1 hmt with rfl | rfl
    · obtain rfl := Except.ok.inj hstored.found
      cases hstored.slot
      rw [hslots] at hv
      cases hv
      exact hv'
    · simp [MemberTarget.name, ProjectedMember.text] at hname
  · have hmt : (⟨.name "Rank", .constant (.int32 5), .auto, none, none⟩ : MemberTarget) ∈
        rankedConfiguration.members := by simp [rankedConfiguration]
    obtain ⟨type, v, htype, hv, hslot⟩ := hreduces.defaulted _ hmt (by decide)
      (.field ⟨1, 1, ⟨"Rank", .int64, .open, false, false, 1⟩⟩) 1 ⟨rfl, rfl⟩ 1 _ _ (.int32 1) rfl rfl rfl rfl
    cases htype
    obtain rfl : Value.int64 1 = v := Except.ok.inj hv
    exact hslot
  · obtain ⟨unknown, -, -, herror⟩ := hunknown ["Code", "Name"] (by decide)
    exact ⟨_, herror⟩

end CompiledProjection
end Reshape
