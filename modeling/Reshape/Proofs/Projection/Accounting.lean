import Reshape.Proofs.Projection.Correctness

/-!
# Every mapping is used once

Compilation takes every configured member exactly once: it feeds one parameter of the constructor, or it
is assigned after construction (`CompiledProjection.Accounts`).  Three passes place feeds, each at free
parameters and of what is not placed yet, and the assignments are those of the members that none of the
passes placed.  So the places of the members that feed parameters and of those that are assigned make up
all places (`Feeds.taken_append_untaken_perm`).
-/

namespace Reshape

namespace Feeds

variable {feeds : Feeds}

/-- The place of the configured member that feeds a parameter. -/
def memberPlace? : Option Feed → Option Nat
  | some (.member place) => some place
  | _ => none

theorem memberPlace?_eq_some {feed? : Option Feed} {place : Nat} :
    memberPlace? feed? = some place ↔ feed? = some (.member place) := by
  rcases feed? with _ | ⟨_ | _⟩ <;> simp [memberPlace?]

/-- The places of the configured members that feed parameters, in the order of the parameters. -/
def taken (feeds : Feeds) : List Nat :=
  feeds.filterMap memberPlace?

/-- The places of the other configured members, of so many. -/
def untaken (feeds : Feeds) (count : Nat) : List Nat :=
  (List.range count).filter fun place => !feeds.uses place

theorem mem_taken {place : Nat} : place ∈ feeds.taken ↔ feeds.uses place = true := by
  rw [taken, List.mem_filterMap, uses, List.contains_iff_mem]
  constructor
  · rintro ⟨feed?, hmem, hplace⟩
    rwa [memberPlace?_eq_some.1 hplace] at hmem
  · exact fun hmem => ⟨_, hmem, rfl⟩

theorem mem_untaken {place count : Nat} :
    place ∈ feeds.untaken count ↔ place < count ∧ feeds.uses place = false := by
  simp [untaken]

theorem nodup_untaken (feeds : Feeds) (count : Nat) : (feeds.untaken count).Nodup :=
  List.nodup_range.filter _

theorem Distinct.nodup_taken (h : feeds.Distinct) : feeds.taken.Nodup := by
  refine List.pairwise_filterMap.2 (List.pairwise_iff_getElem.2 ?_)
  rintro i j hi hj hij place hplace place' hplace' rfl
  rw [memberPlace?_eq_some] at hplace hplace'
  refine Nat.ne_of_lt hij (h i j (.member place) ?_ ?_)
  · rw [List.getElem?_eq_getElem hi, hplace]
  · rw [List.getElem?_eq_getElem hj, hplace']

/-- **The members that feed parameters and those that do not are all members, each once.** -/
theorem taken_append_untaken_perm (h : feeds.Distinct) {count : Nat}
    (hcount : ∀ place, feeds.uses place = true → place < count) :
    (feeds.taken ++ feeds.untaken count).Perm (List.range count) := by
  have hnodup : (feeds.taken ++ feeds.untaken count).Nodup := by
    refine h.nodup_taken.append (feeds.nodup_untaken count) fun place htaken huntaken => ?_
    have hused := mem_taken.1 htaken
    rw [(mem_untaken.1 huntaken).2] at hused
    cases hused
  refine (List.perm_ext_iff_of_nodup hnodup List.nodup_range).2 fun place => ?_
  rw [List.mem_append, mem_taken, mem_untaken, List.mem_range]
  cases huses : feeds.uses place with
  | true => simp [hcount place huses]
  | false => simp

end Feeds

namespace CompiledProjection

open Compilation

/-- How the parts of a compiled projection account for its configuration: what feeds each parameter, and
the places of the members that are assigned. -/
structure Accounts (t : TypeTable) (strategy : NameStrategy) (c : Configuration)
    (p : CompiledProjection) (sources : List Expr) (feeds : Feeds) (assigned : List Nat) : Prop where
  /-- There is one argument for each parameter, in their order. -/
  arguments : p.args.map (·.parameter) = p.parameters.map (·.name)
  /-- There is a place for each parameter, and what feeds it is configured for it. -/
  placed : Feeds.Placed strategy p.parameters c feeds
  /-- Each argument comes from what feeds its parameter. -/
  argued : ∀ (i : Nat) (param : Parameter) (feed? : Option Feed) (a : ConstructorArgument),
    p.parameters[i]? = some param → feeds[i]? = some feed? → p.args[i]? = some a →
      Argued t strategy c.source param (fed? c sources feed?) a
  /-- Each assignment comes from the configured member at its place. -/
  assignments : List.Forall₂ (fun place a => ∃ m e, c.members[place]? = some m ∧
    sources[place]? = some e ∧ Assigned t p.target m e a) assigned p.assignments
  /-- A configured member feeds exactly one parameter and is not assigned, or feeds none and is assigned
  exactly once. -/
  members : ∀ place m, c.members[place]? = some m →
    (∃! i : Nat, feeds[i]? = some (some (.member place))) ∧ place ∉ assigned ∨
      (∀ i : Nat, feeds[i]? ≠ some (some (.member place))) ∧
        ∃! k : Nat, assigned[k]? = some place
  /-- A configured parameter feeds the parameter that it selects, and no other. -/
  parameters : ∀ place target, c.parameters[place]? = some target →
    ∃ i, Fitting.selected? p.parameters target.parameter = some i ∧
      ∀ j : Nat, feeds[j]? = some (some (.parameter place)) ↔ j = i
  /-- A parameter that nothing feeds has a default, and its argument is the default. -/
  unfed : ∀ (i : Nat) (param : Parameter), p.parameters[i]? = some param → feeds[i]? = some none →
    ∃ v a, param.default? = some v ∧ p.args[i]? = some a ∧ a.origin = .default ∧
      Expr.typedLiteral t v param.type = .ok a.value
  /-- The columns are the names of the configured members. -/
  columns : p.columns.Perm (c.members.map (·.name))
  /-- The projection is assembled from the arguments and the assignments. -/
  assembled : Projection.assemble t c.source p.constructor (p.args.map (·.value))
    (p.assignments.map fun a => (a.target, a.value)) = .ok p.full

section Parts

variable {t₀ t : TypeTable} {strategy : NameStrategy} {c : Configuration} {p : CompiledProjection}
  {sources : List Expr} {feeds : Feeds}

/-! ## Arguments -/

/-- The argument of a parameter comes from what feeds it. -/
theorem exists_argued (h : Bound t₀ t strategy c p sources feeds) {i : Nat} {param : Parameter}
    {feed? : Option Feed} (hparam : p.parameters[i]? = some param) (hfeed : feeds[i]? = some feed?) :
    ∃ a, p.args[i]? = some a ∧ Argued t strategy c.source param (fed? c sources feed?) a :=
  exists_getElem?_of_forall₂ h.args (getElem?_fed c sources hparam hfeed)

theorem parameters_of_args (h : Bound t₀ t strategy c p sources feeds) :
    p.args.map (·.parameter) = p.parameters.map (·.name) := by
  have hnames := map_eq_of_forall₂ h.named (f := fun entry => entry.1.name) (g := (·.parameter))
    fun _ _ => id
  have hfst := congrArg (List.map Parameter.name) (map_fst_fed h)
  rw [List.map_map] at hfst
  exact hnames.trans hfst

/-- A configured parameter feeds the parameter that it selects, and no other. -/
theorem feeds_of_parameter (h : Bound t₀ t strategy c p sources feeds) {place : Nat}
    {target : ParameterTarget} (htarget : c.parameters[place]? = some target) :
    ∃ i, Fitting.selected? p.parameters target.parameter = some i ∧
      ∀ j : Nat, feeds[j]? = some (some (.parameter place)) ↔ j = i := by
  obtain ⟨i, hi, hfeed⟩ := h.resolved.configured target place htarget
  refine ⟨i, hi, fun j => ⟨fun hj => h.resolved.distinct j i _ hj hfeed, ?_⟩⟩
  rintro rfl
  exact hfeed

/-- A parameter that nothing feeds takes its default. -/
theorem default_of_unfed (h : Bound t₀ t strategy c p sources feeds) {i : Nat} {param : Parameter}
    (hparam : p.parameters[i]? = some param) (hfeed : feeds[i]? = some none) :
    ∃ v a, param.default? = some v ∧ p.args[i]? = some a ∧ a.origin = .default ∧
      Expr.typedLiteral t v param.type = .ok a.value := by
  have hoptional := h.resolved.optional i param hparam hfeed
  obtain ⟨v, hv⟩ := Option.isSome_iff_exists.1 hoptional
  obtain ⟨a, ha, hargued⟩ := exists_argued h hparam hfeed
  cases hargued with
  | default horigin hvalue =>
    rw [hv] at hvalue
    exact ⟨v, a, hv, ha, horigin, hvalue⟩

/-! ## Members -/

/-- The place of a configured member that feeds a parameter is one of the members. -/
theorem lt_of_uses (h : Bound t₀ t strategy c p sources feeds) {place : Nat}
    (huses : feeds.uses place = true) : place < c.members.length := by
  obtain ⟨i, hfeed⟩ := Feeds.uses_iff.1 huses
  obtain ⟨m, param, hm, -⟩ := h.resolved.placed.allowed i _ hfeed
  exact (List.getElem?_eq_some_iff.1 hm).1

/-- The members that are left over, with their places. -/
def leftPlaces (c : Configuration) (sources : List Expr) (feeds : Feeds) :
    List ((MemberTarget × Expr) × Nat) :=
  (c.members.zip sources).zipIdx.filter fun entry => !feeds.uses entry.2

theorem map_snd_leftPlaces (h : Bound t₀ t strategy c p sources feeds) :
    (leftPlaces c sources feeds).map (·.2) = feeds.untaken c.members.length := by
  have hlength : (c.members.zip sources).length = c.members.length := by
    rw [List.length_zip, ← h.bound.length_eq, Nat.min_self]
  rw [leftPlaces, Feeds.untaken, ← hlength, List.range_eq_range', ← List.zipIdx_map_snd,
    List.filter_map]
  rfl

/-- Each assignment is that of the member at a place that is left over. -/
theorem forall₂_untaken (h : Bound t₀ t strategy c p sources feeds) :
    List.Forall₂ (fun place a => ∃ m e, c.members[place]? = some m ∧ sources[place]? = some e ∧
      Assigned t p.target m e a) (feeds.untaken c.members.length) p.assignments := by
  have hplaces : ∀ entry ∈ leftPlaces c sources feeds,
      c.members[entry.2]? = some entry.1.1 ∧ sources[entry.2]? = some entry.1.2 := by
    intro entry hentry
    exact List.getElem?_zip_eq_some.1
      (List.mem_zipIdx_iff_getElem?.1 (List.mem_filter.1 hentry).1)
  have hassigned : List.Forall₂ (fun entry a => Assigned t p.target entry.1.1 entry.1.2 a)
      (leftPlaces c sources feeds) p.assignments :=
    List.forall₂_map_left_iff.1 h.assignments
  rw [← map_snd_leftPlaces h, List.forall₂_map_left_iff]
  refine ((List.forall₂_and_left _ _).2 ⟨hplaces, hassigned⟩).imp ?_
  rintro entry a ⟨⟨hm, he⟩, ha⟩
  exact ⟨_, _, hm, he, ha⟩

/-- A configured member feeds one parameter, or is assigned once. -/
theorem fed_or_assigned (h : Bound t₀ t strategy c p sources feeds) {place : Nat}
    (hplace : place < c.members.length) :
    (∃! i : Nat, feeds[i]? = some (some (.member place))) ∧
        place ∉ feeds.untaken c.members.length ∨
      (∀ i : Nat, feeds[i]? ≠ some (some (.member place))) ∧
        ∃! k : Nat, (feeds.untaken c.members.length)[k]? = some place := by
  cases huses : feeds.uses place with
  | true =>
    obtain ⟨i, hi⟩ := Feeds.uses_iff.1 huses
    refine .inl ⟨⟨i, hi, fun j hj => h.resolved.distinct j i _ hj hi⟩, fun huntaken => ?_⟩
    rw [(Feeds.mem_untaken.1 huntaken).2] at huses
    cases huses
  | false =>
    refine .inr ⟨fun i hi => ?_, ?_⟩
    · rw [Feeds.uses_iff.2 ⟨i, hi⟩] at huses
      cases huses
    · obtain ⟨k, hk⟩ := List.mem_iff_getElem?.1 (Feeds.mem_untaken.2 ⟨hplace, huses⟩)
      refine ⟨k, hk, fun j hj => ?_⟩
      exact (List.getElem?_inj (List.getElem?_eq_some_iff.1 hj).1
        (feeds.nodup_untaken _)).1 (hj.trans hk.symm)

/-! ## Columns -/

/-- The name of the configured member at a place. -/
def nameAt (c : Configuration) (place : Nat) : String :=
  (c.members[place]?.map (·.name)).getD ""

theorem nameAt_eq {place : Nat} {m : MemberTarget} (h : c.members[place]? = some m) :
    nameAt c place = m.name := by
  rw [nameAt, h]
  rfl

theorem map_nameAt_range (c : Configuration) :
    (List.range c.members.length).map (nameAt c) = c.members.map (·.name) := by
  refine List.ext_getElem? fun place => ?_
  rw [List.getElem?_map, List.getElem?_map]
  by_cases hplace : place < c.members.length
  · rw [List.getElem?_range hplace, List.getElem?_eq_getElem hplace, Option.map_some, Option.map_some,
      nameAt_eq (List.getElem?_eq_getElem hplace)]
  · rw [List.getElem?_eq_none (by simpa using hplace), List.getElem?_eq_none (Nat.le_of_not_lt hplace)]
    rfl

/-- The name of the configured member that feeds a parameter. -/
def fedName? : Option Fed → Option String
  | some (.member m _) => some m.name
  | _ => none

theorem memberOf?_of_argued {param : Parameter} {fed : Option Fed} {a : ConstructorArgument}
    (h : Argued t strategy c.source param fed a) : memberOf? a = fedName? fed := by
  cases h with
  | member horigin _ | parameter horigin _ _ | default horigin _ =>
    rw [memberOf?, horigin]
    rfl

theorem fedName?_fed (h : Bound t₀ t strategy c p sources feeds) {feed? : Option Feed}
    (hmem : feed? ∈ feeds) :
    fedName? (fed? c sources feed?) = (Feeds.memberPlace? feed?).map (nameAt c) := by
  obtain ⟨i, hfeed⟩ := List.mem_iff_getElem?.1 hmem
  match feed? with
  | none => rfl
  | some (.member place) =>
    obtain ⟨m, param, hm, -⟩ := h.resolved.placed.allowed i _ hfeed
    obtain ⟨e, he, -⟩ := exists_getElem?_of_forall₂ h.bound hm
    rw [fed?_member hm he]
    exact congrArg some (nameAt_eq hm).symm
  | some (.parameter place) =>
    obtain ⟨target, htarget, -⟩ := h.resolved.placed.allowed i _ hfeed
    rw [fed?, htarget]
    rfl

/-- The columns that the constructor takes are the members that feed parameters. -/
theorem filterMap_memberOf? (h : Bound t₀ t strategy c p sources feeds) :
    p.args.filterMap memberOf? = feeds.taken.map (nameAt c) := by
  have hsnd : (p.parameters.zip (feeds.map (fed? c sources))).map Prod.snd =
      feeds.map (fed? c sources) := by
    refine List.map_snd_zip (Nat.le_of_eq ?_)
    rw [List.length_map]
    exact h.resolved.placed.length
  have hargs := map_eq_of_forall₂ h.args (f := fun entry => fedName? entry.2) (g := memberOf?)
    fun _ _ => memberOf?_of_argued
  calc p.args.filterMap memberOf?
      = (p.args.map memberOf?).filterMap id := by rw [List.filterMap_map]; rfl
    _ = ((p.parameters.zip (feeds.map (fed? c sources))).map Prod.snd).filterMap fedName? := by
      rw [hargs, List.filterMap_map, List.filterMap_map]; rfl
    _ = feeds.filterMap fun feed? => fedName? (fed? c sources feed?) := by
      rw [hsnd, List.filterMap_map]; rfl
    _ = feeds.filterMap fun feed? => (Feeds.memberPlace? feed?).map (nameAt c) :=
      List.filterMap_congr fun _ => fedName?_fed h
    _ = feeds.taken.map (nameAt c) := by rw [Feeds.taken, List.map_filterMap]

theorem columns_perm (h : Bound t₀ t strategy c p sources feeds) :
    p.columns.Perm (c.members.map (·.name)) := by
  have hassigned := map_eq_of_forall₂ (forall₂_untaken h) (f := nameAt c) (g := (·.name)) <| by
    rintro place a ⟨m, e, hm, -, ha⟩
    rw [nameAt_eq hm, ha.name]
  rw [columns, filterMap_memberOf? h, hassigned, ← List.map_append, ← map_nameAt_range]
  exact (Feeds.taken_append_untaken_perm h.resolved.distinct fun _ => lt_of_uses h).map _

/-! ## The whole -/

/-- **Every mapping is used once.**  Of a configuration that compiles, every member feeds one parameter or is
assigned once, every configured parameter feeds the one that it selects, and all other parameters take
their defaults. -/
theorem compile_accounts {strategy : NameStrategy} {c : Configuration} {w w' : Workshop}
    {p : CompiledProjection} (h : (compile strategy c).run.run w = (.ok p, w')) :
    ∃ sources feeds assigned,
      List.Forall₂ (fun m e => (Binding.sourceExpr w.types c.source (c.strategy?.getD strategy)
        (.member m.name) m.source).Reaches e) c.members sources ∧
      Accounts w'.types (c.strategy?.getD strategy) c p sources feeds assigned := by
  obtain ⟨sources, feeds, hbound⟩ := bound_of_compile h
  refine ⟨sources, feeds, feeds.untaken c.members.length, hbound.bound, ?_⟩
  exact
    { arguments := parameters_of_args hbound
      placed := hbound.resolved.placed
      argued := fun i param feed? a hparam hfeed ha => by
        obtain ⟨a', ha', hargued⟩ := exists_argued hbound hparam hfeed
        rwa [Option.some.inj (ha.symm.trans ha')]
      assignments := forall₂_untaken hbound
      members := fun place m hm => fed_or_assigned hbound (List.getElem?_eq_some_iff.1 hm).1
      parameters := fun _ _ => feeds_of_parameter hbound
      unfed := fun _ _ => default_of_unfed hbound
      columns := columns_perm hbound
      assembled := hbound.full }

end Parts

/-! ## A pass -/

/-- A pass takes a code and a level, and a rank that has a default. -/
def passConstructor : Constructor where
  parameters := [⟨"Code", .int64, none⟩, ⟨"Level", .int32, none⟩, ⟨"Rank", .int32, some (.int32 1)⟩]
  visibility := .open
  body := .assign [⟨0, 0⟩]

/-- Persons, and passes that can be marked. -/
def passes : TypeTable :=
  people.push ⟨"Pass", .declared, none, [], [],
    [⟨"Code", .int64, .open, false, false, 0⟩, ⟨"Mark", .int32, .open, false, false, 1⟩], [], [],
    [passConstructor], [.int64, .int32], []⟩

/-- The code of the person, a mark, and a level for the constructor. -/
def passConfiguration : Configuration :=
  ⟨0, .declared 1, [⟨.name "Mark", .constant (.int32 5), .auto, none, none⟩,
    ⟨.name "Code", .inferred, .auto, none, none⟩], [⟨.name "Level", .constant (.int32 2), none⟩],
    none, none⟩

/-- A workshop with persons and passes. -/
def passShop : Workshop := ⟨passes, .new .default, .empty, 0⟩

/-- The mark is assigned, the code and the level feed their parameters, and the rank is the default. -/
theorem compile_accounts_pass : ∃ p,
    (compile .exact passConfiguration).run.run passShop = (.ok p, passShop) ∧
      p.columns = ["Code", "Mark"] ∧ ∃ sources feeds assigned,
        Accounts passes .exact passConfiguration p sources feeds assigned := by
  obtain ⟨p, hp⟩ : ∃ p, (compile .exact passConfiguration).run.run passShop = (.ok p, passShop) :=
    ⟨_, rfl⟩
  obtain ⟨sources, feeds, assigned, -, haccounts⟩ := compile_accounts hp
  refine ⟨p, hp, ?_, sources, feeds, assigned, haccounts⟩
  cases hp
  rfl

end CompiledProjection
end Reshape
