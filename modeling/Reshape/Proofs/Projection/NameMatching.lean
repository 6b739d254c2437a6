import Reshape.Proofs.Projection.Feeding
import Reshape.Proofs.Schema.Constructors
import Reshape.Proofs.Schema.History

/-!
# Finding members by the names of their parameters

The parameters of a synthesized constructor are named after their members, in camel case, and an entry of
a configuration is found again by the name of its member's parameter.  Parameters are fed one after the
other, each by the first entry that may (`Fitting.placeMatching_eq_iff`), so every parameter gets the entry of
its own member exactly if the names lead back: writing them in camel case a second time changes nothing, and no
entry before a member's own has the same form (`Configuration.LeadsBack`, `Fitting.resolve_own_iff`).  Names
with words of one letter need not (`Fitting.exists_not_leading_back`).
-/

namespace Reshape

open Text (camel)

/-! ## Names -/

/-- A name and its camel-case form mean the same exactly if the form is its own camel-case form. -/
theorem sameInCamelCase_camel_self {name : String} :
    sameInCamelCase (camel name) name = true ↔ camel (camel name) = camel name := by
  simp only [sameInCamelCase, Bool.or_eq_true, beq_iff_eq]
  constructor
  · rintro (h | h)
    · exact congrArg camel h
    · exact h
  · exact .inr

theorem sameInCamelCase_camel_iff {name other : String} (h : camel (camel name) = camel name) :
    sameInCamelCase (camel name) other = true ↔ camel other = camel name := by
  simp only [sameInCamelCase, Bool.or_eq_true, beq_iff_eq]
  constructor
  · rintro (rfl | hother)
    · exact h
    · exact hother.symm.trans h
  · exact fun hother => .inr (h.trans hother.symm)

/-! ## Feeding by members only -/

namespace Feeds

/-- Members feed the parameters, in order. -/
def ofPlaces (places : List Nat) : Feeds :=
  places.map fun place => some (.member place)

theorem uses_ofPlaces {places : List Nat} {place : Nat} :
    uses (ofPlaces places) place = true ↔ place ∈ places := by
  simp [uses, ofPlaces]

/-- Free parameters are not fed by anything. -/
theorem uses_append_free (feeds : Feeds) (n : Nat) :
    uses (feeds ++ List.replicate n none) = uses feeds := by
  funext place
  rw [Bool.eq_iff_iff]
  simp [uses, List.mem_replicate]

theorem ofPlaces_append (places places' : List Nat) :
    ofPlaces (places ++ places') = ofPlaces places ++ ofPlaces places' :=
  List.map_append

/-- What follows fed parameters stands behind them. -/
theorem getElem?_ofPlaces_append (places : List Nat) (rest : Feeds) :
    (ofPlaces places ++ rest)[places.length]? = rest[0]? := by
  rw [List.getElem?_append_right (by simp [ofPlaces])]
  simp [ofPlaces]

/-- The first free parameter is fed next. -/
theorem set_ofPlaces_free (places : List Nat) (n place : Nat) :
    (ofPlaces places ++ List.replicate (n + 1) none).set places.length (some (.member place)) =
      ofPlaces (places ++ [place]) ++ List.replicate n none := by
  rw [List.set_append_right _ _ (by simp [ofPlaces])]
  simp [ofPlaces, List.replicate_succ]

theorem consumed_ofPlaces (places : List Nat) : (ofPlaces places).consumed = places.length := by
  simp [consumed, ofPlaces, List.countP_map]

end Feeds

namespace Fitting

open Feeds

variable {strategy : NameStrategy} {members : List MemberTarget} {feeds feeds' : Feeds}

/-- A member may feed a parameter by its name. -/
def MayFeed (strategy : NameStrategy) (feeds : Feeds) (p : Parameter) (m : MemberTarget)
    (place : Nat) : Prop :=
  feeds.uses place = false ∧ m.placement ≠ .member ∧ m.parameter? = none ∧
    strategy.parameterMatchesMember p.name m.name = true

/-- What feeds a parameter by name is the first that may. -/
theorem matching?_eq_some_iff {p : Parameter} {place : Nat} :
    matching? strategy members.zipIdx feeds p = some place ↔
      (∃ m, members[place]? = some m ∧ MayFeed strategy feeds p m place) ∧
      ∀ j m, j < place → members[j]? = some m → ¬MayFeed strategy feeds p m j := by
  have hmay : ∀ (m : MemberTarget) (j : Nat), (!feeds.uses j && m.placement != .member &&
      m.parameter?.isNone && strategy.parameterMatchesMember p.name m.name) = true ↔
        MayFeed strategy feeds p m j := by
    intro m j
    simp [MayFeed, and_assoc]
  have hzip : ∀ {j : Nat} {e : MemberTarget × Nat} (h : j < members.zipIdx.length),
      members.zipIdx[j] = e ↔ members[j]? = some e.1 ∧ e.2 = j := by
    intro j e h
    rw [List.length_zipIdx] at h
    rw [List.getElem_zipIdx, List.getElem?_eq_getElem h, Option.some_inj, Prod.ext_iff]
    simp [eq_comm]
  simp only [matching?, Option.map_eq_some_iff, List.find?_eq_some_iff_getElem]
  constructor
  · rintro ⟨⟨m, j⟩, ⟨hm, i, hi, hget, hbefore⟩, rfl⟩
    obtain ⟨hmember, rfl⟩ := (hzip hi).1 hget
    refine ⟨⟨m, hmember, (hmay m j).1 hm⟩, fun k other hk hother hfeeds => ?_⟩
    have hlt : k < members.zipIdx.length := Nat.lt_trans hk hi
    have hnot := hbefore k hk
    rw [(hzip (e := (other, k)) hlt).2 ⟨hother, rfl⟩] at hnot
    rw [Bool.not_eq_true', ← Bool.not_eq_true] at hnot
    exact hnot ((hmay other k).2 hfeeds)
  · rintro ⟨⟨m, hmember, hm⟩, hbefore⟩
    have hlt : place < members.zipIdx.length := by
      rw [List.length_zipIdx]
      exact (List.getElem?_eq_some_iff.1 hmember).1
    refine ⟨(m, place), ⟨(hmay m place).2 hm, place, hlt, (hzip hlt).2 ⟨hmember, rfl⟩, ?_⟩, rfl⟩
    intro k hk
    have hk' : k < members.length := by
      rw [List.length_zipIdx] at hlt
      exact Nat.lt_trans hk hlt
    rw [Bool.not_eq_true', ← Bool.not_eq_true, List.getElem_zipIdx, Nat.zero_add]
    exact fun hfeeds => hbefore k _ hk (List.getElem?_eq_getElem hk') ((hmay _ k).1 hfeeds)

/-- What is placed behind a parameter does not change what feeds it. -/
theorem getElem?_placeMatching {e : List (MemberTarget × Nat)} {ps : List Parameter} {n i : Nat}
    (h : i < n) : (placeMatching strategy e feeds (ps.zipIdx n))[i]? = feeds[i]? := by
  induction ps generalizing feeds n with
  | nil => rfl
  | cons p ps ih =>
    rw [List.zipIdx_cons, placeMatching]
    have hrest : i < n + 1 := Nat.lt_succ_of_lt h
    split
    · split
      · rw [ih hrest, List.getElem?_set_ne (Nat.ne_of_gt h)]
      · exact ih hrest
    · exact ih hrest

/-- If members feed the parameters before one, it is fed by the first that may, or stays free. -/
theorem placeMatching_cons (strategy : NameStrategy) (members : List MemberTarget) (taken : List Nat)
    (p : Parameter) (ps : List Parameter) :
    placeMatching strategy members.zipIdx (ofPlaces taken ++ List.replicate (ps.length + 1) none)
        ((p :: ps).zipIdx taken.length) =
      match matching? strategy members.zipIdx (ofPlaces taken) p with
      | some place => placeMatching strategy members.zipIdx
          (ofPlaces (taken ++ [place]) ++ List.replicate ps.length none) (ps.zipIdx (taken.length + 1))
      | none => placeMatching strategy members.zipIdx
          (ofPlaces taken ++ List.replicate (ps.length + 1) none) (ps.zipIdx (taken.length + 1)) := by
  have hfree : (ofPlaces taken ++ List.replicate (ps.length + 1) none)[taken.length]? =
      some none := by
    rw [getElem?_ofPlaces_append]
    rfl
  have huses : matching? strategy members.zipIdx
      (ofPlaces taken ++ List.replicate (ps.length + 1) none) p =
        matching? strategy members.zipIdx (ofPlaces taken) p := by
    simp only [matching?, uses_append_free]
  rw [List.zipIdx_cons, placeMatching, if_pos hfree, huses]
  cases matching? strategy members.zipIdx (ofPlaces taken) p with
  | some place => simp only [set_ofPlaces_free]
  | none => rfl

/-- A member that feeds a parameter behind fed ones is the first that may. -/
theorem matching?_of_placeMatching {taken places : List Nat} {p : Parameter} {ps : List Parameter}
    {place : Nat} (h : placeMatching strategy members.zipIdx
      (ofPlaces taken ++ List.replicate (ps.length + 1) none) ((p :: ps).zipIdx taken.length) =
        ofPlaces (taken ++ place :: places)) :
    matching? strategy members.zipIdx (ofPlaces taken) p = some place := by
  rw [placeMatching_cons] at h
  have hfirst := congrArg (·[taken.length]?) h
  have hplace : (ofPlaces (taken ++ place :: places))[taken.length]? = some (some (.member place)) := by
    rw [ofPlaces_append, getElem?_ofPlaces_append]
    rfl
  simp only [hplace] at hfirst
  cases hmatch : matching? strategy members.zipIdx (ofPlaces taken) p with
  | none =>
    simp only [hmatch, getElem?_placeMatching (Nat.lt_succ_self _), getElem?_ofPlaces_append] at hfirst
    cases hfirst
  | some found =>
    simp only [hmatch, getElem?_placeMatching (Nat.lt_succ_self _), ofPlaces_append, List.append_assoc,
      getElem?_ofPlaces_append] at hfirst
    cases hfirst
    rfl

/-- Members feed parameters in order if each is the first that may, once those before it are taken. -/
theorem placeMatching_eq_iff (strategy : NameStrategy) (members : List MemberTarget) (taken : List Nat)
    {places : List Nat} {ps : List Parameter} (hlength : places.length = ps.length) :
    placeMatching strategy members.zipIdx (ofPlaces taken ++ List.replicate ps.length none)
        (ps.zipIdx taken.length) = ofPlaces (taken ++ places) ↔
      ∀ i p place, ps[i]? = some p → places[i]? = some place →
        matching? strategy members.zipIdx (ofPlaces (taken ++ places.take i)) p = some place := by
  induction ps generalizing taken places with
  | nil =>
    obtain rfl := List.length_eq_zero_iff.1 hlength
    simp [placeMatching]
  | cons p ps ih =>
    obtain _ | ⟨place, places⟩ := places
    · cases hlength
    -- the parameters behind the first, once its member is taken
    have hrest := ih (taken ++ [place]) (Nat.succ.inj hlength)
    simp only [List.length_append, List.length_singleton, List.append_assoc,
      List.singleton_append] at hrest
    constructor
    · intro h
      have hfirst := matching?_of_placeMatching h
      rw [List.length_cons, placeMatching_cons, hfirst] at h
      intro i q next hq hnext
      cases i with
      | zero =>
        cases hq
        cases hnext
        rw [List.take_zero, List.append_nil]
        exact hfirst
      | succ i => exact hrest.1 h i q next hq hnext
    · intro h
      have hfirst := h 0 p place rfl rfl
      rw [List.take_zero, List.append_nil] at hfirst
      rw [List.length_cons, placeMatching_cons, hfirst]
      exact hrest.2 fun i q next hq hnext => h (i + 1) q next hq hnext

/-- Nothing is unfed if members feed all parameters. -/
theorem unfed_ofPlaces (parameters : List Parameter) (places : List Nat) :
    unfed parameters (ofPlaces places) = [] := by
  refine List.filterMap_eq_nil_iff.2 ?_
  rintro ⟨p, feed⟩ hmem
  obtain ⟨place, -, rfl⟩ := List.mem_map.1 (List.of_mem_zip hmem).2
  rfl

end Fitting

/-! ## Listing the members of a descriptor -/

namespace Configuration

/-- Where the entry for a name stands. -/
def placeOf (c : Configuration) (name : String) : Nat :=
  c.members.findIdx (·.name == name)

/-- Each parameter is fed by the entry for its own member. -/
def ownFeeds (c : Configuration) (parameters : List ConstructorParameter) : Feeds :=
  .ofPlaces (parameters.map fun p => c.placeOf p.member)

/-- A configuration leaves it to the names of its members which parameters they feed. -/
structure LeavesOpen (c : Configuration) : Prop where
  /-- No constructor is chosen. -/
  constructor : c.constructor? = none
  /-- No parameter is configured by itself. -/
  parameters : c.parameters = []
  /-- No entry names a parameter or insists on one. -/
  unnamed : ∀ mt ∈ c.members, mt.parameter? = none ∧ mt.placement ≠ .parameter

/-- A configuration lists the bound members of a descriptor, each once, and leaves it to their names which
parameters they feed. -/
structure Lists (c : Configuration) (d : Descriptor) : Prop where
  /-- No constructor is chosen. -/
  constructor : c.constructor? = none
  /-- No parameter is configured by itself. -/
  parameters : c.parameters = []
  /-- No entry names a parameter or insists on one. -/
  unnamed : ∀ mt ∈ c.members, mt.parameter? = none ∧ mt.placement ≠ .parameter
  /-- No name has two entries. -/
  nodup : (c.members.map (·.name)).Nodup
  /-- Bound members have an entry that the constructor may take. -/
  bound : ∀ m ∈ d.members, m.binding.isBound = true →
    ∃ mt ∈ c.members, mt.name = m.name ∧ mt.placement = .auto

/-- The names of parameters that are named after their members lead back to the members. -/
structure LeadsBack (c : Configuration) (d : Descriptor) : Prop where
  /-- The camel-case form of a bound member's name is its own camel-case form. -/
  stable : ∀ m ∈ d.members, m.binding.isBound = true → camel (camel m.name) = camel m.name
  /-- No entry before a member's own, of those that the constructor may take, has the same camel-case form. -/
  first : ∀ m ∈ d.members, m.binding.isBound = true → ∀ place mt, c.members[place]? = some mt →
    mt.placement ≠ .member → camel mt.name = camel m.name → c.placeOf m.name ≤ place

variable {c : Configuration} {d : Descriptor} {strategy : NameStrategy}

theorem Lists.leavesOpen (h : c.Lists d) : c.LeavesOpen :=
  ⟨h.constructor, h.parameters, h.unnamed⟩

/-- The entry for a name is the only one. -/
theorem Lists.placeOf_eq (h : c.Lists d) {place : Nat} {mt : MemberTarget}
    (hmt : c.members[place]? = some mt) : c.placeOf mt.name = place := by
  have hfound : c.placeOf mt.name < c.members.length :=
    List.findIdx_lt_length_of_exists ⟨mt, List.mem_of_getElem? hmt, beq_self_eq_true _⟩
  have hname : (c.members[c.placeOf mt.name].name == mt.name) = true :=
    List.findIdx_getElem (w := hfound)
  have hlt : c.placeOf mt.name < (c.members.map (·.name)).length := by rwa [List.length_map]
  refine (List.getElem?_inj hlt h.nodup).1 ?_
  rw [List.getElem?_map, List.getElem?_map, hmt, List.getElem?_eq_getElem hfound, Option.map_some,
    Option.map_some, beq_iff_eq.1 hname]

/-- Bound members have their entries where they are looked for. -/
theorem Lists.entry (h : c.Lists d) {m : MemberDescriptor} (hm : m ∈ d.members)
    (hb : m.binding.isBound = true) : ∃ mt, c.members[c.placeOf m.name]? = some mt ∧
      mt.name = m.name ∧ mt.placement = .auto := by
  obtain ⟨mt, hmt, hname, hplacement⟩ := h.bound m hm hb
  obtain ⟨place, hplace⟩ := List.mem_iff_getElem?.1 hmt
  rw [← hname, h.placeOf_eq hplace]
  exact ⟨mt, hplace, rfl, hplacement⟩

end Configuration

namespace Fitting

open Feeds

variable {c : Configuration} {d : Descriptor} {strategy : NameStrategy}

/-- Only names decide what feeds a constructor. -/
theorem placeAll_of_leavesOpen (h : c.LeavesOpen) (parameters : List Parameter) :
    placeAll parameters c strategy = .ok (placeMatching strategy c.members.zipIdx
      (List.replicate parameters.length none) parameters.zipIdx) := by
  have hnamed : ∀ (entries : List (MemberTarget × Nat)) (feeds : Feeds),
      (∀ e ∈ entries, e.1.parameter? = none) → placeNamed parameters feeds entries = .ok feeds := by
    intro entries feeds hentries
    induction entries with
    | nil => rfl
    | cons e rest ih =>
      have he := hentries e (List.mem_cons_self ..)
      rw [placeNamed, he]
      exact ih fun e' he' => hentries e' (List.mem_cons_of_mem _ he')
  have hmem : ∀ e ∈ c.members.zipIdx, e.1 ∈ c.members :=
    fun e he => List.mem_of_getElem? (List.mem_zipIdx_iff_getElem?.1 he)
  rw [placeAll, h.parameters]
  refine bind_eq_ok.2 ⟨_, rfl, bind_eq_ok.2 ⟨_, hnamed _ _ fun e he => (h.unnamed _ (hmem e he)).1, ?_⟩⟩
  simp only
  split
  · rename_i mt place hfound
    have hplacement := (h.unnamed _ (hmem _ (List.mem_of_find?_eq_some hfound))).2
    have hmissed := List.find?_some hfound
    simp [hplacement] at hmissed
  · rfl

/-- A constructor fits if members feed its parameters in order, and the others can be assigned. -/
theorem fit_eq_bound_iff (h : c.LeavesOpen) {t : TypeTable} {r : ConstructorRef} {places : List Nat} :
    fit t c strategy r = .bound (ofPlaces places) ↔
      placeMatching strategy c.members.zipIdx (List.replicate r.constructor.parameters.length none)
        r.constructor.parameters.zipIdx = ofPlaces places ∧
      ∀ place mt, c.members[place]? = some mt → place ∉ places → blocked t r.owner mt = false := by
  have hblocked : (c.members.zipIdx.find? fun e =>
      !(ofPlaces places).uses e.2 && blocked t r.owner e.1) = none ↔
        ∀ place mt, c.members[place]? = some mt → place ∉ places → blocked t r.owner mt = false := by
    simp only [List.find?_eq_none, Prod.forall, List.mem_zipIdx_iff_getElem?, Bool.and_eq_true,
      Bool.not_eq_true', not_and, Bool.not_eq_true, ← uses_ofPlaces]
    exact ⟨fun hall place mt hmt => hall mt place hmt, fun hall mt place hmt => hall place mt hmt⟩
  simp only [fit, placeAll_of_leavesOpen h]
  constructor
  · intro hfit
    split at hfit
    · cases hfit
    · split at hfit
      · cases hfit
      · rename_i hfound
        rw [Fit.bound.injEq] at hfit
        rw [hfit] at hfound
        exact ⟨hfit, hblocked.1 hfound⟩
  · rintro ⟨hmatching, hfree⟩
    simp only [hmatching, unfed_ofPlaces, hblocked.2 hfree, List.isEmpty_nil, Bool.not_true,
      Bool.false_eq_true, if_false]

/-- A constructor that takes nothing fits, unless something cannot be assigned. -/
theorem fit_of_no_parameters (h : c.LeavesOpen) (t : TypeTable) (strategy : NameStrategy) {r : ConstructorRef}
    (hr : r.constructor.parameters = []) :
    fit t c strategy r = .bound [] ∨ ∃ member, fit t c strategy r = .unassignable member := by
  simp only [fit, placeAll_of_leavesOpen h, hr, List.length_nil, List.replicate_zero, List.zipIdx_nil,
    placeMatching]
  have hunfed : unfed [] [] = [] := rfl
  simp only [hunfed, List.isEmpty_nil, Bool.not_true, Bool.false_eq_true, if_false]
  split
  · exact .inr ⟨_, rfl⟩
  · exact .inl rfl

/-- Of a constructor that takes nothing and one whose parameters are all fed, the second is chosen. -/
theorem resolve_of_pair (h : c.Lists d) {t : TypeTable} {target : TypeId} {r₀ r : ConstructorRef}
    (hconstructors : t.constructors target = [r₀, r]) (hr₀ : r₀.constructor.parameters = [])
    {places : List Nat} (hne : places ≠ []) (hfit : fit t c strategy r = .bound (ofPlaces places)) :
    resolve t target c strategy = .ok (r, ofPlaces places) := by
  have hpos : 0 < (ofPlaces places).consumed := by
    rw [consumed_ofPlaces]
    exact List.length_pos_iff.2 hne
  have hself : betterFit (r, ofPlaces places) (r, ofPlaces places) = false := by simp [betterFit]
  have hbetter : betterFit (r, ofPlaces places) (r₀, []) = true := by
    have hnone : Feeds.consumed [] = 0 := rfl
    simp [betterFit, hnone, hpos]
  have hworse : betterFit (r₀, []) (r, ofPlaces places) = false := by
    have hnone : Feeds.consumed [] = 0 := rfl
    simp [betterFit, hnone, hpos.ne]
  simp only [resolve, h.constructor, hconstructors, List.map_cons, List.map_nil, hfit]
  obtain hempty | ⟨member, hempty⟩ := fit_of_no_parameters h.leavesOpen t strategy hr₀
  · simp [choose, fitting, best, hempty, hself, hbetter, hworse]
  · simp [choose, fitting, best, hempty, hself]

/-- Entries feed the parameters of their own members if each is the first that may, once the entries for
the parameters before are taken. -/
theorem placeMatching_eq_ownFeeds {t : TypeTable} :
    placeMatching strategy c.members.zipIdx (List.replicate (d.parameters t).length none)
        ((d.parameters t).map (·.toParameter)).zipIdx = c.ownFeeds (d.parameters t) ↔
      ∀ (i : Nat) p, (d.parameters t)[i]? = some p → matching? strategy c.members.zipIdx
        (ofPlaces (((d.parameters t).map fun p => c.placeOf p.member).take i)) p.toParameter =
          some (c.placeOf p.member) := by
  have hlength : ((d.parameters t).map fun p => c.placeOf p.member).length =
      ((d.parameters t).map (·.toParameter)).length := by simp
  have hstart : ofPlaces [] ++ List.replicate ((d.parameters t).map (·.toParameter)).length none =
      List.replicate (d.parameters t).length (none : Option Feed) := by
    simp [ofPlaces]
  have hiff := placeMatching_eq_iff strategy c.members [] hlength
  rw [hstart] at hiff
  refine hiff.trans ?_
  simp only [List.nil_append, List.getElem?_map, Option.map_eq_some_iff]
  constructor
  · intro h i p hp
    exact h i _ _ ⟨p, hp, rfl⟩ ⟨p, hp, rfl⟩
  · rintro h i _ _ ⟨p, hp, rfl⟩ ⟨p', hp', rfl⟩
    obtain rfl : p = p' := Option.some.inj (hp.symm.trans hp')
    exact h i p hp

section LeadsBack

variable {t : TypeTable} {m : MemberDescriptor}

/-- An entry that an earlier parameter took has another camel-case form. -/
theorem camel_ne_of_taken (hd : d.Wellformed t) (h : c.Lists d)
    (hdefault : ∀ m ∈ d.members, m.binding.isBound = true → m.parameter? = none) (hm : m ∈ d.members)
    (hb : m.binding.isBound = true) {i : Nat}
    (hi : (d.parameters t)[i]? = some (Descriptor.parameterFor t m)) {place : Nat}
    (hused : place ∈ ((d.parameters t).map fun p => c.placeOf p.member).take i) {mt : MemberTarget}
    (hmt : c.members[place]? = some mt) : camel mt.name ≠ camel m.name := by
  intro hcamel
  obtain ⟨k, hk, hget⟩ := List.mem_take_iff_getElem.1 hused
  obtain ⟨hki, hk⟩ := Nat.lt_min.1 hk
  rw [List.length_map] at hk
  rw [List.getElem_map] at hget
  obtain ⟨m', hm', hb', heq⟩ := Descriptor.mem_parameters_iff.1 (List.getElem_mem hk)
  obtain ⟨mt', hmt', hmtname', -⟩ := h.entry hm' hb'
  have hmember : ((d.parameters t)[k]).member = m'.name := by rw [heq]; rfl
  rw [hmember] at hget
  rw [hget, hmt] at hmt'
  cases hmt'
  -- two parameters would have one name
  have hsame : ((d.parameters t).map (·.name))[k]? = ((d.parameters t).map (·.name))[i]? := by
    rw [List.getElem?_map, List.getElem?_map, hi, List.getElem?_eq_getElem hk, heq, Option.map_some,
      Option.map_some, Descriptor.parameterFor_name (hdefault m hm hb),
      Descriptor.parameterFor_name (hdefault m' hm' hb'), ← hmtname', hcamel]
  exact Nat.ne_of_lt hki ((List.getElem?_inj (by rwa [List.length_map]) hd.parameterNames).1 hsame)

/-- If a name is stable, the entries that may feed the parameter for it are those with its camel-case form. -/
theorem mayFeed_own_iff (hd : d.Wellformed t) (h : c.Lists d)
    (hdefault : ∀ m ∈ d.members, m.binding.isBound = true → m.parameter? = none) (hm : m ∈ d.members)
    (hb : m.binding.isBound = true) (hstable : camel (camel m.name) = camel m.name) {i : Nat}
    (hi : (d.parameters t)[i]? = some (Descriptor.parameterFor t m)) {place : Nat} {mt : MemberTarget}
    (hmt : c.members[place]? = some mt) :
    MayFeed .camelCase (ofPlaces (((d.parameters t).map fun p => c.placeOf p.member).take i))
        (Descriptor.parameterFor t m).toParameter mt place ↔
      mt.placement ≠ .member ∧ camel mt.name = camel m.name := by
  have hmatches : NameStrategy.camelCase.parameterMatchesMember (Descriptor.parameterFor t m).name
      mt.name = true ↔ camel mt.name = camel m.name := by
    rw [Descriptor.parameterFor_name (hdefault m hm hb)]
    exact sameInCamelCase_camel_iff hstable
  constructor
  · rintro ⟨-, hplacement, -, hsame⟩
    exact ⟨hplacement, hmatches.1 hsame⟩
  · rintro ⟨hplacement, hcamel⟩
    refine ⟨?_, hplacement, (h.unnamed mt (List.mem_of_getElem? hmt)).1, hmatches.2 hcamel⟩
    rw [← Bool.not_eq_true, uses_ofPlaces]
    exact fun hused => camel_ne_of_taken hd h hdefault hm hb hi hused hmt hcamel

/-- Entries feed the parameters of their own members exactly if the names lead back to the members. -/
theorem placeMatching_eq_ownFeeds_iff (hd : d.Wellformed t) (h : c.Lists d)
    (hdefault : ∀ m ∈ d.members, m.binding.isBound = true → m.parameter? = none) :
    placeMatching .camelCase c.members.zipIdx (List.replicate (d.parameters t).length none)
        ((d.parameters t).map (·.toParameter)).zipIdx = c.ownFeeds (d.parameters t) ↔
      c.LeadsBack d := by
  have hplace : ∀ m ∈ d.members, m.binding.isBound = true → ∃ i : Nat,
      (d.parameters t)[i]? = some (Descriptor.parameterFor t m) := fun m hm hb =>
    List.mem_iff_getElem?.1 (Descriptor.mem_parameters_iff.2 ⟨m, hm, hb, rfl⟩)
  refine placeMatching_eq_ownFeeds.trans ⟨fun hmatch => ?_, ?_⟩
  · have hstable : ∀ m ∈ d.members, m.binding.isBound = true →
        camel (camel m.name) = camel m.name := by
      intro m hm hb
      obtain ⟨i, hi⟩ := hplace m hm hb
      obtain ⟨mt, hmt, hmtname, -⟩ := h.entry hm hb
      obtain ⟨⟨mt', hmt', -, -, -, hsame⟩, -⟩ := matching?_eq_some_iff.1 (hmatch i _ hi)
      obtain rfl : mt = mt' := Option.some.inj (hmt.symm.trans hmt')
      refine sameInCamelCase_camel_self.1 ?_
      rw [← Descriptor.parameterFor_name (t := t) (hdefault m hm hb), ← hmtname]
      exact hsame
    refine ⟨hstable, fun m hm hb place mt hmt hplacement hcamel => ?_⟩
    obtain ⟨i, hi⟩ := hplace m hm hb
    obtain ⟨-, hbefore⟩ := matching?_eq_some_iff.1 (hmatch i _ hi)
    by_contra hlt
    exact hbefore place mt (Nat.lt_of_not_le hlt) hmt
      ((mayFeed_own_iff hd h hdefault hm hb (hstable m hm hb) hi hmt).2 ⟨hplacement, hcamel⟩)
  · rintro ⟨hstable, hfirst⟩ i p hp
    obtain ⟨m, hm, hb, rfl⟩ := Descriptor.mem_parameters_iff.1 (List.mem_of_getElem? hp)
    obtain ⟨mt, hmt, hmtname, hplacement⟩ := h.entry hm hb
    refine matching?_eq_some_iff.2 ⟨⟨mt, hmt, ?_⟩, fun j mt' hj hmt' hmay => ?_⟩
    · refine (mayFeed_own_iff hd h hdefault hm hb (hstable m hm hb) hp hmt).2 ⟨?_, by rw [hmtname]⟩
      rw [hplacement]
      exact nofun
    · obtain ⟨hplacement', hcamel⟩ :=
        (mayFeed_own_iff hd h hdefault hm hb (hstable m hm hb) hp hmt').1 hmay
      exact Nat.not_le_of_lt hj (hfirst m hm hb j mt' hmt' hplacement' hcamel)

end LeadsBack

/-- A constructor that takes the bound members takes each from its own entry, exactly if the names lead back
to the members and all other entries can be assigned. -/
theorem fit_eq_ownFeeds_iff {t t' : TypeTable} (hd : d.Wellformed t) (h : c.Lists d)
    (hdefault : ∀ m ∈ d.members, m.binding.isBound = true → m.parameter? = none)
    {r : ConstructorRef} (hr : r.constructor.parameters = (d.parameters t).map (·.toParameter)) :
    fit t' c .camelCase r = .bound (c.ownFeeds (d.parameters t)) ↔
      c.LeadsBack d ∧ ∀ mt ∈ c.members,
        (∀ m ∈ d.members, m.binding.isBound = true → m.name ≠ mt.name) →
          blocked t' r.owner mt = false := by
  have hown : ∀ {place mt}, c.members[place]? = some mt →
      (place ∈ (d.parameters t).map (fun p => c.placeOf p.member) ↔
        ∃ m ∈ d.members, m.binding.isBound = true ∧ m.name = mt.name) := by
    intro place mt hmt
    constructor
    · intro hplace
      obtain ⟨p, hp, rfl⟩ := List.mem_map.1 hplace
      obtain ⟨m, hm, hb, rfl⟩ := Descriptor.mem_parameters_iff.1 hp
      obtain ⟨mt', hmt', hname, -⟩ := h.entry hm hb
      have hmt : c.members[c.placeOf m.name]? = some mt := hmt
      rw [hmt'] at hmt
      cases hmt
      exact ⟨m, hm, hb, hname.symm⟩
    · rintro ⟨m, hm, hb, hname⟩
      refine List.mem_map.2 ⟨_, Descriptor.mem_parameters_iff.2 ⟨m, hm, hb, rfl⟩, ?_⟩
      have hplace := h.placeOf_eq hmt
      rw [← hname] at hplace
      exact hplace
  refine (fit_eq_bound_iff h.leavesOpen).trans (and_congr ?_ ?_)
  · rw [hr, List.length_map]
    exact placeMatching_eq_ownFeeds_iff hd h hdefault
  · constructor
    · intro hfree mt hmt hnot
      obtain ⟨place, hplace⟩ := List.mem_iff_getElem?.1 hmt
      refine hfree place mt hplace fun hmem => ?_
      obtain ⟨m, hm, hb, hname⟩ := (hown hplace).1 hmem
      exact hnot m hm hb hname
    · intro hfree place mt hplace hmem
      refine hfree mt (List.mem_of_getElem? hplace) fun m hm hb hname => hmem ?_
      exact (hown hplace).2 ⟨m, hm, hb, hname⟩

/-- **When default names lead back.**  On a type that was just synthesized, a configuration that lists the
bound members is resolved to the constructor that takes them, each parameter fed by the entry of its own
member, exactly if the names lead back to the members and all other entries can be assigned. -/
theorem resolve_own_iff {e e' : Engine} {t t₁ t' : TypeTable} {id : TypeId}
    (hsynthesized : e.synthesize t d = .ok (t₁, e', id))
    (hfresh : ∀ r, e.registered? d.name = some r → r.signature ≠ d.signature)
    (hlater : t₁.Extends t') (h : c.Lists d)
    (hdefault : ∀ m ∈ d.members, m.binding.isBound = true → m.parameter? = none) :
    (∃ r ∈ t'.constructors id, r.constructor.parameters = (d.parameters t).map (·.toParameter) ∧
      resolve t' id c .camelCase = .ok (r, c.ownFeeds (d.parameters t))) ↔
    c.LeadsBack d ∧ ∀ mt ∈ c.members,
      (∀ m ∈ d.members, m.binding.isBound = true → m.name ≠ mt.name) → blocked t' id mt = false := by
  obtain ⟨hvalid, ⟨r, hr, hsignature, -⟩ | ⟨-, model, hbuild, rfl, rfl, -⟩⟩ :=
    Engine.synthesize_eq_ok hsynthesized
  · exact absurd hsignature (hfresh r hr)
  have hd := TypeTable.wellformed_of_validate hvalid
  have hmodel : t'.model t.size = model := by
    rw [hlater.model_eq (by simp), TypeTable.model_push_size]
  constructor
  · rintro ⟨r, -, hr, hresolve⟩
    obtain ⟨hfit, howner, -⟩ := fit_of_resolve hresolve
    rw [← howner]
    exact (fit_eq_ownFeeds_iff hd h hdefault hr).1 hfit
  · intro hleads
    obtain ⟨hnone, hconstructors⟩ | ⟨hsome, inits, hconstructors, -⟩ :=
      Descriptor.constructors_of_build hbuild
    · have hlist : t'.constructors t.size = [⟨t.size, 0, Descriptor.emptyConstructor⟩] := by
        simp [TypeTable.constructors, hmodel, hconstructors]
      have hr : Descriptor.emptyConstructor.parameters = (d.parameters t).map (·.toParameter) := by
        rw [hnone]
        rfl
      have hfit := (fit_eq_ownFeeds_iff hd h hdefault
        (r := ⟨t.size, 0, Descriptor.emptyConstructor⟩) hr).2 hleads
      refine ⟨_, by rw [hlist]; exact List.mem_singleton_self _, hr, ?_⟩
      simp only [resolve, h.constructor, hlist, hfit]
      rfl
    · have hlist : t'.constructors t.size = [⟨t.size, 0, Descriptor.emptyConstructor⟩,
          ⟨t.size, 1, d.assigningConstructor t inits⟩] := by
        simp [TypeTable.constructors, hmodel, hconstructors]
      have hfit := (fit_eq_ownFeeds_iff hd h hdefault
        (r := ⟨t.size, 1, d.assigningConstructor t inits⟩) rfl).2 hleads
      refine ⟨_, by rw [hlist]; simp, rfl, resolve_of_pair h hlist rfl ?_ hfit⟩
      simpa using hsome

/-! ## A record -/

/-- A record with one required member. -/
def record (name : String) : Descriptor :=
  ⟨"Record", none, [], [], [⟨name, .int32, false, .open, .open, .required, none⟩], []⟩

/-- The configuration that lists the member. -/
def recordConfiguration (name : String) : Configuration :=
  ⟨0, .declared 0, [.of (.name name)], [], none, none⟩

theorem lists_record (name : String) : (recordConfiguration name).Lists (record name) where
  constructor := rfl
  parameters := rfl
  unnamed := by simp [recordConfiguration, MemberTarget.of]
  nodup := List.nodup_singleton _
  bound := by simp [recordConfiguration, record, Descriptor.members, MemberDescriptor.name,
    MemberTarget.of, MemberTarget.name, ProjectedMember.text]

theorem synthesize_record {name : String}
    (hvalid : TypeTable.empty.validate .default (record name) = .ok ()) : ∃ t e,
    (Engine.new .default).synthesize .empty (record name) = .ok (t, e, 0) := by
  obtain ⟨m, hm⟩ := (TypeTable.wellformed_of_validate hvalid).exists_build
  exact ⟨_, _, Engine.synthesize_new hvalid hm⟩

theorem leadsBack_record_iff {name : String} :
    (recordConfiguration name).LeadsBack (record name) ↔ camel (camel name) = camel name := by
  constructor
  · exact fun h => h.stable (.property ⟨name, .int32, false, .open, .open, .required, none⟩)
      (by simp [record, Descriptor.members]) rfl
  · intro hstable
    have hname : ∀ m ∈ (record name).members, m.name = name := by
      simp [record, Descriptor.members, MemberDescriptor.name]
    refine ⟨fun m hm _ => by rw [hname m hm]; exact hstable, fun m hm _ place mt _ _ _ => ?_⟩
    have hzero : (recordConfiguration name).placeOf m.name = 0 := by
      simp [hname m hm, Configuration.placeOf, recordConfiguration, MemberTarget.of, MemberTarget.name,
        ProjectedMember.text, List.findIdx_cons]
    rw [hzero]
    exact Nat.zero_le place

/-- The member `X` is found again by the name of its parameter. -/
theorem resolve_own_at_record : ∃ t e, (Engine.new .default).synthesize .empty (record "X") =
      .ok (t, e, 0) ∧ ∃ r ∈ t.constructors 0,
    r.constructor.parameters = ((record "X").parameters .empty).map (·.toParameter) ∧
    resolve t 0 (recordConfiguration "X") .camelCase =
      .ok (r, (recordConfiguration "X").ownFeeds ((record "X").parameters .empty)) := by
  have hvalid : TypeTable.empty.validate .default (record "X") = .ok () :=
    TypeTable.validate_of_checks rfl rfl
  obtain ⟨t, e, hsynthesized⟩ := synthesize_record hvalid
  have hstable : camel (camel "X") = camel "X" := by decide +kernel
  refine ⟨t, e, hsynthesized, (resolve_own_iff hsynthesized (by simp [Engine.new, Engine.registered?])
    (.refl t) (lists_record "X") (by simp [record, Descriptor.members, MemberDescriptor.parameter?])).2
    ⟨leadsBack_record_iff.2 hstable, fun mt hmt hother => ?_⟩⟩
  obtain rfl := List.mem_singleton.1 hmt
  exact absurd rfl (hother (.property ⟨"X", .int32, false, .open, .open, .required, none⟩)
    (by simp [record, Descriptor.members]) rfl)

/-- **A default name need not lead back.**  The parameter for `a_b_c` is called `aBC`, which is not
recognised: its camel-case form is `aBc`. -/
theorem exists_not_leading_back : ¬∀ (e e' : Engine) (t t₁ t' : TypeTable) (id : TypeId) (d : Descriptor)
    (c : Configuration), e.synthesize t d = .ok (t₁, e', id) →
    (∀ r, e.registered? d.name = some r → r.signature ≠ d.signature) → t₁.Extends t' → c.Lists d →
    (∀ m ∈ d.members, m.binding.isBound = true → m.parameter? = none) →
    (∀ mt ∈ c.members, ∃ m ∈ d.members, m.binding.isBound = true ∧ m.name = mt.name) →
    ∃ r ∈ t'.constructors id, r.constructor.parameters = (d.parameters t).map (·.toParameter) ∧
      resolve t' id c .camelCase = .ok (r, c.ownFeeds (d.parameters t)) := by
  intro hall
  have hvalid : TypeTable.empty.validate .default (record "a_b_c") = .ok () :=
    TypeTable.validate_of_checks rfl rfl
  obtain ⟨t, e, hsynthesized⟩ := synthesize_record hvalid
  have hdefault : ∀ m ∈ (record "a_b_c").members, m.binding.isBound = true → m.parameter? = none := by
    simp [record, Descriptor.members, MemberDescriptor.parameter?]
  obtain ⟨r, -, hr, hresolve⟩ := hall _ _ _ _ t 0 (record "a_b_c") (recordConfiguration "a_b_c")
    hsynthesized (by simp [Engine.new, Engine.registered?]) (.refl t) (lists_record "a_b_c") hdefault
    (by simp [recordConfiguration, record, Descriptor.members, MemberDescriptor.name,
      MemberDescriptor.binding, ConstructorBinding.isBound, MemberTarget.of, MemberTarget.name,
      ProjectedMember.text])
  obtain ⟨hfit, -⟩ := fit_of_resolve hresolve
  obtain ⟨hleads, -⟩ := (fit_eq_ownFeeds_iff (TypeTable.wellformed_of_validate hvalid)
    (lists_record "a_b_c") hdefault hr).1 hfit
  have hnot : camel (camel "a_b_c") ≠ camel "a_b_c" := by decide +kernel
  exact hnot (leadsBack_record_iff.1 hleads)

end Fitting
end Reshape
