import Reshape.Projection.Fitting
import Reshape.Proofs.Model.Declared
import Reshape.Proofs.Outcome

/-!
# What feeds parameters

Feeds are placed at free parameters only, so what is placed stays (`Feeds.Fills`): every configured
parameter feeds the parameter that it selects, and whatever stands at a parameter was configured for it
and selects it (`Feeds.Placed`).  Nothing is placed twice (`Feeds.Distinct`).  A constructor that is
resolved belongs to the target, has its feeds placed so, and lacks the source of no required parameter
(`Fitting.resolved_of_resolve`).
-/

namespace Reshape

/-- A member may feed a parameter that it names or, if it names none, one whose name matches its own. -/
def MemberTarget.Selects (strategy : NameStrategy) (m : MemberTarget) (p : Parameter) : Prop :=
  m.parameter? = some p.name ∨
    m.parameter? = none ∧ strategy.parameterMatchesMember p.name m.name = true

namespace Feeds

/-- Later feeds keep what is placed. -/
def Fills (feeds feeds' : Feeds) : Prop :=
  ∀ (i : Nat) (feed : Feed), feeds[i]? = some (some feed) → feeds'[i]? = some (some feed)

theorem Fills.refl (feeds : Feeds) : feeds.Fills feeds := fun _ _ h => h

theorem Fills.trans {feeds₁ feeds₂ feeds₃ : Feeds} (h : feeds₁.Fills feeds₂)
    (h' : feeds₂.Fills feeds₃) : feeds₁.Fills feeds₃ :=
  fun i feed hfeed => h' i feed (h i feed hfeed)

/-- A free place can be filled. -/
theorem fills_set {feeds : Feeds} {i : Nat} (hfree : feeds[i]? = some none) (feed : Feed) :
    feeds.Fills (feeds.set i (some feed)) := by
  intro j other hother
  have hne : i ≠ j := by
    rintro rfl
    rw [hfree] at hother
    cases hother
  rw [List.getElem?_set_ne hne]
  exact hother

theorem uses_iff {feeds : Feeds} {place : Nat} :
    feeds.uses place = true ↔ ∃ i : Nat, feeds[i]? = some (some (.member place)) := by
  rw [uses, List.contains_iff_mem, List.mem_iff_getElem?]

/-- What is at a place was configured for it. -/
def Allowed (strategy : NameStrategy) (parameters : List Parameter) (c : Configuration) (i : Nat) :
    Feed → Prop
  | .member place => ∃ m p, c.members[place]? = some m ∧ parameters[i]? = some p ∧
      m.Selects strategy p
  | .parameter place => ∃ target, c.parameters[place]? = some target ∧
      Fitting.selected? parameters target.parameter = some i

/-- There is a place for each parameter, with what was configured for it, if anything. -/
structure Placed (strategy : NameStrategy) (parameters : List Parameter) (c : Configuration)
    (feeds : Feeds) : Prop where
  /-- Each parameter has a place. -/
  length : feeds.length = parameters.length
  /-- Feeds are where they may be. -/
  allowed : ∀ (i : Nat) (feed : Feed), feeds[i]? = some (some feed) →
    Allowed strategy parameters c i feed

variable {strategy : NameStrategy} {parameters : List Parameter} {c : Configuration}
  {feeds feeds' : Feeds}

theorem placed_free (strategy : NameStrategy) (parameters : List Parameter) (c : Configuration) :
    Placed strategy parameters c (List.replicate parameters.length none) := by
  refine ⟨List.length_replicate, fun i feed hfeed => ?_⟩
  simp [List.getElem?_replicate] at hfeed

/-- Once a feed is placed, it feeds its parameter, and the others are fed as before. -/
theorem getElem?_set_eq_some {i j : Nat} {feed other : Feed}
    (h : (feeds.set i (some feed))[j]? = some (some other)) :
    i = j ∧ feed = other ∨ feeds[j]? = some (some other) := by
  by_cases hij : i = j
  · subst hij
    have hlt := (List.getElem?_eq_some_iff.1 h).1
    rw [List.length_set] at hlt
    rw [List.getElem?_set_self hlt] at h
    exact .inl ⟨rfl, Option.some.inj (Option.some.inj h)⟩
  · rw [List.getElem?_set_ne hij] at h
    exact .inr h

theorem Placed.set (h : Placed strategy parameters c feeds) {i : Nat} {feed : Feed}
    (hfeed : Allowed strategy parameters c i feed) :
    Placed strategy parameters c (feeds.set i (some feed)) := by
  refine ⟨by rw [List.length_set]; exact h.length, fun j other hother => ?_⟩
  rcases getElem?_set_eq_some hother with ⟨rfl, rfl⟩ | hother
  · exact hfeed
  · exact h.allowed j other hother

/-- Nothing feeds two parameters. -/
def Distinct (feeds : Feeds) : Prop :=
  ∀ (i j : Nat) (feed : Feed), feeds[i]? = some (some feed) → feeds[j]? = some (some feed) → i = j

theorem distinct_free (n : Nat) : Distinct (List.replicate n none) := by
  intro i j feed hi
  simp [List.getElem?_replicate] at hi

/-- Placing a feed places no other one. -/
theorem mem_of_mem_set {feeds : Feeds} {i : Nat} {feed other : Feed} (hne : other ≠ feed)
    (h : some other ∈ feeds.set i (some feed)) : some other ∈ feeds := by
  rcases List.mem_or_eq_of_mem_set h with h | h
  · exact h
  · exact absurd (Option.some.inj h) hne

/-- What is not placed yet may be placed anywhere. -/
theorem Distinct.set (h : feeds.Distinct) {feed : Feed} (hnew : some feed ∉ feeds) (i : Nat) :
    Distinct (feeds.set i (some feed)) := by
  intro j k other hj hk
  rcases getElem?_set_eq_some hj with ⟨rfl, rfl⟩ | hj
  · rcases getElem?_set_eq_some hk with ⟨rfl, -⟩ | hk
    · rfl
    · exact absurd (List.mem_of_getElem? hk) hnew
  · rcases getElem?_set_eq_some hk with ⟨-, rfl⟩ | hk
    · exact absurd (List.mem_of_getElem? hj) hnew
    · exact h j k other hj hk

/-- Placing sets a free place. -/
theorem place?_eq_some {index? : Option Nat} {feed : Feed}
    (h : feeds.place? index? feed = some feeds') : ∃ i, index? = some i ∧
      feeds[i]? = some none ∧ feeds' = feeds.set i (some feed) := by
  obtain ⟨i, hi, h⟩ := Option.bind_eq_some_iff.1 h
  split at h
  · rename_i hfree
    cases h
    exact ⟨i, hi, hfree, rfl⟩
  · cases h

end Feeds

namespace Fitting

open Feeds

variable {parameters : List Parameter} {c : Configuration} {feeds feeds' : Feeds}
  {strategy : NameStrategy}

/-! ## Placing -/

theorem placed_placeParameters (h : Placed strategy parameters c feeds)
    {targets : List (ParameterTarget × Nat)}
    (htargets : ∀ target ∈ targets, c.parameters[target.2]? = some target.1)
    (hplace : placeParameters parameters feeds targets = .ok feeds') :
    Placed strategy parameters c feeds' ∧ feeds.Fills feeds' ∧ ∀ target ∈ targets, ∃ i,
      selected? parameters target.1.parameter = some i ∧
        feeds'[i]? = some (some (.parameter target.2)) := by
  induction targets generalizing feeds with
  | nil =>
    cases hplace
    exact ⟨h, .refl _, by simp⟩
  | cons target rest ih =>
    simp only [placeParameters] at hplace
    split at hplace
    · rename_i feeds₁ hfirst
      obtain ⟨i, hi, hfree, rfl⟩ := place?_eq_some hfirst
      have htarget := htargets target (List.mem_cons_self ..)
      have hallowed : Allowed strategy parameters c i (.parameter target.2) := ⟨target.1, htarget, hi⟩
      obtain ⟨hplaced, hfills, hrest⟩ := ih (h.set hallowed)
        (fun a ha => htargets a (List.mem_cons_of_mem _ ha)) hplace
      refine ⟨hplaced, (fills_set hfree _).trans hfills, List.forall_mem_cons.2 ⟨⟨i, hi, ?_⟩, hrest⟩⟩
      exact hfills i _ (List.getElem?_set_self (List.getElem?_eq_some_iff.1 hfree).1)
    · cases hplace

theorem placed_placeNamed (h : Placed strategy parameters c feeds) {members : List (MemberTarget × Nat)}
    (hmembers : ∀ m ∈ members, c.members[m.2]? = some m.1)
    (hplace : placeNamed parameters feeds members = .ok feeds') :
    Placed strategy parameters c feeds' ∧ feeds.Fills feeds' := by
  induction members generalizing feeds with
  | nil =>
    cases hplace
    exact ⟨h, .refl _⟩
  | cons m rest ih =>
    have hrest : ∀ a ∈ rest, c.members[a.2]? = some a.1 :=
      fun a ha => hmembers a (List.mem_cons_of_mem _ ha)
    simp only [placeNamed] at hplace
    split at hplace
    · exact ih h hrest hplace
    · rename_i name hname
      split at hplace
      · rename_i feeds₁ hfirst
        obtain ⟨i, hi, hfree, rfl⟩ := place?_eq_some hfirst
        obtain ⟨hlt, hmatch, -⟩ := List.findIdx?_eq_some_iff_getElem.1 hi
        have hallowed : Allowed strategy parameters c i (.member m.2) :=
          ⟨m.1, _, hmembers m (List.mem_cons_self ..), List.getElem?_eq_getElem hlt,
            .inl (hname.trans (congrArg some (beq_iff_eq.1 hmatch).symm))⟩
        obtain ⟨hplaced, hfills⟩ := ih (h.set hallowed) hrest hplace
        exact ⟨hplaced, (fills_set hfree _).trans hfills⟩
      · cases hplace

theorem placed_placeMatching (strategy : NameStrategy) (h : Placed strategy parameters c feeds)
    {members : List (MemberTarget × Nat)} (hmembers : ∀ m ∈ members, c.members[m.2]? = some m.1)
    {ps : List (Parameter × Nat)} (hps : ∀ p ∈ ps, parameters[p.2]? = some p.1) :
    Placed strategy parameters c (placeMatching strategy members feeds ps) ∧
      feeds.Fills (placeMatching strategy members feeds ps) := by
  induction ps generalizing feeds with
  | nil => exact ⟨h, .refl feeds⟩
  | cons p rest ih =>
    have hrest : ∀ q ∈ rest, parameters[q.2]? = some q.1 :=
      fun q hq => hps q (List.mem_cons_of_mem _ hq)
    rw [placeMatching]
    split
    · rename_i hfree
      split
      · rename_i place hmatching
        obtain ⟨m, hm, rfl⟩ := Option.map_eq_some_iff.1 hmatching
        have hfound := List.find?_some hm
        simp only [Bool.and_eq_true, Option.isNone_iff_eq_none] at hfound
        have hallowed : Allowed strategy parameters c p.2 (.member m.2) :=
          ⟨m.1, p.1, hmembers m (List.mem_of_find?_eq_some hm), hps p (List.mem_cons_self ..),
            .inr ⟨hfound.1.2, hfound.2⟩⟩
        obtain ⟨hplaced, hfills⟩ := ih (h.set hallowed) hrest
        exact ⟨hplaced, (fills_set hfree _).trans hfills⟩
      · exact ih h hrest
    · exact ih h hrest

/-- The feeds of a constructor are placed, and every configured parameter among them. -/
theorem placed_placeAll (h : placeAll parameters c strategy = .ok feeds) :
    Placed strategy parameters c feeds ∧ ∀ target place, c.parameters[place]? = some target → ∃ i,
      selected? parameters target.parameter = some i ∧
        feeds[i]? = some (some (.parameter place)) := by
  obtain ⟨feeds₁, h₁, h⟩ := bind_eq_ok.1 h
  obtain ⟨feeds₂, h₂, h⟩ := bind_eq_ok.1 h
  have hmembers : ∀ m ∈ c.members.zipIdx, c.members[m.2]? = some m.1 :=
    fun m hm => List.mem_zipIdx_iff_getElem?.1 hm
  obtain ⟨hplaced₁, -, htargets⟩ := placed_placeParameters (placed_free strategy parameters c)
    (fun target htarget => List.mem_zipIdx_iff_getElem?.1 htarget) h₁
  obtain ⟨hplaced₂, hfills₂⟩ := placed_placeNamed hplaced₁ hmembers h₂
  have hparameters : ∀ p ∈ parameters.zipIdx, parameters[p.2]? = some p.1 :=
    fun p hp => List.mem_zipIdx_iff_getElem?.1 hp
  obtain ⟨hplaced₃, hfills₃⟩ := placed_placeMatching strategy hplaced₂ hmembers hparameters
  simp only at h
  split at h
  · cases h
  · cases h
    refine ⟨hplaced₃, fun target place hplace => ?_⟩
    obtain ⟨i, hi, hfeed⟩ := htargets (target, place) (List.mem_zipIdx_iff_getElem?.2 hplace)
    exact ⟨i, hi, hfills₃ i _ (hfills₂ i _ hfeed)⟩

/-! ## Placing once -/

/-- The configured parameters that are placed are different, and only parameters are added. -/
theorem distinct_placeParameters (h : feeds.Distinct) {targets : List (ParameterTarget × Nat)}
    (hnodup : (targets.map (·.2)).Nodup)
    (hnew : ∀ target ∈ targets, some (.parameter target.2) ∉ feeds)
    (hplace : placeParameters parameters feeds targets = .ok feeds') :
    feeds'.Distinct ∧ ∀ place, some (.member place) ∈ feeds' → some (.member place) ∈ feeds := by
  induction targets generalizing feeds with
  | nil =>
    cases hplace
    exact ⟨h, fun _ => id⟩
  | cons target rest ih =>
    obtain ⟨hfirst, hnodup⟩ := List.nodup_cons.1 hnodup
    obtain ⟨hnewFirst, hnew⟩ := List.forall_mem_cons.1 hnew
    simp only [placeParameters] at hplace
    split at hplace
    · rename_i feeds₁ hplaced
      obtain ⟨i, -, -, rfl⟩ := place?_eq_some hplaced
      have hrest : ∀ other ∈ rest, some (.parameter other.2) ∉ feeds.set i (some (.parameter target.2)) := by
        intro other hother hmem
        have hne : Feed.parameter other.2 ≠ .parameter target.2 := fun heq =>
          hfirst (List.mem_map.2 ⟨other, hother, Feed.parameter.inj heq⟩)
        exact hnew other hother (mem_of_mem_set hne hmem)
      obtain ⟨hdistinct, hmembers⟩ := ih (h.set hnewFirst i) hnodup hrest hplace
      have hkind : ∀ place, Feed.member place ≠ .parameter target.2 := nofun
      exact ⟨hdistinct, fun place hmem => mem_of_mem_set (hkind place) (hmembers place hmem)⟩
    · cases hplace

/-- Members that name a parameter are placed once. -/
theorem distinct_placeNamed (h : feeds.Distinct) {members : List (MemberTarget × Nat)}
    (hnodup : (members.map (·.2)).Nodup) (hnew : ∀ m ∈ members, some (.member m.2) ∉ feeds)
    (hplace : placeNamed parameters feeds members = .ok feeds') : feeds'.Distinct := by
  induction members generalizing feeds with
  | nil =>
    cases hplace
    exact h
  | cons m rest ih =>
    obtain ⟨hfirst, hnodup⟩ := List.nodup_cons.1 hnodup
    obtain ⟨hnewFirst, hnew⟩ := List.forall_mem_cons.1 hnew
    simp only [placeNamed] at hplace
    split at hplace
    · exact ih h hnodup hnew hplace
    · split at hplace
      · rename_i feeds₁ hplaced
        obtain ⟨i, -, -, rfl⟩ := place?_eq_some hplaced
        refine ih (h.set hnewFirst i) hnodup (fun other hother hmem => ?_) hplace
        have hne : Feed.member other.2 ≠ .member m.2 := fun heq =>
          hfirst (List.mem_map.2 ⟨other, hother, Feed.member.inj heq⟩)
        exact hnew other hother (mem_of_mem_set hne hmem)
      · cases hplace

/-- A member that is matched by name is not placed yet. -/
theorem distinct_placeMatching (strategy : NameStrategy) (members : List (MemberTarget × Nat))
    (h : feeds.Distinct) (ps : List (Parameter × Nat)) :
    (placeMatching strategy members feeds ps).Distinct := by
  induction ps generalizing feeds with
  | nil => exact h
  | cons p rest ih =>
    rw [placeMatching]
    split
    · split
      · rename_i place hmatching
        obtain ⟨m, hm, rfl⟩ := Option.map_eq_some_iff.1 hmatching
        have hfound := List.find?_some hm
        simp only [Bool.and_eq_true, Bool.not_eq_true'] at hfound
        refine ih (h.set (fun hmem => ?_) p.2)
        have huses : feeds.uses m.2 = true := by rwa [uses, List.contains_iff_mem]
        rw [hfound.1.1.1] at huses
        cases huses
      · exact ih h
    · exact ih h

/-- Nothing that a constructor takes feeds two of its parameters. -/
theorem distinct_placeAll (h : placeAll parameters c strategy = .ok feeds) : feeds.Distinct := by
  obtain ⟨feeds₁, h₁, h⟩ := bind_eq_ok.1 h
  obtain ⟨feeds₂, h₂, h⟩ := bind_eq_ok.1 h
  have hplaces : ∀ {α : Type} (l : List α), (l.zipIdx.map (·.2)).Nodup := by
    intro α l
    rw [List.zipIdx_map_snd]
    exact List.nodup_range'
  have hfree : ∀ feed, some feed ∉ List.replicate parameters.length (none : Option Feed) :=
    fun feed hmem => by simpa using List.eq_of_mem_replicate hmem
  obtain ⟨hdistinct₁, hmembers⟩ := distinct_placeParameters (distinct_free parameters.length)
    (hplaces c.parameters) (fun target _ => hfree _) h₁
  have hdistinct₂ := distinct_placeNamed hdistinct₁ (hplaces c.members)
    (fun m _ hmem => hfree _ (hmembers m.2 hmem)) h₂
  simp only at h
  split at h
  · cases h
  · cases h
    exact distinct_placeMatching strategy c.members.zipIdx hdistinct₂ parameters.zipIdx

/-! ## Resolving -/

/-- What is known of a constructor that a configuration is bound to, and of its feeds. -/
structure Resolved (t : TypeTable) (strategy : NameStrategy) (target : TypeId) (c : Configuration)
    (r : ConstructorRef) (feeds : Feeds) : Prop where
  /-- The constructor makes objects of the target. -/
  owner : r.owner = target
  /-- It was chosen, or is a constructor of the target. -/
  origin : c.constructor? = some r ∨ r ∈ t.constructors target
  /-- Its feeds are placed. -/
  placed : Placed strategy r.constructor.parameters c feeds
  /-- Every configured parameter feeds the parameter that it selects. -/
  configured : ∀ target place, c.parameters[place]? = some target → ∃ i,
    selected? r.constructor.parameters target.parameter = some i ∧
      feeds[i]? = some (some (.parameter place))
  /-- Nothing feeds two parameters. -/
  distinct : feeds.Distinct
  /-- What nothing feeds has a default. -/
  optional : ∀ (i : Nat) (p : Parameter), r.constructor.parameters[i]? = some p → feeds[i]? = some none →
    p.isOptional = true

theorem unfed_eq_nil (h : unfed parameters feeds = []) {i : Nat} {p : Parameter}
    (hp : parameters[i]? = some p) (hfeed : feeds[i]? = some none) : p.isOptional = true := by
  have hzip : (p, none) ∈ parameters.zip feeds :=
    List.mem_of_getElem? (List.getElem?_zip_eq_some.2 ⟨hp, hfeed⟩)
  have hnone := List.filterMap_eq_nil_iff.1 h (p, none) hzip
  simpa using hnone

theorem resolved_of_fit {t : TypeTable} {target : TypeId} {r : ConstructorRef}
    (howner : r.owner = target) (horigin : c.constructor? = some r ∨ r ∈ t.constructors target)
    (h : fit t c strategy r = .bound feeds) : Resolved t strategy target c r feeds := by
  simp only [fit] at h
  split at h
  · cases h
  · rename_i feeds₁ hall
    split at h
    · cases h
    · rename_i hmissing
      split at h
      · cases h
      · cases h
        obtain ⟨hplaced, hconfigured⟩ := placed_placeAll hall
        have hnil : unfed r.constructor.parameters feeds = [] := by simpa using hmissing
        exact ⟨howner, horigin, hplaced, hconfigured, distinct_placeAll hall,
          fun i p hp hfeed => unfed_eq_nil hnil hp hfeed⟩

theorem accept_eq_ok {r : ConstructorRef} {f : Fit} (h : accept r f = .ok feeds) :
    f = .bound feeds := by
  cases f <;> cases h
  rfl

theorem mem_fitting {fits : List (ConstructorRef × Fit)} {r : ConstructorRef}
    (h : (r, feeds) ∈ fitting fits) : (r, .bound feeds) ∈ fits := by
  obtain ⟨⟨r', f⟩, hmem, h⟩ := List.mem_filterMap.1 h
  cases f <;> cases h
  exact hmem

theorem choose_eq_ok {target : TypeId} {fits : List (ConstructorRef × Fit)} {r : ConstructorRef}
    (h : choose target c fits = .ok (r, feeds)) : (r, .bound feeds) ∈ fits := by
  unfold choose at h
  split at h
  · cases h
  · rename_i one hbest
    cases h
    have hmem : (r, feeds) ∈ best betterFit (fitting fits) := by
      rw [hbest]
      exact List.mem_singleton_self _
    exact mem_fitting (List.mem_filter.1 hmem).1
  · cases h

/-- What a configuration is bound to fits, and is a chosen constructor or one of the target. -/
theorem fit_of_resolve {t : TypeTable} {target : TypeId} {r : ConstructorRef}
    (h : resolve t target c strategy = .ok (r, feeds)) : fit t c strategy r = .bound feeds ∧
      r.owner = target ∧ (c.constructor? = some r ∨ r ∈ t.constructors target) := by
  have hown : ∀ r' ∈ t.constructors target, r'.owner = target := by
    intro r' hr'
    obtain ⟨i, a, -, rfl⟩ := TypeTable.mem_zipIdx_map hr'
    rfl
  unfold resolve at h
  split at h
  · rename_i chosen hchosen
    split at h
    · rename_i howner
      obtain ⟨feeds', haccept, h⟩ := map_eq_ok.1 h
      cases h
      exact ⟨accept_eq_ok haccept, howner, .inl hchosen⟩
    · cases h
  · split at h
    · rename_i only honly
      obtain ⟨feeds', haccept, h⟩ := map_eq_ok.1 h
      cases h
      have hmem : r ∈ t.constructors target := by
        rw [honly]
        exact List.mem_singleton_self _
      exact ⟨accept_eq_ok haccept, hown r hmem, .inr hmem⟩
    · obtain ⟨r', hr', heq⟩ := List.mem_map.1 (choose_eq_ok h)
      rw [Prod.mk.injEq] at heq
      obtain ⟨rfl, hfit⟩ := heq
      exact ⟨hfit, hown _ hr', .inr hr'⟩

/-- **What a configuration is bound to.** -/
theorem resolved_of_resolve {t : TypeTable} {target : TypeId} {r : ConstructorRef}
    (h : resolve t target c strategy = .ok (r, feeds)) : Resolved t strategy target c r feeds := by
  obtain ⟨hfit, howner, horigin⟩ := fit_of_resolve h
  exact resolved_of_fit howner horigin hfit

end Fitting
end Reshape
