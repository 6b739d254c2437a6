import Mathlib.Data.List.Perm.Basic
import Mathlib.Data.Nat.Find
import Reshape.Proofs.Projection.NameMatching

/-!
# The order of configured members

Parameters are fed one after the other, each by the first entry that may.  Explicit placements commute, so
they give the same in any order of the entries (`Fitting.placeNamed_of_perm`), and where names leave one
entry at most to a parameter, nothing is left to the order (`Fitting.Determined`).  Where they leave two,
moving one of them to the front makes it the one that is taken.  So constructors take the same entries in
every order exactly if names determine the entries, or no order fits (`Fitting.taken_eq_iff`); compared as
they are, names always do (`Fitting.determined_exact`), but in camel case they need not
(`Fitting.exists_order_matters`).
-/

namespace Reshape

/-! ## Configurations with their members in another order -/

namespace Configuration

/-- The second configuration is the first with its members in another order. -/
structure Reorders (c c' : Configuration) : Prop where
  /-- The members are the same, in another order. -/
  members : c.members.Perm c'.members
  /-- Nothing else is different. -/
  rest : c' = { c with members := c'.members }

variable {c c' : Configuration}

theorem Reorders.parameters (h : c.Reorders c') : c'.parameters = c.parameters := by rw [h.rest]

theorem Reorders.symm (h : c.Reorders c') : c'.Reorders c := by
  refine ⟨h.members.symm, ?_⟩
  rw [h.rest]

/-- An entry may be moved to the front. -/
theorem exists_reorders_cons {m : MemberTarget} (hm : m ∈ c.members) :
    ∃ c' rest, c.Reorders c' ∧ c'.members = m :: rest := by
  obtain ⟨front, back, hsplit⟩ := List.append_of_mem hm
  refine ⟨{ c with members := m :: (front ++ back) }, front ++ back, ⟨?_, rfl⟩, rfl⟩
  rw [hsplit]
  exact List.perm_middle

/-- Each name keeps one entry. -/
theorem nodup_addMember (h : (c.members.map (·.name)).Nodup) (m : MemberTarget) :
    ((c.addMember m).members.map (·.name)).Nodup := by
  rw [addMember, List.map_append, List.map_singleton, List.nodup_append]
  refine ⟨h.sublist (List.filter_sublist.map _), List.nodup_singleton _, ?_⟩
  rintro name hname other hother rfl
  obtain ⟨entry, hentry, rfl⟩ := List.mem_map.1 hname
  rw [List.mem_singleton] at hother
  simpa [hother] using (List.mem_filter.1 hentry).2

/-- What a feed stands for. -/
def entry? (c : Configuration) : Feed → Option (MemberTarget ⊕ ParameterTarget)
  | .member place => c.members[place]?.map .inl
  | .parameter place => c.parameters[place]?.map .inr

theorem entry?_member {m : MemberTarget} {place : Nat} (h : c.members[place]? = some m) :
    c.entry? (.member place) = some (.inl m) := by
  rw [Configuration.entry?, h, Option.map_some]

theorem entry?_parameter {target : ParameterTarget} {place : Nat}
    (h : c.parameters[place]? = some target) : c.entry? (.parameter place) = some (.inr target) := by
  rw [Configuration.entry?, h, Option.map_some]

end Configuration

/-- What each parameter of a constructor that fits is fed by. -/
def Fitting.taken (t : TypeTable) (c : Configuration) (strategy : NameStrategy) (r : ConstructorRef) :
    Option (List (Option (MemberTarget ⊕ ParameterTarget))) :=
  match fit t c strategy r with
  | .bound feeds => some (feeds.map (·.bind c.entry?))
  | _ => none

/-! ## Feeds that stand for the same -/

namespace Feeds

variable {c c' : Configuration} {feeds feeds' : Feeds}

/-- Feeds of two configurations stand for the same. -/
inductive Counterpart (c c' : Configuration) : Option Feed → Option Feed → Prop
  /-- Both parameters are free. -/
  | free : Counterpart c c' none none
  /-- Both parameters are fed by the same entry. -/
  | fed {feed feed' : Feed} {entry : MemberTarget ⊕ ParameterTarget} (h : c.entry? feed = some entry)
      (h' : c'.entry? feed' = some entry) : Counterpart c c' (some feed) (some feed')

/-- All parameters are fed by the same entries. -/
abbrev Matches (c c' : Configuration) (feeds feeds' : Feeds) : Prop :=
  List.Forall₂ (Counterpart c c') feeds feeds'

theorem Counterpart.symm {x y : Option Feed} (h : Counterpart c c' x y) : Counterpart c' c y x := by
  cases h with
  | free => exact .free
  | fed h h' => exact .fed h' h

theorem Matches.symm (h : Matches c c' feeds feeds') : Matches c' c feeds' feeds :=
  h.flip.imp fun _ _ => Counterpart.symm

theorem matches_free (c c' : Configuration) (n : Nat) :
    Matches c c' (List.replicate n none) (List.replicate n none) :=
  List.forall₂_same.2 fun x hx => by
    rw [List.eq_of_mem_replicate hx]
    exact .free

/-- Parameters are fed by the same entries. -/
theorem Matches.map_entry? (h : Matches c c' feeds feeds') :
    feeds'.map (·.bind c'.entry?) = feeds.map (·.bind c.entry?) := by
  refine map_eq_of_forall₂ h fun x y hxy => ?_
  cases hxy with
  | free => rfl
  | fed h h' => exact h'.trans h.symm

/-- Parameters that are free for the one are free for the other. -/
theorem Matches.free (h : Matches c c' feeds feeds') {i : Nat} (hfree : feeds[i]? = some none) :
    feeds'[i]? = some none := by
  obtain ⟨y, hy, hxy⟩ := exists_getElem?_of_forall₂ h hfree
  cases hxy
  exact hy

theorem Matches.set (h : Matches c c' feeds feeds') {feed feed' : Feed}
    {entry : MemberTarget ⊕ ParameterTarget} (hfeed : c.entry? feed = some entry)
    (hfeed' : c'.entry? feed' = some entry) (i : Nat) :
    Matches c c' (feeds.set i (some feed)) (feeds'.set i (some feed')) := by
  induction h generalizing i with
  | nil => exact .nil
  | cons hxy hrest ih =>
    cases i with
    | zero => exact .cons (.fed hfeed hfeed') hrest
    | succ i => exact .cons hxy (ih i)

/-- What can be placed for the one can be placed for the other. -/
theorem Matches.place? (h : Matches c c' feeds feeds') {feed feed' : Feed}
    {entry : MemberTarget ⊕ ParameterTarget} (hfeed : c.entry? feed = some entry)
    (hfeed' : c'.entry? feed' = some entry) {index? : Option Nat} {placed : Feeds}
    (hplace : feeds.place? index? feed = some placed) :
    ∃ placed', feeds'.place? index? feed' = some placed' ∧ Matches c c' placed placed' := by
  obtain ⟨i, rfl, hfree, rfl⟩ := place?_eq_some hplace
  refine ⟨feeds'.set i (some feed'), ?_, h.set hfeed hfeed' i⟩
  simp only [Feeds.place?, Option.bind_some, h.free hfree]

/-- An entry that is used for the one is used for the other. -/
theorem Matches.uses (h : Matches c c' feeds feeds') (hnodup : c'.members.Nodup) {m : MemberTarget}
    {place place' : Nat} (hm : c.members[place]? = some m) (hm' : c'.members[place']? = some m)
    (huses : feeds.uses place = true) : feeds'.uses place' = true := by
  obtain ⟨i, hi⟩ := uses_iff.1 huses
  obtain ⟨y, hy, hxy⟩ := exists_getElem?_of_forall₂ h hi
  refine uses_iff.2 ⟨i, ?_⟩
  cases hxy with
  | @fed _ feed' _ hentry hentry' =>
    rw [Configuration.entry?, hm] at hentry
    cases hentry
    cases feed' with
    | parameter other => simp [Configuration.entry?] at hentry'
    | member other =>
      rw [Configuration.entry?, Option.map_eq_some_iff] at hentry'
      obtain ⟨m', hother, heq⟩ := hentry'
      cases heq
      have hlt := (List.getElem?_eq_some_iff.1 hother).1
      rw [hy, (List.getElem?_inj hlt hnodup).1 (hother.trans hm'.symm)]

/-- Placing at different parameters may be done in either order. -/
theorem place?_comm {index? index'? : Option Nat} {feed feed' : Feed} {feeds₁ feeds₂ : Feeds}
    (h : feeds.place? index? feed = some feeds₁) (h' : feeds₁.place? index'? feed' = some feeds₂) :
    ∃ feeds₁', feeds.place? index'? feed' = some feeds₁' ∧ feeds₁'.place? index? feed = some feeds₂ := by
  obtain ⟨i, rfl, hi, rfl⟩ := place?_eq_some h
  obtain ⟨j, rfl, hj, rfl⟩ := place?_eq_some h'
  have hne : i ≠ j := by
    rintro rfl
    rw [List.getElem?_set_self (List.getElem?_eq_some_iff.1 hi).1] at hj
    cases hj
  rw [List.getElem?_set_ne hne] at hj
  refine ⟨feeds.set j (some feed'), ?_, ?_⟩
  · simp only [place?, Option.bind_some, hj]
  · simp only [place?, Option.bind_some, List.getElem?_set_ne hne.symm, hi]
    rw [List.set_comm _ _ hne]

/-- Placing leaves all parameters free but one. -/
theorem free_place?_iff {index? : Option Nat} {feed : Feed} {placed : Feeds}
    (h : feeds.place? index? feed = some placed) (i : Nat) :
    placed[i]? = some none ↔ feeds[i]? = some none ∧ index? ≠ some i := by
  obtain ⟨j, rfl, hj, rfl⟩ := place?_eq_some h
  by_cases hij : j = i
  · subst hij
    simp [List.getElem?_set_self (List.getElem?_eq_some_iff.1 hj).1]
  · simp [List.getElem?_set_ne hij, hij]

end Feeds

/-! ## Explicit placements -/

namespace Fitting

open Feeds

variable {parameters : List Parameter} {c c' : Configuration} {feeds feeds' placed : Feeds}
  {strategy : NameStrategy}

/-- Configured parameters are placed in the same way for both. -/
theorem exists_placeParameters (h : Matches c c' feeds feeds') (hc : c'.parameters = c.parameters)
    {targets : List (ParameterTarget × Nat)}
    (htargets : ∀ target ∈ targets, c.parameters[target.2]? = some target.1)
    (hplace : placeParameters parameters feeds targets = .ok placed) :
    ∃ placed', placeParameters parameters feeds' targets = .ok placed' ∧ Matches c c' placed placed' := by
  induction targets generalizing feeds feeds' with
  | nil =>
    cases hplace
    exact ⟨feeds', rfl, h⟩
  | cons target rest ih =>
    have htarget := htargets target (List.mem_cons_self ..)
    have htarget' : c'.parameters[target.2]? = some target.1 := by rwa [hc]
    simp only [placeParameters] at hplace ⊢
    split at hplace
    · rename_i feeds₁ hfirst
      obtain ⟨feeds₁', hfirst', h₁⟩ := h.place? (Configuration.entry?_parameter htarget)
        (Configuration.entry?_parameter htarget') hfirst
      rw [hfirst']
      exact ih h₁ (fun a ha => htargets a (List.mem_cons_of_mem _ ha)) hplace
    · cases hplace

/-- A member that names a parameter is placed there; others wait. -/
def placeOne? (parameters : List Parameter) (feeds : Feeds) (e : MemberTarget × Nat) : Option Feeds :=
  match e.1.parameter? with
  | none => some feeds
  | some name => feeds.place? (indexOf? parameters name) (.member e.2)

/-- What is placed is a member that names a parameter. -/
theorem placeOne?_eq_some {e : MemberTarget × Nat} (h : placeOne? parameters feeds e = some placed) :
    e.1.parameter? = none ∧ placed = feeds ∨ ∃ name, e.1.parameter? = some name ∧
      feeds.place? (indexOf? parameters name) (.member e.2) = some placed := by
  unfold placeOne? at h
  split at h
  · rename_i hname
    cases h
    exact .inl ⟨hname, rfl⟩
  · rename_i name hname
    exact .inr ⟨name, hname, h⟩

/-- Members that name a parameter are placed one after the other. -/
theorem placeNamed_cons_eq_ok {e : MemberTarget × Nat} {rest : List (MemberTarget × Nat)} :
    placeNamed parameters feeds (e :: rest) = .ok placed ↔ ∃ feeds₁,
      placeOne? parameters feeds e = some feeds₁ ∧ placeNamed parameters feeds₁ rest = .ok placed := by
  obtain ⟨m, place⟩ := e
  simp only [placeNamed, placeOne?]
  cases m.parameter? with
  | none => simp
  | some name =>
    cases hplace : feeds.place? (indexOf? parameters name) (.member place) <;> simp [hplace]

theorem placeOne?_comm {e e' : MemberTarget × Nat} {feeds₁ feeds₂ : Feeds}
    (h : placeOne? parameters feeds e = some feeds₁) (h' : placeOne? parameters feeds₁ e' = some feeds₂) :
    ∃ feeds₁', placeOne? parameters feeds e' = some feeds₁' ∧
      placeOne? parameters feeds₁' e = some feeds₂ := by
  unfold placeOne? at h h' ⊢
  cases he : e.1.parameter? with
  | none =>
    simp only [he] at h ⊢
    cases h
    exact ⟨feeds₂, h', rfl⟩
  | some name =>
    cases he' : e'.1.parameter? with
    | none =>
      simp only [he'] at h' ⊢
      cases h'
      exact ⟨feeds, rfl, by simpa only [he] using h⟩
    | some name' =>
      simp only [he, he'] at h h' ⊢
      exact place?_comm h h'

/-- Members that name a parameter may be placed in any order. -/
theorem placeNamed_of_perm {es es' : List (MemberTarget × Nat)} (hperm : es.Perm es')
    (h : placeNamed parameters feeds es = .ok placed) : placeNamed parameters feeds es' = .ok placed := by
  induction hperm generalizing feeds with
  | nil => exact h
  | cons e _ ih =>
    obtain ⟨feeds₁, hfirst, h⟩ := placeNamed_cons_eq_ok.1 h
    exact placeNamed_cons_eq_ok.2 ⟨feeds₁, hfirst, ih h⟩
  | swap e e' es =>
    obtain ⟨feeds₁, hfirst, h⟩ := placeNamed_cons_eq_ok.1 h
    obtain ⟨feeds₂, hsecond, h⟩ := placeNamed_cons_eq_ok.1 h
    obtain ⟨feeds₁', hfirst', hsecond'⟩ := placeOne?_comm hfirst hsecond
    exact placeNamed_cons_eq_ok.2 ⟨feeds₁', hfirst', placeNamed_cons_eq_ok.2 ⟨feeds₂, hsecond', h⟩⟩
  | trans _ _ ih ih' => exact ih' (ih h)

/-- Both places are those of the entry. -/
structure SameEntry (c c' : Configuration) (e e' : MemberTarget × Nat) : Prop where
  /-- The entry is the same. -/
  entry : e'.1 = e.1
  /-- It is at its place in the first configuration. -/
  left : c.members[e.2]? = some e.1
  /-- It is at its place in the second one. -/
  right : c'.members[e'.2]? = some e.1

/-- Members that name a parameter are placed in the same way for both. -/
theorem exists_placeNamed_of_forall₂ (h : Matches c c' feeds feeds') {es es' : List (MemberTarget × Nat)}
    (hes : List.Forall₂ (SameEntry c c') es es') (hplace : placeNamed parameters feeds es = .ok placed) :
    ∃ placed', placeNamed parameters feeds' es' = .ok placed' ∧ Matches c c' placed placed' := by
  induction hes generalizing feeds feeds' with
  | nil =>
    cases hplace
    exact ⟨feeds', rfl, h⟩
  | @cons e e' _ _ he _ ih =>
    obtain ⟨feeds₁, hfirst, hplace⟩ := placeNamed_cons_eq_ok.1 hplace
    have hone : ∃ feeds₁', placeOne? parameters feeds' e' = some feeds₁' ∧ Matches c c' feeds₁ feeds₁' := by
      unfold placeOne?
      rw [he.entry]
      obtain ⟨hname, rfl⟩ | ⟨name, hname, hplace⟩ := placeOne?_eq_some hfirst
      · rw [hname]
        exact ⟨feeds', rfl, h⟩
      · rw [hname]
        exact h.place? (Configuration.entry?_member he.left) (Configuration.entry?_member he.right) hplace
    obtain ⟨feeds₁', hfirst', h₁⟩ := hone
    obtain ⟨placed', hrest, hmatches⟩ := ih h₁ hplace
    exact ⟨placed', placeNamed_cons_eq_ok.2 ⟨feeds₁', hfirst', hrest⟩, hmatches⟩

/-- Members that name a parameter are placed in the same way, whatever the order of the members. -/
theorem exists_placeNamed (h : Matches c c' feeds feeds') (hc : c.Reorders c')
    (hplace : placeNamed parameters feeds c.members.zipIdx = .ok placed) :
    ∃ placed', placeNamed parameters feeds' c'.members.zipIdx = .ok placed' ∧
      Matches c c' placed placed' := by
  have hzip : List.Forall₂ (fun m e => e.1 = m) c.members c.members.zipIdx :=
    List.forall₂_iff_get.2 ⟨by simp, fun i hi hi' => by simp⟩
  -- the places in the first configuration, in the order of the second one
  obtain ⟨es, hes, hperm⟩ := List.perm_comp_forall₂ hc.members.symm hzip
  have hlength : es.length = c'.members.zipIdx.length := by
    rw [List.length_zipIdx]
    exact hes.length_eq.symm
  refine exists_placeNamed_of_forall₂ h (List.forall₂_iff_get.2 ⟨hlength, fun i hi hi' => ?_⟩)
    (placeNamed_of_perm hperm.symm hplace)
  have hi'' : i < c'.members.length := by rwa [List.length_zipIdx] at hi'
  have hentry : (es.get ⟨i, hi⟩).1 = c'.members.get ⟨i, hi''⟩ := (List.forall₂_iff_get.1 hes).2 i hi'' hi
  have hmem : es.get ⟨i, hi⟩ ∈ c.members.zipIdx := hperm.subset (List.get_mem es ⟨i, hi⟩)
  refine ⟨?_, List.mem_zipIdx_iff_getElem?.1 hmem, ?_⟩
  · rw [hentry]
    simp
  · rw [hentry]
    simp [List.getElem?_eq_getElem hi'']

/-! ## What names leave to a parameter -/

/-- An entry may feed a parameter by its name, unless it is taken. -/
def Offers (strategy : NameStrategy) (m : MemberTarget) (p : Parameter) : Prop :=
  m.placement ≠ .member ∧ m.parameter? = none ∧ strategy.parameterMatchesMember p.name m.name = true

/-- No explicit placement feeds the parameter at a place. -/
def LeftToNames (c : Configuration) (parameters : List Parameter) (i : Nat) : Prop :=
  (∀ target ∈ c.parameters, selected? parameters target.parameter ≠ some i) ∧
    ∀ m ∈ c.members, ∀ name, m.parameter? = some name → indexOf? parameters name ≠ some i

/-- Names determine what feeds each parameter that is left to them. -/
def Determined (strategy : NameStrategy) (parameters : List Parameter) (c : Configuration) : Prop :=
  ∀ i p, parameters[i]? = some p → LeftToNames c parameters i →
    ∀ m ∈ c.members, ∀ m' ∈ c.members, Offers strategy m p → Offers strategy m' p → m = m'

theorem LeftToNames.of_reorders {i : Nat} (hc : c.Reorders c') (h : LeftToNames c parameters i) :
    LeftToNames c' parameters i := by
  rw [LeftToNames, hc.parameters]
  exact ⟨h.1, fun m hm => h.2 m (hc.members.mem_iff.2 hm)⟩

theorem Determined.of_reorders (hc : c.Reorders c') (h : Determined strategy parameters c) :
    Determined strategy parameters c' :=
  fun i p hp hleft m hm m' hm' => h i p hp (hleft.of_reorders hc.symm) m (hc.members.mem_iff.2 hm) m'
    (hc.members.mem_iff.2 hm')

/-- Compared as they are, names determine everything. -/
theorem determined_exact (parameters : List Parameter) (hnames : (c.members.map (·.name)).Nodup) :
    Determined .exact parameters c := by
  intro i p _ _ m hm m' hm' h h'
  have hname : m.name = m'.name :=
    (beq_iff_eq.1 h.2.2).symm.trans (beq_iff_eq.1 h'.2.2)
  exact List.inj_on_of_nodup_map hnames hm hm' hname

theorem free_placeParameters_iff {targets : List (ParameterTarget × Nat)}
    (h : placeParameters parameters feeds targets = .ok placed) (i : Nat) :
    placed[i]? = some none ↔ feeds[i]? = some none ∧
      ∀ target ∈ targets, selected? parameters target.1.parameter ≠ some i := by
  induction targets generalizing feeds with
  | nil =>
    cases h
    simp
  | cons target rest ih =>
    simp only [placeParameters] at h
    split at h
    · rename_i feeds₁ hfirst
      rw [ih h, free_place?_iff hfirst, List.forall_mem_cons, and_assoc]
    · cases h

theorem free_placeNamed_iff {es : List (MemberTarget × Nat)}
    (h : placeNamed parameters feeds es = .ok placed) (i : Nat) :
    placed[i]? = some none ↔ feeds[i]? = some none ∧
      ∀ e ∈ es, ∀ name, e.1.parameter? = some name → indexOf? parameters name ≠ some i := by
  induction es generalizing feeds with
  | nil =>
    cases h
    simp
  | cons e rest ih =>
    obtain ⟨feeds₁, hfirst, h⟩ := placeNamed_cons_eq_ok.1 h
    have hfree : feeds₁[i]? = some none ↔ feeds[i]? = some none ∧
        ∀ name, e.1.parameter? = some name → indexOf? parameters name ≠ some i := by
      obtain ⟨hname, rfl⟩ | ⟨name, hname, hplace⟩ := placeOne?_eq_some hfirst
      · simp [hname]
      · rw [free_place?_iff hplace]
        simp [hname]
    rw [ih h, hfree, List.forall_mem_cons, and_assoc]

/-- After the explicit placements, the free parameters are those that are left to names. -/
theorem free_iff_leftToNames {feeds₁ feeds₂ : Feeds}
    (h₁ : placeParameters parameters (List.replicate parameters.length none) c.parameters.zipIdx =
      .ok feeds₁) (h₂ : placeNamed parameters feeds₁ c.members.zipIdx = .ok feeds₂) (i : Nat) :
    feeds₂[i]? = some none ↔ i < parameters.length ∧ LeftToNames c parameters i := by
  have hzip : ∀ {α : Type} (l : List α) (P : α → Prop), (∀ e ∈ l.zipIdx, P e.1) ↔ ∀ a ∈ l, P a := by
    intro α l P
    rw [← List.forall_mem_map (f := Prod.fst), List.zipIdx_map_fst]
  rw [free_placeNamed_iff h₂, free_placeParameters_iff h₁, LeftToNames, and_assoc,
    hzip c.parameters fun target => selected? parameters target.parameter ≠ some i,
    hzip c.members fun m => ∀ name, m.parameter? = some name → indexOf? parameters name ≠ some i]
  simp [List.getElem?_replicate]

/-! ## Placements by name -/

/-- If names determine what feeds a parameter, it is fed by the same entry for both. -/
theorem exists_matching? (h : Matches c c' feeds feeds') (hc : c.Reorders c') (hnodup : c.members.Nodup)
    {p : Parameter} (hone : ∀ m ∈ c.members, ∀ m' ∈ c.members, Offers strategy m p →
      Offers strategy m' p → m = m') {place : Nat}
    (hmatch : matching? strategy c.members.zipIdx feeds p = some place) : ∃ m place',
      matching? strategy c'.members.zipIdx feeds' p = some place' ∧ c.members[place]? = some m ∧
        c'.members[place']? = some m := by
  obtain ⟨⟨m, hm, huses, hoffers⟩, -⟩ := matching?_eq_some_iff.1 hmatch
  have hmem : m ∈ c.members := List.mem_of_getElem? hm
  obtain ⟨place', hm'⟩ := List.mem_iff_getElem?.1 (hc.members.mem_iff.1 hmem)
  have huses' : feeds'.uses place' = false := by
    rw [Bool.eq_false_iff] at huses ⊢
    exact fun hused => huses (h.symm.uses hnodup hm' hm hused)
  refine ⟨m, place', matching?_eq_some_iff.2 ⟨⟨m, hm', huses', hoffers⟩, ?_⟩, hm, hm'⟩
  -- an entry before it that may feed the parameter would be the same one
  intro j other hj hother hmay
  obtain rfl := hone m hmem other (hc.members.mem_iff.2 (List.mem_of_getElem? hother)) hoffers hmay.2
  have hlt := (List.getElem?_eq_some_iff.1 hother).1
  exact Nat.ne_of_lt hj ((List.getElem?_inj hlt (hc.members.nodup_iff.1 hnodup)).1 (hother.trans hm'.symm))

/-- If names determine what feeds the free parameters, they are fed by the same entries for both. -/
theorem matches_placeMatching (hc : c.Reorders c') (hnodup : c.members.Nodup) {n : Nat}
    {ps : List Parameter} (h : Matches c c' feeds feeds')
    (hone : ∀ i p, ps[i]? = some p → feeds[n + i]? = some none → ∀ m ∈ c.members, ∀ m' ∈ c.members,
      Offers strategy m p → Offers strategy m' p → m = m') :
    Matches c c' (placeMatching strategy c.members.zipIdx feeds (ps.zipIdx n))
      (placeMatching strategy c'.members.zipIdx feeds' (ps.zipIdx n)) := by
  induction ps generalizing feeds feeds' n with
  | nil => exact h
  | cons p rest ih =>
    rw [List.zipIdx_cons, placeMatching, placeMatching]
    have hrest : ∀ i q, rest[i]? = some q → feeds[n + 1 + i]? = some none → ∀ m ∈ c.members,
        ∀ m' ∈ c.members, Offers strategy m q → Offers strategy m' q → m = m' := by
      intro i q hq hfree
      rw [Nat.add_right_comm] at hfree
      exact hone (i + 1) q hq hfree
    by_cases hfree : feeds[n]? = some none
    · rw [if_pos hfree, if_pos (h.free hfree)]
      have hfirst := hone 0 p rfl hfree
      have hfirst' : ∀ m ∈ c'.members, ∀ m' ∈ c'.members, Offers strategy m p → Offers strategy m' p →
          m = m' := fun m hm m' hm' => hfirst m (hc.members.mem_iff.2 hm) m' (hc.members.mem_iff.2 hm')
      cases hmatch : matching? strategy c.members.zipIdx feeds p with
      | some place =>
        obtain ⟨m, place', hmatch', hm, hm'⟩ := exists_matching? h hc hnodup hfirst hmatch
        rw [hmatch']
        have hset := h.set (Configuration.entry?_member hm) (Configuration.entry?_member hm') n
        refine ih hset fun i q hq hfree' => hrest i q hq ?_
        rwa [List.getElem?_set_ne (by omega)] at hfree'
      | none =>
        cases hmatch' : matching? strategy c'.members.zipIdx feeds' p with
        | some place' =>
          obtain ⟨_, _, hsome, -⟩ := exists_matching? h.symm hc.symm (hc.members.nodup_iff.1 hnodup)
            hfirst' hmatch'
          rw [hmatch] at hsome
          cases hsome
        | none => exact ih h hrest
    · have hfree' : feeds'[n]? ≠ some none := fun hfree' => hfree (h.symm.free hfree')
      rw [if_neg hfree, if_neg hfree']
      exact ih h hrest

/-! ## Fitting -/

/-- A run of fitting that succeeds: the explicit placements, the placements by name, and what is left. -/
structure Fits (t : TypeTable) (c : Configuration) (strategy : NameStrategy) (r : ConstructorRef)
    (feeds₁ feeds₂ feeds : Feeds) : Prop where
  /-- Configured parameters are placed. -/
  configured : placeParameters r.constructor.parameters
    (List.replicate r.constructor.parameters.length none) c.parameters.zipIdx = .ok feeds₁
  /-- Members that name a parameter are placed. -/
  named : placeNamed r.constructor.parameters feeds₁ c.members.zipIdx = .ok feeds₂
  /-- Members are placed by their names. -/
  matching : placeMatching strategy c.members.zipIdx feeds₂ r.constructor.parameters.zipIdx = feeds
  /-- Required parameters are fed. -/
  required : unfed r.constructor.parameters feeds = []
  /-- Entries that are left may be assigned. -/
  left : ∀ place m, c.members[place]? = some m → feeds.uses place = false →
    m.placement ≠ .parameter ∧ blocked t r.owner m = false

/-- Nothing is found among the entries that are left if none of them is as it is looked for. -/
theorem find?_left_eq_none_iff {P : MemberTarget → Bool} :
    (c.members.zipIdx.find? fun e => !feeds.uses e.2 && P e.1) = none ↔
      ∀ place m, c.members[place]? = some m → feeds.uses place = false → P m = false := by
  rw [List.find?_eq_none]
  constructor
  · intro h place m hm huses
    have hnot := h (m, place) (List.mem_zipIdx_iff_getElem?.2 hm)
    simpa [huses] using hnot
  · rintro h ⟨m, place⟩ hmem
    have hP := h place m (List.mem_zipIdx_iff_getElem?.1 hmem)
    simpa using hP

/-- Everything is placed if the steps of placing succeed and no entry that is left insists on a parameter. -/
theorem placeAll_eq_ok_iff : placeAll parameters c strategy = .ok feeds ↔ ∃ feeds₁ feeds₂,
    placeParameters parameters (List.replicate parameters.length none) c.parameters.zipIdx = .ok feeds₁ ∧
      placeNamed parameters feeds₁ c.members.zipIdx = .ok feeds₂ ∧
      placeMatching strategy c.members.zipIdx feeds₂ parameters.zipIdx = feeds ∧
      ∀ place m, c.members[place]? = some m → feeds.uses place = false →
        (m.placement == .parameter) = false := by
  constructor
  · intro h
    obtain ⟨feeds₁, h₁, h⟩ := bind_eq_ok.1 h
    obtain ⟨feeds₂, h₂, h⟩ := bind_eq_ok.1 h
    simp only at h
    split at h
    · cases h
    · rename_i hleft
      cases h
      exact ⟨feeds₁, feeds₂, h₁, h₂, rfl, find?_left_eq_none_iff.1 hleft⟩
  · rintro ⟨feeds₁, feeds₂, h₁, h₂, rfl, hleft⟩
    refine bind_eq_ok.2 ⟨feeds₁, h₁, bind_eq_ok.2 ⟨feeds₂, h₂, ?_⟩⟩
    simp only
    split
    · rename_i hfound
      cases (find?_left_eq_none_iff.2 hleft).symm.trans hfound
    · rfl

/-- A constructor fits if everything is placed, required parameters are fed, and what is left can be
assigned. -/
theorem fit_eq_bound_iff_placeAll {t : TypeTable} {r : ConstructorRef} :
    fit t c strategy r = .bound feeds ↔ placeAll r.constructor.parameters c strategy = .ok feeds ∧
      unfed r.constructor.parameters feeds = [] ∧
      ∀ place m, c.members[place]? = some m → feeds.uses place = false →
        blocked t r.owner m = false := by
  unfold fit
  simp only
  constructor
  · intro h
    split at h
    · cases h
    · rename_i hall
      split at h
      · cases h
      · rename_i hmissing
        split at h
        · cases h
        · rename_i hleft
          cases h
          exact ⟨hall, by simpa using hmissing, find?_left_eq_none_iff.1 hleft⟩
  · rintro ⟨hall, hmissing, hleft⟩
    simp only [hall, hmissing, find?_left_eq_none_iff.2 hleft]
    rfl

/-- A constructor fits if the steps of fitting succeed. -/
theorem fit_eq_bound_iff_exists_fits {t : TypeTable} {r : ConstructorRef} :
    fit t c strategy r = .bound feeds ↔ ∃ feeds₁ feeds₂, Fits t c strategy r feeds₁ feeds₂ feeds := by
  rw [fit_eq_bound_iff_placeAll, placeAll_eq_ok_iff]
  constructor
  · rintro ⟨⟨feeds₁, feeds₂, h₁, h₂, hmatching, hinsisting⟩, hmissing, hblocked⟩
    exact ⟨feeds₁, feeds₂, h₁, h₂, hmatching, hmissing, fun place m hm huses =>
      ⟨beq_eq_false_iff_ne.1 (hinsisting place m hm huses), hblocked place m hm huses⟩⟩
  · rintro ⟨feeds₁, feeds₂, h⟩
    exact ⟨⟨feeds₁, feeds₂, h.configured, h.named, h.matching, fun place m hm huses =>
      beq_eq_false_iff_ne.2 (h.left place m hm huses).1⟩, h.required, fun place m hm huses =>
      (h.left place m hm huses).2⟩

/-- A constructor that takes entries fits, and takes what its feeds stand for. -/
theorem exists_fits_of_taken {t : TypeTable} {r : ConstructorRef}
    {entries : List (Option (MemberTarget ⊕ ParameterTarget))} (h : taken t c strategy r = some entries) :
    ∃ feeds₁ feeds₂ feeds, Fits t c strategy r feeds₁ feeds₂ feeds ∧
      entries = feeds.map (·.bind c.entry?) := by
  unfold taken at h
  split at h
  · rename_i feeds hfit
    cases h
    obtain ⟨feeds₁, feeds₂, h⟩ := fit_eq_bound_iff_exists_fits.1 hfit
    exact ⟨feeds₁, feeds₂, feeds, h, rfl⟩
  · cases h

theorem unfed_eq_of_matches (h : Matches c c' feeds feeds') (parameters : List Parameter) :
    unfed parameters feeds' = unfed parameters feeds := by
  unfold unfed
  induction h generalizing parameters with
  | nil => rfl
  | cons hxy _ ih =>
    cases parameters with
    | nil => rfl
    | cons p rest =>
      cases hxy with
      | free => simp only [List.zip_cons_cons, List.filterMap_cons, ih rest]
      | fed => simp only [List.zip_cons_cons, List.filterMap_cons, ih rest]; rfl

/-- If names determine what feeds the parameters that are left to them, a constructor that fits takes the same
entries in every other order. -/
theorem taken_of_reorders {t : TypeTable} {r : ConstructorRef} (hc : c.Reorders c')
    (hnodup : c.members.Nodup) (hdetermined : Determined strategy r.constructor.parameters c)
    {entries : List (Option (MemberTarget ⊕ ParameterTarget))}
    (h : taken t c strategy r = some entries) : taken t c' strategy r = some entries := by
  obtain ⟨feeds₁, feeds₂, feeds, hfits, rfl⟩ := exists_fits_of_taken h
  have hnodup' := hc.members.nodup_iff.1 hnodup
  obtain ⟨feeds₁', h₁', hmatches₁⟩ := exists_placeParameters
    (matches_free c c' _) hc.parameters (fun target htarget => List.mem_zipIdx_iff_getElem?.1 htarget)
    hfits.configured
  obtain ⟨feeds₂', h₂', hmatches₂⟩ := exists_placeNamed hmatches₁ hc hfits.named
  have hmatches₃ : Matches c c'
      (placeMatching strategy c.members.zipIdx feeds₂ r.constructor.parameters.zipIdx)
      (placeMatching strategy c'.members.zipIdx feeds₂' r.constructor.parameters.zipIdx) := by
    refine matches_placeMatching hc hnodup hmatches₂ fun i p hp hfree => ?_
    rw [Nat.zero_add] at hfree
    exact hdetermined i p hp ((free_iff_leftToNames hfits.configured hfits.named i).1 hfree).2
  rw [hfits.matching] at hmatches₃
  rw [← hc.parameters] at h₁'
  have hfit' : fit t c' strategy r = .bound (placeMatching strategy c'.members.zipIdx feeds₂'
      r.constructor.parameters.zipIdx) := by
    refine fit_eq_bound_iff_exists_fits.2 ⟨feeds₁', feeds₂', h₁', h₂', rfl, ?_, ?_⟩
    · rw [unfed_eq_of_matches hmatches₃]
      exact hfits.required
    · intro place' m hm' huses'
      obtain ⟨place, hm⟩ := List.mem_iff_getElem?.1 (hc.members.mem_iff.2 (List.mem_of_getElem? hm'))
      refine hfits.left place m hm ?_
      rw [Bool.eq_false_iff] at huses' ⊢
      exact fun hused => huses' (hmatches₃.uses hnodup' hm hm' hused)
  rw [taken, hfit', ← hmatches₃.map_entry?]

/-! ## Moving an entry to the front -/

/-- Placing anything else does not use an entry. -/
theorem uses_set_of_ne {i place : Nat} {feed : Feed} (hne : Feed.member place ≠ feed)
    (hunused : feeds.uses place = false) : uses (feeds.set i (some feed)) place = false := by
  rw [Bool.eq_false_iff, Ne, uses, List.contains_iff_mem] at hunused ⊢
  exact fun hmem => hunused (mem_of_mem_set hne hmem)

/-- Configured parameters use no entry. -/
theorem uses_placeParameters {targets : List (ParameterTarget × Nat)} {place : Nat}
    (h : placeParameters parameters feeds targets = .ok placed) (hunused : feeds.uses place = false) :
    placed.uses place = false := by
  induction targets generalizing feeds with
  | nil =>
    cases h
    exact hunused
  | cons target rest ih =>
    simp only [placeParameters] at h
    split at h
    · rename_i feeds₁ hfirst
      obtain ⟨i, -, -, rfl⟩ := place?_eq_some hfirst
      exact ih h (uses_set_of_ne (fun heq => by cases heq) hunused)
    · cases h

/-- An entry that names no parameter waits. -/
theorem uses_placeNamed {es : List (MemberTarget × Nat)} {place : Nat}
    (h : placeNamed parameters feeds es = .ok placed) (hunused : feeds.uses place = false)
    (hes : ∀ e ∈ es, e.2 = place → e.1.parameter? = none) : placed.uses place = false := by
  induction es generalizing feeds with
  | nil =>
    cases h
    exact hunused
  | cons e rest ih =>
    obtain ⟨feeds₁, hfirst, h⟩ := placeNamed_cons_eq_ok.1 h
    refine ih h ?_ fun e' he' => hes e' (List.mem_cons_of_mem _ he')
    obtain ⟨-, rfl⟩ | ⟨name, hname, hplace⟩ := placeOne?_eq_some hfirst
    · exact hunused
    · obtain ⟨i, -, -, rfl⟩ := place?_eq_some hplace
      refine uses_set_of_ne (fun heq => ?_) hunused
      rw [hes e (List.mem_cons_self ..) (Feed.member.inj heq).symm] at hname
      cases hname

/-- The first entry of all feeds the first free parameter that it may. -/
theorem getElem?_placeMatching_first {m : MemberTarget} {members : List MemberTarget}
    (hfirst : members[0]? = some m) {ps : List Parameter} {n k : Nat} {p : Parameter}
    (hp : ps[k]? = some p) (hfree : feeds[n + k]? = some none) (hunused : feeds.uses 0 = false)
    (hoffers : Offers strategy m p) (hbefore : ∀ j q, j < k → ps[j]? = some q →
      feeds[n + j]? = some none → ¬Offers strategy m q) :
    (placeMatching strategy members.zipIdx feeds (ps.zipIdx n))[n + k]? = some (some (.member 0)) := by
  induction ps generalizing feeds n k with
  | nil => simp at hp
  | cons q rest ih =>
    rw [List.zipIdx_cons, placeMatching]
    cases k with
    | zero =>
      cases hp
      have hmatch : matching? strategy members.zipIdx feeds p = some 0 :=
        matching?_eq_some_iff.2 ⟨⟨m, hfirst, hunused, hoffers⟩, fun j _ hj => absurd hj (Nat.not_lt_zero j)⟩
      rw [Nat.add_zero] at hfree
      simp only [if_pos hfree, hmatch, Nat.add_zero]
      rw [getElem?_placeMatching (Nat.lt_succ_self n),
        List.getElem?_set_self (List.getElem?_eq_some_iff.1 hfree).1]
    | succ k =>
      have hplace : n + (k + 1) = n + 1 + k := by omega
      rw [hplace] at hfree ⊢
      have hrest : ∀ j q', j < k → rest[j]? = some q' → feeds[n + 1 + j]? = some none →
          ¬Offers strategy m q' := by
        intro j q' hj hq' hfree'
        rw [Nat.add_right_comm] at hfree'
        exact hbefore (j + 1) q' (Nat.succ_lt_succ hj) hq' hfree'
      by_cases hn : feeds[n]? = some none
      · rw [if_pos hn]
        cases hmatch : matching? strategy members.zipIdx feeds q with
        | none => exact ih hp hfree hunused hrest
        | some place =>
          -- it is not the first entry that feeds the parameter before
          have hne : Feed.member 0 ≠ .member place := by
            rintro ⟨⟩
            obtain ⟨⟨m', hm', -, hoffers'⟩, -⟩ := matching?_eq_some_iff.1 hmatch
            cases hm'.symm.trans hfirst
            exact hbefore 0 q (Nat.succ_pos k) rfl hn hoffers'
          refine ih hp ?_ (uses_set_of_ne hne hunused) fun j q' hj hq' hfree' => hrest j q' hj hq' ?_
          · rwa [List.getElem?_set_ne (by omega)]
          · rwa [List.getElem?_set_ne (by omega)] at hfree'
      · rw [if_neg hn]
        exact ih hp hfree hunused hrest

/-- An entry in front of all others is taken by the first parameter that is left to names and that it may
feed. -/
theorem getElem?_taken_first {t : TypeTable} {r : ConstructorRef} {m : MemberTarget}
    {rest : List MemberTarget} (hmembers : c.members = m :: rest)
    {entries : List (Option (MemberTarget ⊕ ParameterTarget))}
    (h : taken t c strategy r = some entries) {i : Nat} {p : Parameter}
    (hp : r.constructor.parameters[i]? = some p) (hleft : LeftToNames c r.constructor.parameters i)
    (hoffers : Offers strategy m p) (hbefore : ∀ j q, j < i → r.constructor.parameters[j]? = some q →
      LeftToNames c r.constructor.parameters j → ¬Offers strategy m q) :
    entries[i]? = some (some (.inl m)) := by
  obtain ⟨feeds₁, feeds₂, feeds, hfits, rfl⟩ := exists_fits_of_taken h
  have hfirst : c.members[0]? = some m := by rw [hmembers]; rfl
  have hfree := free_iff_leftToNames hfits.configured hfits.named
  have hunused : feeds₂.uses 0 = false := by
    refine uses_placeNamed hfits.named (uses_placeParameters hfits.configured ?_) ?_
    · rw [Bool.eq_false_iff, Ne, uses, List.contains_iff_mem]
      exact fun hmem => by simpa using List.eq_of_mem_replicate hmem
    · rintro ⟨m', _⟩ he rfl
      cases (List.mem_zipIdx_iff_getElem?.1 he).symm.trans hfirst
      exact hoffers.2.1
  have hi : i < r.constructor.parameters.length := (List.getElem?_eq_some_iff.1 hp).1
  have hplaced := getElem?_placeMatching_first (n := 0) hfirst hp
    (by rw [Nat.zero_add]; exact (hfree i).2 ⟨hi, hleft⟩) hunused hoffers fun j q hj hq hfree' => by
      rw [Nat.zero_add] at hfree'
      exact hbefore j q hj hq ((hfree j).1 hfree').2
  rw [hfits.matching, Nat.zero_add] at hplaced
  rw [List.getElem?_map, hplaced]
  exact congrArg some (Configuration.entry?_member hfirst)

end Fitting

/-! ## Strategies -/

namespace NameStrategy

/-- Parameters that match one entry in common match the same entries. -/
def Uniform (strategy : NameStrategy) : Prop :=
  ∀ p q m m', strategy.parameterMatchesMember p m = true → strategy.parameterMatchesMember p m' = true →
    strategy.parameterMatchesMember q m = true → strategy.parameterMatchesMember q m' = true

theorem uniform_camelCase : camelCase.Uniform := by
  have hsame : ∀ a b, sameInCamelCase a b = true ↔ Text.camel a = Text.camel b := by
    intro a b
    simp only [sameInCamelCase, Bool.or_eq_true, beq_iff_eq]
    exact ⟨fun h => h.elim (congrArg _) id, .inr⟩
  intro p q m m' hm hm' hq
  exact (hsame q m').2 (((hsame q m).1 hq).trans (((hsame p m).1 hm).symm.trans ((hsame p m').1 hm')))

theorem uniform_exact : exact.Uniform := by
  intro p q m m' hm hm' hq
  exact beq_iff_eq.2 ((beq_iff_eq.1 hq).trans ((beq_iff_eq.1 hm).symm.trans (beq_iff_eq.1 hm')))

end NameStrategy

namespace Fitting

variable {t : TypeTable} {c c' : Configuration} {strategy : NameStrategy} {r : ConstructorRef}

theorem Offers.of_uniform (hu : strategy.Uniform) {m m' : MemberTarget} {p q : Parameter}
    (h : Offers strategy m p) (h' : Offers strategy m' p) (hq : Offers strategy m q) :
    Offers strategy m' q :=
  ⟨h'.1, h'.2.1, hu p.name q.name m.name m'.name h.2.2 h'.2.2 hq.2.2⟩

/-- If a constructor takes the same entries in every order, names determine them. -/
theorem determined_of_taken (hu : strategy.Uniform)
    {entries : List (Option (MemberTarget ⊕ ParameterTarget))}
    (h : ∀ c', c.Reorders c' → taken t c' strategy r = some entries) :
    Determined strategy r.constructor.parameters c := by
  classical
  intro i p hp hleft m hm m' hm' ho ho'
  -- the first parameter that either of the two entries may feed
  have hexists : ∃ i p, r.constructor.parameters[i]? = some p ∧
      LeftToNames c r.constructor.parameters i ∧ Offers strategy m p := ⟨i, p, hp, hleft, ho⟩
  obtain ⟨p₀, hp₀, hleft₀, ho₀⟩ := Nat.find_spec hexists
  have hfront : ∀ x ∈ c.members, Offers strategy x p → entries[Nat.find hexists]? = some (some (.inl x)) := by
    intro x hx hox
    obtain ⟨c', rest, hc, hmembers⟩ := Configuration.exists_reorders_cons hx
    refine getElem?_taken_first hmembers (h c' hc) hp₀ (hleft₀.of_reorders hc)
      (ho.of_uniform hu hox ho₀) fun j q hj hq hleftj hoj => Nat.find_min hexists hj ?_
    exact ⟨q, hq, hleftj.of_reorders hc.symm, hox.of_uniform hu ho hoj⟩
  have heq := (hfront m hm ho).symm.trans (hfront m' hm' ho')
  cases heq
  rfl

/-- **When the order of the members does not matter.**  Compared in camel case or as they are, members feed the
parameters of a constructor in the same way in every order exactly if names determine what feeds each parameter
that is left to them, or the constructor does not fit in any order. -/
theorem taken_eq_iff (hs : strategy = .camelCase ∨ strategy = .exact)
    (hnames : (c.members.map (·.name)).Nodup) :
    (∀ c', c.Reorders c' → taken t c' strategy r = taken t c strategy r) ↔
      Determined strategy r.constructor.parameters c ∨
        ∀ c', c.Reorders c' → taken t c' strategy r = none := by
  have hu : strategy.Uniform := by
    rcases hs with rfl | rfl
    · exact NameStrategy.uniform_camelCase
    · exact NameStrategy.uniform_exact
  have hnodup : c.members.Nodup := hnames.of_map
  constructor
  · intro h
    cases htaken : taken t c strategy r with
    | none => exact .inr fun c' hc => (h c' hc).trans htaken
    | some entries => exact .inl (determined_of_taken hu fun c' hc => (h c' hc).trans htaken)
  · rintro (hdetermined | hnone) c' hc
    · cases htaken : taken t c strategy r with
      | some entries => exact taken_of_reorders hc hnodup hdetermined htaken
      | none =>
        cases htaken' : taken t c' strategy r with
        | none => rfl
        | some entries =>
          have hback := taken_of_reorders hc.symm (hc.members.nodup_iff.1 hnodup)
            (hdetermined.of_reorders hc) htaken'
          rw [htaken] at hback
          cases hback
    · rw [hnone c' hc, hnone c ⟨.refl _, rfl⟩]

/-! ## An order -/

/-- A constructor that takes the identity of an order. -/
def orderConstructor : ConstructorRef :=
  ⟨0, 0, ⟨[⟨"OrderId", .int32, none⟩], .open, .assign []⟩⟩

/-- Two names are projected, in this order. -/
def orderConfiguration (first second : String) : Configuration :=
  ⟨0, .declared 0, [.of (.name first), .of (.name second)], [], none, none⟩

theorem reorders_orderConfiguration (first second : String) :
    (orderConfiguration first second).Reorders (orderConfiguration second first) :=
  ⟨.swap .., rfl⟩

/-- Compared as they are, `OrderId` feeds the parameter in both orders. -/
theorem taken_eq_of_order :
    ((orderConfiguration "OrderId" "order_id").members.map (·.name)).Nodup ∧
      taken .empty (orderConfiguration "order_id" "OrderId") .exact orderConstructor =
        taken .empty (orderConfiguration "OrderId" "order_id") .exact orderConstructor := by
  have hnames : ((orderConfiguration "OrderId" "order_id").members.map (·.name)).Nodup := by decide
  exact ⟨hnames, (taken_eq_iff (.inr rfl) hnames).2 (.inl (determined_exact _ hnames)) _
    (reorders_orderConfiguration "OrderId" "order_id")⟩

/-- **The order of the members can matter.**  In camel case `OrderId` and `order_id` both match a parameter that
is called `OrderId`, and the one that is configured first feeds it. -/
theorem exists_order_matters : ¬∀ (t : TypeTable) (c c' : Configuration) (strategy : NameStrategy)
    (r : ConstructorRef), strategy = .camelCase ∨ strategy = .exact →
    (c.members.map (·.name)).Nodup → c.Reorders c' →
    taken t c' strategy r = taken t c strategy r := by
  intro hall
  have hnames : ((orderConfiguration "OrderId" "order_id").members.map (·.name)).Nodup := by decide
  have heq := hall .empty _ _ .camelCase orderConstructor (.inl rfl) hnames
    (reorders_orderConfiguration "OrderId" "order_id")
  have hfit : fit .empty (orderConfiguration "OrderId" "order_id") .camelCase orderConstructor =
      .bound [some (.member 0)] := by decide +kernel
  have hfit' : fit .empty (orderConfiguration "order_id" "OrderId") .camelCase orderConstructor =
      .bound [some (.member 0)] := by decide +kernel
  rw [taken, taken, hfit, hfit'] at heq
  simp [Configuration.entry?, orderConfiguration, MemberTarget.of] at heq

end Fitting
end Reshape
