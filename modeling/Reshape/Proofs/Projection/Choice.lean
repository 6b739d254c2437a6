import Mathlib.Data.List.Perm.Basic
import Reshape.Proofs.Projection.Feeding

/-!
# The best constructor

Among the constructors that fit, one is chosen exactly if it is better than every other: it takes more
bindings, or as many with fewer parameters (`Fitting.resolve_eq_ok_iff`).  Nothing in this looks at the
order of the constructors, and neither do the classes of the errors, where the nearest of those that miss
sources is looked for in the same way (`Fitting.resolve_best`).  Tables that differ in this order only
are what declarations give that differ in it only (`TypeTable.exists_declare_of_perm`).
-/

namespace Reshape

/-! ## Types with their constructors in another order -/

/-- The second type is the first with its constructors in another order. -/
structure TypeModel.Reorders (m m' : TypeModel) : Prop where
  /-- The constructors are the same, in another order. -/
  constructors : m.constructors.Perm m'.constructors
  /-- Nothing else is different. -/
  rest : m' = { m with constructors := m'.constructors }

theorem TypeModel.Reorders.refl (m : TypeModel) : m.Reorders m := ⟨.refl _, rfl⟩

namespace TypeTable

/-- The types of the second table are those of the first, with their constructors in another order. -/
def Reorders (t t' : TypeTable) : Prop :=
  List.Forall₂ TypeModel.Reorders t.newestFirst t'.newestFirst

variable {t t' : TypeTable}

theorem Reorders.refl (t : TypeTable) : t.Reorders t :=
  List.forall₂_same.2 fun m _ => .refl m

theorem Reorders.push (h : t.Reorders t') {m m' : TypeModel} (hm : m.Reorders m') :
    (t.push m).Reorders (t'.push m') :=
  .cons hm h

theorem Reorders.model (h : t.Reorders t') (id : TypeId) : (t.model id).Reorders (t'.model id) := by
  obtain ⟨l⟩ := t
  obtain ⟨l'⟩ := t'
  replace h : List.Forall₂ TypeModel.Reorders l l' := h
  show (modelIn l id).Reorders (modelIn l' id)
  induction h with
  | nil => exact .refl _
  | cons hm h ih =>
    rw [modelIn, modelIn, h.length_eq]
    split
    · exact hm
    · exact ih

theorem Reorders.lineage (h : t.Reorders t') (id : TypeId) : t'.lineage id = t.lineage id := by
  obtain ⟨l⟩ := t
  obtain ⟨l'⟩ := t'
  replace h : List.Forall₂ TypeModel.Reorders l l' := h
  show lineageIn l' id = lineageIn l id
  induction h generalizing id with
  | nil => rfl
  | @cons m m' _ _ hm h ih =>
    have hbase : m'.base? = m.base? := by rw [hm.rest]
    rw [lineageIn, lineageIn, h.length_eq, hbase, ih]
    cases m.base? with
    | none => rfl
    | some base => simp only [ih]

/-- Members are found as before. -/
theorem Reorders.findMember? (h : t.Reorders t') (id : TypeId) (name : String) :
    t'.findMember? id name = t.findMember? id name := by
  have hmethodAt : ∀ level, t'.methodAt? level = t.methodAt? level := fun level => by
    funext place
    rw [methodAt?, (h.model level).rest, methodAt?]
  have hproperties : ∀ level, t'.ownProperties level = t.ownProperties level := fun level => by
    rw [ownProperties, (h.model level).rest, ownProperties]
    simp only [propertyRef, hmethodAt]
  have hfields : ∀ level, t'.ownFields level = t.ownFields level := fun level => by
    rw [ownFields, (h.model level).rest, ownFields]
  simp only [TypeTable.findMember?, h.lineage, hproperties, hfields]

end TypeTable

/-! ## Declarations -/

/-- What succeeds on a list succeeds on it in another order, with the results in that order. -/
theorem exists_mapM_of_perm {ε α β : Type} {f : α → Except ε β} {l l' : List α} {r : List β}
    (hperm : l.Perm l') (h : l.mapM f = .ok r) : ∃ r', l'.mapM f = .ok r' ∧ r.Perm r' := by
  obtain ⟨r', hr', hperm'⟩ := List.perm_comp_forall₂ hperm.symm (mapM_eq_ok.1 h)
  exact ⟨r', mapM_eq_ok.2 hr', hperm'.symm⟩

/-- A type can be declared with its constructors in any order, and is the same but for that. -/
theorem TypeTable.exists_declare_of_perm {t t₁ : TypeTable} {d : Declaration} {id : TypeId}
    {specs : List ConstructorSpec} (hperm : d.constructors.Perm specs) (h : t.declare d = .ok (t₁, id)) :
    ∃ t₂, t.declare { d with constructors := specs } = .ok (t₂, id) ∧ t₁.Reorders t₂ := by
  obtain ⟨m, hm, h⟩ := bind_eq_ok.1 h
  cases h
  obtain ⟨hname, hnames, cs, hcs, rfl⟩ := build_eq_ok hm
  have hspecs : (constructorSpecs d).Perm (constructorSpecs { d with constructors := specs }) := by
    unfold constructorSpecs
    rw [hperm.isEmpty_eq]
    split
    · exact .refl _
    · exact hperm
  obtain ⟨cs', hcs', hconstructors⟩ := exists_mapM_of_perm hspecs (mapM_eq_ok.2 hcs)
  have hbuild : t.build { d with constructors := specs } =
      .ok (t.modelOf { d with constructors := specs } cs') := by
    rw [build, if_neg (by simpa using hname)]
    exact bind_eq_ok.2 ⟨(), hnames, bind_eq_ok.2 ⟨cs', hcs', rfl⟩⟩
  exact ⟨_, bind_eq_ok.2 ⟨_, hbuild, rfl⟩, (Reorders.refl t).push ⟨hconstructors, rfl⟩⟩

/-! ## The best of a list -/

namespace Fitting

section Best

variable {α : Type} {better : α → α → Bool} {l l' : List α}

theorem mem_best {a : α} : a ∈ best better l ↔ a ∈ l ∧ ∀ b ∈ l, better b a = false := by
  simp [best]

/-- The best of a list are the best of it in another order. -/
theorem best_perm (h : l.Perm l') : (best better l).Perm (best better l') := by
  have hall : ∀ a, (l.all fun b => !better b a) = l'.all fun b => !better b a := fun a => h.all_eq
  unfold best
  simp only [hall]
  exact h.filter _

/-- What does not matter for what is better may be changed, together with the order. -/
theorem map_best_perm {f : α → α} (hf : ∀ a b, better (f a) (f b) = better a b)
    (h : (l.map f).Perm (l'.map f)) : ((best better l).map f).Perm ((best better l').map f) := by
  have hmap : ∀ l, (best better l).map f = best better (l.map f) := fun l => by
    simp only [best, List.filter_map, List.all_map, Function.comp_def, hf]
  rw [hmap, hmap]
  exact best_perm h

/-- If of any two one is better or both stand in the same way to all others, then one is the only best exactly
if it is better than each other. -/
theorem best_eq_singleton_iff (hnot : ∀ a b, better a b = true → better b a = false)
    (hsame : ∀ a b c, better a b = false → better b a = false → better c a = better c b)
    (hnodup : l.Nodup) {a : α} :
    best better l = [a] ↔ a ∈ l ∧ ∀ b ∈ l, b ≠ a → better a b = true := by
  constructor
  · intro h
    have honly : ∀ b, b ∈ best better l ↔ b = a := by simp [h]
    obtain ⟨ha, hbest⟩ := mem_best.1 ((honly a).2 rfl)
    refine ⟨ha, fun b hb hne => ?_⟩
    by_contra hworse
    rw [Bool.not_eq_true] at hworse
    -- nothing is better than `b` either, so `b` is one of the best
    refine hne ((honly b).1 (mem_best.2 ⟨hb, fun c hc => ?_⟩))
    rw [← hsame a b c hworse (hbest b hb)]
    exact hbest c hc
  · rintro ⟨ha, hbetter⟩
    have hmem : ∀ b, b ∈ best better l ↔ b ∈ [a] := by
      intro b
      rw [mem_best, List.mem_singleton]
      constructor
      · rintro ⟨hb, hbest⟩
        by_contra hne
        have hworse := hbetter b hb hne
        rw [hbest a ha] at hworse
        cases hworse
      · rintro rfl
        refine ⟨ha, fun c hc => ?_⟩
        by_cases hca : c = b
        · subst hca
          by_contra hself
          rw [Bool.not_eq_false] at hself
          rw [hnot c c hself] at hself
          cases hself
        · exact hnot b c (hbetter c hc hca)
    exact List.perm_singleton.1
      ((List.perm_ext_iff_of_nodup (hnodup.filter _) (List.nodup_singleton a)).2 hmem)

end Best

/-! ## The best constructor -/

/-- A constructor that fits is better if it takes more bindings, or as many with fewer parameters. -/
theorem betterFit_iff {a b : ConstructorRef × Feeds} : betterFit a b = true ↔
    b.2.consumed < a.2.consumed ∨ b.2.consumed = a.2.consumed ∧
      a.1.constructor.parameters.length < b.1.constructor.parameters.length := by
  rw [@eq_comm Nat b.2.consumed]
  simp only [betterFit, Bool.or_eq_true, Bool.and_eq_true, decide_eq_true_eq, beq_iff_eq]

theorem betterFit_asymm (a b : ConstructorRef × Feeds) (h : betterFit a b = true) :
    betterFit b a = false := by
  rw [betterFit_iff] at h
  rw [← Bool.not_eq_true, betterFit_iff]
  omega

theorem betterFit_congr (a b c : ConstructorRef × Feeds) (hab : betterFit a b = false)
    (hba : betterFit b a = false) : betterFit c a = betterFit c b := by
  rw [← Bool.not_eq_true, betterFit_iff] at hab hba
  rw [Bool.eq_iff_iff, betterFit_iff, betterFit_iff]
  omega

variable {t t' : TypeTable} {target : TypeId} {c : Configuration} {strategy : NameStrategy}

/-- The constructors of a type with how well they fit. -/
def offers (t : TypeTable) (target : TypeId) (c : Configuration) (strategy : NameStrategy) :
    List (ConstructorRef × Fit) :=
  (t.constructors target).map fun r => (r, fit t c strategy r)

theorem nodup_constructors (t : TypeTable) (id : TypeId) : (t.constructors id).Nodup := by
  have hindex : (t.constructors id).map (·.index) = List.range' 0 (t.model id).constructors.length := by
    rw [TypeTable.constructors, List.map_map]
    exact List.zipIdx_map_snd 0 _
  refine List.Nodup.of_map (·.index) ?_
  rw [hindex]
  exact List.nodup_range'

theorem mem_fitting_offers {r : ConstructorRef} {feeds : Feeds} :
    (r, feeds) ∈ fitting (offers t target c strategy) ↔
      r ∈ t.constructors target ∧ fit t c strategy r = .bound feeds := by
  constructor
  · intro h
    obtain ⟨r', hr', heq⟩ := List.mem_map.1 (mem_fitting h)
    rw [Prod.mk.injEq] at heq
    obtain ⟨rfl, hfit⟩ := heq
    exact ⟨hr', hfit⟩
  · rintro ⟨hr, hfit⟩
    refine List.mem_filterMap.2 ⟨(r, fit t c strategy r), List.mem_map.2 ⟨r, hr, rfl⟩, ?_⟩
    rw [hfit]

theorem nodup_fitting_offers : (fitting (offers t target c strategy)).Nodup := by
  have hoffers : (offers t target c strategy).Nodup :=
    (nodup_constructors t target).map fun _ _ heq => congrArg Prod.fst heq
  refine hoffers.filterMap ?_
  rintro ⟨r, f⟩ ⟨r', f'⟩ b hb hb'
  cases f <;> cases hb
  cases f' <;> cases hb'
  rfl

/-- With any number of constructors but one, the best of those that fit is chosen. -/
theorem resolve_eq_choose (hc : c.constructor? = none) (hmany : ∀ r, t.constructors target ≠ [r]) :
    resolve t target c strategy = choose target c (offers t target c strategy) := by
  unfold resolve offers
  rw [hc]
  cases hrs : t.constructors target with
  | nil => rfl
  | cons r rest =>
    cases rest with
    | nil => exact absurd hrs (hmany r)
    | cons second rest => rfl

theorem resolve_eq_accept (hc : c.constructor? = none) {r : ConstructorRef}
    (hone : t.constructors target = [r]) : resolve t target c strategy =
      (accept r (fit t c strategy r)).map fun feeds => (r, feeds) := by
  unfold resolve
  rw [hc]
  simp only [hone]

/-- What is chosen is the only best of the constructors that fit. -/
theorem resolve_eq_ok_iff_best (hc : c.constructor? = none) {one : ConstructorRef × Feeds} :
    resolve t target c strategy = .ok one ↔
      best betterFit (fitting (offers t target c strategy)) = [one] := by
  by_cases hone : ∃ r, t.constructors target = [r]
  · obtain ⟨r, hr⟩ := hone
    rw [resolve_eq_accept hc hr, offers, hr, List.map_singleton]
    cases fit t c strategy r with
    | bound feeds =>
      have hbest : best betterFit [(r, feeds)] = [(r, feeds)] := by simp [best, betterFit]
      simp [accept, fitting, hbest, Except.map]
    | _ => simp [accept, fitting, best, Except.map]
  · rw [not_exists] at hone
    rw [resolve_eq_choose hc hone]
    unfold choose
    split <;> simp_all

/-- A constructor is the best of a target: it fits, and every other one that fits takes fewer bindings, or as
many with more parameters. -/
structure Best (t : TypeTable) (target : TypeId) (c : Configuration) (strategy : NameStrategy)
    (r : ConstructorRef) (feeds : Feeds) : Prop where
  /-- It is a constructor of the target. -/
  declared : r ∈ t.constructors target
  /-- It fits. -/
  fits : fit t c strategy r = .bound feeds
  /-- It is better than each other. -/
  better : ∀ r' ∈ t.constructors target, r' ≠ r → ∀ feeds', fit t c strategy r' = .bound feeds' →
    feeds'.consumed < feeds.consumed ∨ feeds'.consumed = feeds.consumed ∧
      r.constructor.parameters.length < r'.constructor.parameters.length

/-- The best constructor is chosen, and no other. -/
theorem resolve_eq_ok_iff (hc : c.constructor? = none) {r : ConstructorRef} {feeds : Feeds} :
    resolve t target c strategy = .ok (r, feeds) ↔ Best t target c strategy r feeds := by
  rw [resolve_eq_ok_iff_best hc,
    best_eq_singleton_iff betterFit_asymm betterFit_congr nodup_fitting_offers, mem_fitting_offers]
  constructor
  · rintro ⟨⟨hr, hfit⟩, hbetter⟩
    refine ⟨hr, hfit, fun r' hr' hne feeds' hfit' => ?_⟩
    have hne' : (r', feeds') ≠ (r, feeds) := fun heq => hne (congrArg Prod.fst heq)
    exact betterFit_iff.1 (hbetter _ (mem_fitting_offers.2 ⟨hr', hfit'⟩) hne')
  · rintro ⟨hr, hfit, hbetter⟩
    refine ⟨⟨hr, hfit⟩, fun other hother hne => ?_⟩
    obtain ⟨r', feeds'⟩ := other
    obtain ⟨hr', hfit'⟩ := mem_fitting_offers.1 hother
    refine betterFit_iff.2 (hbetter r' hr' ?_ feeds' hfit')
    rintro rfl
    rw [hfit] at hfit'
    cases hfit'
    exact hne rfl

/-! ## Other orders -/

/-- A constructor without its place among the others. -/
def placeless (r : ConstructorRef) : ConstructorRef :=
  { r with index := 0 }

/-- What choosing comes to: the constructor, its place apart, and what feeds it, or the class of the error. -/
def outcome (x : Except Error (ConstructorRef × Feeds)) : Except ErrorClass (ConstructorRef × Feeds) :=
  (x.mapError Error.errorClass).map (Prod.map placeless id)

/-- The constructors that only miss sources, with what they miss and how many bindings they take. -/
def lacking (fits : List (ConstructorRef × Fit)) : List (ConstructorRef × List String × Nat) :=
  fits.filterMap fun (r, fit) =>
    match fit with
    | .missing parameters consumed => some (r, parameters, consumed)
    | _ => none

/-- Missing sources are reported exactly if one constructor is nearest. -/
theorem errorClass_unresolved (target : TypeId) (c : Configuration) (fits : List (ConstructorRef × Fit)) :
    (unresolved target c fits).errorClass =
      if (best betterMiss (lacking fits)).length = 1 then .unboundRequiredParameter
      else .constructorResolutionFailed := by
  by_cases hone : (best betterMiss (lacking fits)).length = 1
  · obtain ⟨⟨r, parameters, consumed⟩, hnearest⟩ := List.length_eq_one_iff.1 hone
    rw [if_pos hone]
    unfold unresolved
    simp only
    split
    · rfl
    · rename_i hnone
      exact absurd hnearest (hnone r parameters consumed)
  · rw [if_neg hone]
    unfold unresolved
    simp only
    split
    · rename_i hnearest
      exact absurd (congrArg List.length hnearest) hone
    · rfl

variable {fits fits' : List (ConstructorRef × Fit)}

theorem map_fitting (fits : List (ConstructorRef × Fit)) :
    (fitting fits).map (Prod.map placeless id) = fitting (fits.map (Prod.map placeless id)) := by
  rw [fitting, fitting, List.filterMap_map, List.map_filterMap]
  refine List.filterMap_congr fun e _ => ?_
  obtain ⟨r, f⟩ := e
  cases f <;> rfl

theorem map_lacking (fits : List (ConstructorRef × Fit)) :
    (lacking fits).map (Prod.map placeless id) = lacking (fits.map (Prod.map placeless id)) := by
  rw [lacking, lacking, List.filterMap_map, List.map_filterMap]
  refine List.filterMap_congr fun e _ => ?_
  obtain ⟨r, f⟩ := e
  cases f <;> rfl

/-- The same fits in another order give the same outcome. -/
theorem outcome_choose_of_perm
    (h : (fits.map (Prod.map placeless id)).Perm (fits'.map (Prod.map placeless id))) :
    outcome (choose target c fits') = outcome (choose target c fits) := by
  have hbest : ((best betterFit (fitting fits)).map (Prod.map placeless id)).Perm
      ((best betterFit (fitting fits')).map (Prod.map placeless id)) := by
    refine map_best_perm (fun _ _ => rfl) ?_
    rw [map_fitting, map_fitting]
    exact h.filterMap _
  have hlacking : (best betterMiss (lacking fits)).length = (best betterMiss (lacking fits')).length := by
    have hperm : ((best betterMiss (lacking fits)).map (Prod.map placeless id)).Perm
        ((best betterMiss (lacking fits')).map (Prod.map placeless id)) := by
      refine map_best_perm (fun _ _ => rfl) ?_
      rw [map_lacking, map_lacking]
      exact h.filterMap _
    simpa using hperm.length_eq
  have hlength := hbest.length_eq
  rw [List.length_map, List.length_map] at hlength
  unfold choose
  match hfits : best betterFit (fitting fits), hfits' : best betterFit (fitting fits') with
  | [], [] =>
    simp only [outcome, Except.mapError, Except.map, errorClass_unresolved, hlacking]
  | [one], [one'] =>
    rw [hfits, hfits'] at hbest
    have heq := List.singleton_perm_singleton.1 hbest
    simp only [outcome, Except.mapError, Except.map, heq]
  | _ :: _ :: _, _ :: _ :: _ => rfl
  | [], _ :: _ | _ :: _, [] | [_], _ :: _ :: _ | _ :: _ :: _, [_] => simp [hfits, hfits'] at hlength

/-- The constructors of a reordered type are the same but for their places. -/
theorem map_placeless_constructors (h : t.Reorders t') (id : TypeId) :
    ((t.constructors id).map placeless).Perm ((t'.constructors id).map placeless) := by
  have hmap : ∀ t : TypeTable, (t.constructors id).map placeless =
      (t.model id).constructors.map fun k => ⟨id, 0, k⟩ := by
    intro t
    rw [TypeTable.constructors, List.map_map]
    have hfst := congrArg (List.map fun k => ConstructorRef.mk id 0 k)
      (List.zipIdx_map_fst 0 (t.model id).constructors)
    rw [List.map_map] at hfst
    exact hfst
  rw [hmap, hmap]
  exact (h.model id).constructors.map _

theorem fit_of_reorders (h : t.Reorders t') (r : ConstructorRef) :
    fit t' c strategy r = fit t c strategy r := by
  have hblocked : ∀ m, blocked t' r.owner m = blocked t r.owner m := fun m => by
    simp only [blocked, h.findMember?]
  simp only [fit, hblocked]

/-- The fits of a reordered type are the same but for the places of the constructors. -/
theorem map_offers (h : t.Reorders t') :
    ((offers t target c strategy).map (Prod.map placeless id)).Perm
      ((offers t' target c strategy).map (Prod.map placeless id)) := by
  have hmap : ∀ t₁ : TypeTable, (offers t₁ target c strategy).map (Prod.map placeless id) =
      ((t₁.constructors target).map placeless).map fun r => (r, fit t₁ c strategy r) := by
    intro t₁
    rw [offers, List.map_map, List.map_map]
    rfl
  rw [hmap, hmap]
  simp only [fit_of_reorders h]
  exact (map_placeless_constructors h target).map _

/-- A constructor that takes numbers by these names. -/
def taking (names : List String) : Constructor :=
  ⟨names.map fun name => ⟨name, .int32, none⟩, .open, .assign []⟩

/-- A type of points with these constructors. -/
def points (constructors : List Constructor) : TypeTable :=
  ⟨[{ (default : TypeModel) with name := "Point", constructors }]⟩

/-- Both coordinates of a point are given. -/
def pointConfiguration : Configuration :=
  ⟨0, .declared 0, [.of (.name "x"), .of (.name "y")], [], none, none⟩

end Fitting
end Reshape
