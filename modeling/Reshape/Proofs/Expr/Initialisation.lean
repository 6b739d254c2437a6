import Reshape.Proofs.Expr.Construction
import Reshape.Proofs.Store.Cells
import Reshape.Proofs.Store.Equality
import Reshape.Proofs.Store.History

/-!
# What member initialisation writes

A member initialisation evaluates an object and stores values into members of it.  Each initialiser writes one
cell (`Machine.keeps_assign_within`), so beside what the objects and values make for themselves only those cells
change (`Machine.keeps_initialise_within`).  Other objects stay as they are.  Whether a target is static is not
asked when the initialisation is built (`Expr.accepts_target_iff`); the cell of a static target is a static slot.
-/

namespace Reshape

/-! ## Targets -/

namespace AssignTarget

/-- The type that declares what is assigned. -/
def owner : AssignTarget → TypeId
  | field f | primitive f => f.owner
  | setter g => g.owner

/-- Whether what is assigned belongs to the type and not to its instances. -/
def isStatic : AssignTarget → Bool
  | field f | primitive f => f.field.isStatic
  | setter g => g.method.isStatic

/-- The slot that is written, unless a supplied body is run. -/
def slot? : AssignTarget → Option Nat
  | field f | primitive f => some f.field.slot
  | setter g =>
    match g.method.body with
    | .storeSlot slot | .storeStatic slot => some slot
    | .loadSlot _ | .loadStatic _ | .native _ => none

/-- The static slot that is written. -/
def staticSlot? (target : AssignTarget) : Option StaticSlot :=
  if target.isStatic then target.slot?.map (⟨target.owner, ·⟩) else none

/-- The cell that is written when an object is initialised. -/
def cell? (target : AssignTarget) (ref : ObjectRef) : Option Cell :=
  target.slot?.map fun slot =>
    if target.isStatic then .static ⟨target.owner, slot⟩ else .slot ref.address slot

/-- What is stored for a value: a field converts it first, a setter hands it on. -/
def stored (t : TypeTable) (v : Value) : AssignTarget → Except CastError Value
  | field f | primitive f => t.cast f.field.type v
  | setter _ => .ok v

/-- What can be assigned: a field that is not write-once, a write primitive, or a method of one parameter. -/
def IsAssignable : AssignTarget → Prop
  | field f => f.field.initOnly = false
  | primitive _ => True
  | setter g => g.method.parameters.length = 1

variable {target : AssignTarget} {ref : ObjectRef}

/-- The static slot is the cell of a static target, whatever the object is. -/
theorem cell?_eq_static {key : StaticSlot} :
    target.cell? ref = some (.static key) ↔ target.staticSlot? = some key := by
  cases hstatic : target.isStatic <;> simp [cell?, staticSlot?, hstatic]

/-- A slot that is written is one of the object. -/
theorem address_of_cell? {address slot : Nat} (h : target.cell? ref = some (.slot address slot)) :
    address = ref.address := by
  obtain ⟨slot', -, h⟩ := Option.map_eq_some_iff.1 h
  split at h <;> cases h
  rfl

end AssignTarget

/-! ## Accepted targets -/

namespace Expr

variable {t : TypeTable}

theorem exists_targetParts_iff {target : AssignTarget} {owner : TypeId} :
    (∃ type name, targetParts target = .ok (owner, type, name)) ↔
      target.IsAssignable ∧ target.owner = owner := by
  cases target with
  | field f =>
    cases honce : f.field.initOnly <;>
      simp [targetParts, AssignTarget.IsAssignable, AssignTarget.owner, honce]
  | primitive f => simp [targetParts, AssignTarget.IsAssignable, AssignTarget.owner]
  | setter g =>
    simp only [targetParts, AssignTarget.IsAssignable, AssignTarget.owner]
    split
    · rename_i p hp
      simp [hp]
    · rename_i hparameters
      constructor
      · rintro ⟨_, _, h⟩
        cases h
      · rintro ⟨h, -⟩
        obtain ⟨p, hp⟩ := List.length_eq_one_iff.1 h
        exact absurd hp (hparameters p)

/-- An initialiser is bound if its target can be assigned and is declared on the type of the object or on a base,
and its value is converted. -/
theorem bindMember_eq_ok {type : TypeId} {target : AssignTarget} {value : Expr} {bound : AssignTarget × Expr} :
    bindMember t type target value = .ok bound ↔ ∃ owner memberType name value',
      targetParts target = .ok (owner, memberType, name) ∧ t.isSubtype type owner = true ∧
        value.coerce t memberType = .ok value' ∧ bound = (target, value') := by
  constructor
  · intro h
    obtain ⟨⟨owner, memberType, name⟩, hparts, h⟩ := bind_eq_ok.1 h
    simp only at h
    cases hsub : t.isSubtype type owner with
    | false =>
      rw [if_pos (by simp [hsub])] at h
      cases h
    | true =>
      rw [if_neg (by simp [hsub])] at h
      obtain ⟨value', hvalue, h⟩ := bind_eq_ok.1 h
      cases h
      exact ⟨owner, memberType, name, value', hparts, hsub, hvalue, rfl⟩
  · rintro ⟨owner, memberType, name, value', hparts, hsub, hvalue, rfl⟩
    refine bind_eq_ok.2 ⟨_, hparts, ?_⟩
    simp only [hsub, Bool.not_true, Bool.false_eq_true, if_false]
    exact bind_eq_ok.2 ⟨value', hvalue, rfl⟩

/-- **A target is accepted whether it is static or not.** -/
theorem accepts_target_iff {object : Expr} {type : TypeId} (h : object.type = .object type)
    (target : AssignTarget) : (∃ value e, mkMemberInit t object [(target, value)] = .ok e) ↔
      target.IsAssignable ∧ t.isSubtype type target.owner = true := by
  have hbound : (∃ value e, mkMemberInit t object [(target, value)] = .ok e) ↔
      ∃ value bound, bindMember t type target value = .ok bound := by
    simp only [mkMemberInit, h]
    constructor
    · rintro ⟨value, e, he⟩
      obtain ⟨bound, hbound, -⟩ := bind_eq_ok.1 he
      obtain ⟨b, _, hb, -, rfl⟩ := List.forall₂_cons_left_iff.1 (mapM_eq_ok.1 hbound)
      exact ⟨value, b, hb⟩
    · rintro ⟨value, bound, hbound⟩
      exact ⟨value, _, bind_eq_ok.2 ⟨[bound], mapM_eq_ok.2 (.cons hbound .nil), rfl⟩⟩
  rw [hbound]
  constructor
  · rintro ⟨value, bound, hbound⟩
    obtain ⟨owner, memberType, name, -, hparts, hsub, -⟩ := bindMember_eq_ok.1 hbound
    obtain ⟨hassignable, rfl⟩ := exists_targetParts_iff.1 ⟨memberType, name, hparts⟩
    exact ⟨hassignable, hsub⟩
  · rintro ⟨hassignable, hsub⟩
    obtain ⟨memberType, name, hparts⟩ := exists_targetParts_iff.2 ⟨hassignable, rfl⟩
    exact ⟨.zero memberType, _,
      bindMember_eq_ok.2 ⟨_, memberType, name, _, hparts, hsub, coerce_self t (.zero memberType), rfl⟩⟩

end Expr

/-! ## Writing one member -/

/-- The objects of an earlier store still are there, and besides only some cells change. -/
def Discipline.within (s₀ : Store) (cells : Cell → Prop) : Discipline where
  Holds := s₀.Grows
  Leads s s' := s.ChangesWithin cells s'
  refl := .refl
  trans := .trans
  grows h := h.grows

/-- More cells may change. -/
theorem Discipline.Keeps.widen {α : Type} {s₀ s : Store} {cells cells' : Cell → Prop} {a : Action α}
    {post : α → Store → Prop} (h : (Discipline.within s₀ cells).Keeps s a post)
    (hcells : ∀ cell, cells cell → cells' cell) : (Discipline.within s₀ cells').Keeps s a post :=
  ⟨h.holds, h.leads.mono hcells, h.result⟩

namespace Machine

variable {m : Machine} {s₀ s : Store} {cells : Cell → Prop}

/-- Writing a static slot, which holds the value afterwards. -/
theorem keeps_storeStatic_held (hs : s₀.Grows s) {owner : TypeId} {slot : Nat}
    (hcell : cells (.static ⟨owner, slot⟩)) (v : Value) :
    (Discipline.within s₀ cells).Keeps s (m.storeStatic owner slot v) fun _ s' =>
      s'.static? ⟨owner, slot⟩ = some v := by
  have hchanges : s.ChangesWithin cells (s.setStatic ⟨owner, slot⟩ v) := Store.changesWithin_setStatic s v hcell
  rcases storeStatic_cases (m := m) (s := s) owner slot v with hok | ⟨e, herror⟩
  · constructor <;> rw [hok]
    · exact hs.trans hchanges.grows
    · exact hchanges
    · intro _ _
      rw [Store.static?_setStatic, if_pos rfl]
  · constructor <;> rw [herror]
    · exact hs
    · exact .refl s
    · exact fun _ h => by cases h

theorem keeps_storeSlot_within (hs : s₀.Grows s) {ref : ObjectRef} {slot : Nat}
    (hcell : cells (.slot ref.address slot)) (v : Value) :
    (Discipline.within s₀ cells).Keeps s (m.storeSlot ref slot v) fun _ _ => True :=
  Discipline.keeps_storeSlot hs ref slot fun _ _ w _ _ _ =>
    have hchanges := Store.changesWithin_setSlot s w hcell
    ⟨hs.trans hchanges.grows, hchanges⟩

/-- Writing a field writes its cell.  If that is a static slot it holds the converted value. -/
theorem keeps_storeField_within (hs : s₀.Grows s) {f : FieldRef} {ref : ObjectRef}
    (hcell : ∀ cell, (AssignTarget.field f).cell? ref = some cell → cells cell) (v : Value) :
    (Discipline.within s₀ cells).Keeps s (m.storeField f (some ref) v) fun _ s' =>
      ∀ key, (AssignTarget.field f).staticSlot? = some key →
        ∃ w, m.types.cast f.field.type v = .ok w ∧ s'.static? key = some w := by
  have hcast : (Discipline.within s₀ cells).Keeps s (Action.ofCast (m.types.cast f.field.type v)) fun w _ =>
      m.types.cast f.field.type v = .ok w := .ofCast hs fun w hw => hw
  rw [storeField]
  refine hcast.bind fun w s₁ hs₁ _ hw => ?_
  cases hstatic : f.field.isStatic with
  | true =>
    have hthere : cells (.static ⟨f.owner, f.field.slot⟩) :=
      hcell _ (by simp [AssignTarget.cell?, AssignTarget.isStatic, AssignTarget.slot?, AssignTarget.owner, hstatic])
    refine (keeps_storeStatic_held hs₁ hthere w).imp fun _ s₂ _ _ hheld key hkey => ⟨w, hw, ?_⟩
    simp only [AssignTarget.staticSlot?, AssignTarget.isStatic, AssignTarget.slot?, AssignTarget.owner, hstatic,
      if_true, Option.map_some, Option.some.injEq] at hkey
    rw [← hkey]
    exact hheld
  | false =>
    have hthere : cells (.slot ref.address f.field.slot) :=
      hcell _ (by simp [AssignTarget.cell?, AssignTarget.isStatic, AssignTarget.slot?, hstatic])
    have hnone : (AssignTarget.field f).staticSlot? = none := by
      simp [AssignTarget.staticSlot?, AssignTarget.isStatic, hstatic]
    simp only [Bool.false_eq_true, if_false]
    refine (Discipline.keeps_requireInstance hs₁ (some ref) f.field.name).bind ?_
    rintro _ s₂ hs₂ - ⟨⟩
    refine (keeps_storeSlot_within hs₂ hthere w).imp fun _ s₃ _ _ _ key hkey => ?_
    cases hnone.symm.trans hkey

/-- A generated setter writes its cell.  If that is a static slot it holds the value as it is. -/
theorem keeps_setter_within (hm : m.types.Declared) (hs : s₀.Grows s) {g : MethodRef} (hg : m.types.HasMethod g)
    (hgenerated : g.IsGenerated) {ref : ObjectRef}
    (hcell : ∀ cell, (AssignTarget.setter g).cell? ref = some cell → cells cell) (v : Value) :
    (Discipline.within s₀ cells).Keeps s (m.invoke g (some ref) [v]) fun _ s' =>
      ∀ key, (AssignTarget.setter g).staticSlot? = some key → s'.static? key = some v := by
  have hreceiver : receiverFor g (some ref) = pure (if g.method.isStatic then none else some ref) := by
    unfold receiverFor
    split <;> rfl
  have hargument : onlyArgument [v] g.method.name = pure v := rfl
  rw [invoke_eq, hreceiver, pure_bind, runBody, hargument]
  have hnone : (AssignTarget.setter g).slot? = none → (AssignTarget.setter g).staticSlot? = none := by
    intro hslot
    simp [AssignTarget.staticSlot?, hslot]
  cases hbody : g.method.body with
  | loadSlot slot =>
    have hnever := hnone (by simp [AssignTarget.slot?, hbody])
    refine (Discipline.keeps_requireInstance hs _ _).bind fun used s₁ hs₁ _ _ => ?_
    refine Discipline.keeps_loadSlot hs₁ used slot fun _ _ _ _ key hkey => ?_
    cases hnever.symm.trans hkey
  | loadStatic slot =>
    have hnever := hnone (by simp [AssignTarget.slot?, hbody])
    refine Discipline.keeps_loadStatic hs g.owner slot fun _ _ key hkey => ?_
    cases hnever.symm.trans hkey
  | storeSlot slot =>
    obtain ⟨p, -, -, hsetter, hstatic, -⟩ := exists_property_of_store hm hg false hbody
    have hinstance : g.method.isStatic = false := hsetter.isStatic.trans hstatic
    have hthere : cells (.slot ref.address slot) :=
      hcell _ (by simp [AssignTarget.cell?, AssignTarget.isStatic, AssignTarget.slot?, hbody, hinstance])
    have hnever : (AssignTarget.setter g).staticSlot? = none := by
      simp [AssignTarget.staticSlot?, AssignTarget.isStatic, hinstance]
    simp only [hinstance, Bool.false_eq_true, if_false, pure_bind]
    have hrequired := Discipline.keeps_requireInstance (d := .within s₀ cells) hs (some ref) g.method.name
    refine hrequired.bind ?_
    rintro _ s₁ hs₁ - ⟨⟩
    refine (keeps_storeSlot_within hs₁ hthere v).bind fun _ s₂ hs₂ _ _ => .pure hs₂ fun key hkey => ?_
    cases hnever.symm.trans hkey
  | storeStatic slot =>
    obtain ⟨p, -, -, hsetter, hstatic, -⟩ := exists_property_of_store hm hg true hbody
    have hshared : g.method.isStatic = true := hsetter.isStatic.trans hstatic
    have hthere : cells (.static ⟨g.owner, slot⟩) := by
      refine hcell _ ?_
      simp [AssignTarget.cell?, AssignTarget.isStatic, AssignTarget.slot?, AssignTarget.owner, hbody, hshared]
    simp only [pure_bind]
    refine (keeps_storeStatic_held hs hthere v).bind fun _ s₁ hs₁ _ hheld => .pure hs₁ fun key hkey => ?_
    simp only [AssignTarget.staticSlot?, AssignTarget.isStatic, AssignTarget.slot?, AssignTarget.owner, hbody, hshared,
      if_true, Option.map_some, Option.some.injEq] at hkey
    rw [← hkey]
    exact hheld
  | native body => exact absurd hbody (hgenerated body)

/-- An initialiser that runs no supplied body writes its cell.  If that is a static slot it holds what is stored
for the value. -/
theorem keeps_assign_within (hm : m.types.Declared) (hs : s₀.Grows s) {target : AssignTarget}
    (htarget : m.types.HasTarget target) (hgenerated : target.IsGenerated) {ref : ObjectRef}
    (hcell : ∀ cell, target.cell? ref = some cell → cells cell) (v : Value) :
    (Discipline.within s₀ cells).Keeps s (m.assign ref target v) fun _ s' =>
      ∀ key, target.staticSlot? = some key → ∃ w, target.stored m.types v = .ok w ∧ s'.static? key = some w := by
  cases target with
  | field f => exact keeps_storeField_within hs hcell v
  | primitive f => exact keeps_storeField_within hs hcell v
  | setter g =>
    refine (keeps_setter_within hm hs htarget hgenerated hcell v).map fun _ s' _ _ hheld key hkey => ?_
    exact ⟨v, rfl, hheld key hkey⟩

end Machine

/-! ## Evaluating an initialisation -/

/-- What evaluating an expression in a frame comes to. -/
def Machine.outcome (m : Machine) (scope : Scope) (frame : List Value) (s : Store) (e : Expr) :
    Except Error (Value × List Value) × Store :=
  ((m.evaluate scope e).run frame).perform s

/-- In a store and in all that come about from it, evaluating the expression leaves what is there as it is, whether
it succeeds or fails. -/
def Expr.LeavesStorage (m : Machine) (scope : Scope) (s : Store) (e : Expr) : Prop :=
  ∀ s₁, s.Grows s₁ → ∀ frame, s₁.Widens (m.outcome scope frame s₁ e).2

/-- The cell is that of a target. -/
def AssignTarget.Among (bindings : List (AssignTarget × Expr)) (ref : ObjectRef) (cell : Cell) : Prop :=
  ∃ b ∈ bindings, b.1.cell? ref = some cell

/-- Evaluating the value of an initialiser, after the ones before it, yields something for which this is stored. -/
def Machine.StoresAfter (m : Machine) (scope : Scope) (ref : ObjectRef) (frame : List Value) (s : Store)
    (front : List (AssignTarget × Expr)) (b : AssignTarget × Expr) (w : Value) : Prop :=
  ∃ frame₁ s₁ v frame₂ s₂, ((m.initialise scope ref front).run frame).perform s = (.ok ((), frame₁), s₁) ∧
    m.outcome scope frame₁ s₁ b.2 = (.ok (v, frame₂), s₂) ∧ b.1.stored m.types v = .ok w

/-- Leaving all that is there alone changes none of it. -/
theorem Store.Widens.changesWithin {s s' : Store} (h : s.Widens s') (cells : Cell → Prop) :
    s.ChangesWithin cells s' := by
  refine ⟨fun address r hr => ⟨r, h.includes address r hr, rfl⟩, fun cell hhas _ => ?_⟩
  cases cell with
  | slot address slot =>
    obtain ⟨r, hr⟩ := Option.isSome_iff_exists.1 hhas
    simp only [content?, hr, h.includes address r hr]
  | static key => simp only [content?, Store.static?, h.statics]

namespace Expr

variable {m : Machine} {t : TypeTable} {scope : Scope} {s : Store} {e e' : Expr}

/-- A literal leaves everything alone. -/
theorem leavesStorage_constant (v : Value) (type : ValueType) :
    (constant v type).LeavesStorage m scope s := by
  intro s₁ _ frame
  rw [Machine.outcome, Machine.evaluate]
  exact .refl s₁

/-- Converting an expression leaves alone what the expression does. -/
theorem LeavesStorage.coerce (h : e.LeavesStorage m scope s) {type : ValueType} (he : e.coerce t type = .ok e') :
    e'.LeavesStorage m scope s := by
  have hconvert : ∀ rule, (convert rule e type).LeavesStorage m scope s := by
    intro rule s₁ hg frame
    have hinner := h s₁ hg frame
    rw [Machine.outcome] at hinner ⊢
    rw [Machine.evaluate, StateT.run_bind, Action.perform_bind]
    cases hrun : ((m.evaluate scope e).run frame).perform s₁ with
    | mk result s₂ =>
      rw [hrun] at hinner
      cases result with
      | error cause => exact hinner
      | ok p =>
        simp only
        cases m.types.cast type p.1 <;> exact hinner
  obtain ⟨rule, -, rfl⟩ := convertTo_eq_ok he
  unfold convertBy
  split
  · exact h
  · split
    · exact leavesStorage_constant _ _
    · exact hconvert _
  · exact hconvert _

end Expr

namespace Machine

variable {m : Machine} {scope : Scope} {s₀ s : Store} {ref : ObjectRef} {bound : List (AssignTarget × Expr)}

/-- An expression that leaves what is there alone changes no cell that was there. -/
theorem keeps_leavesStorage {e : Expr} (he : e.LeavesStorage m scope s₀) (hs : s₀.Grows s) (cells : Cell → Prop)
    (frame : List Value) : (Discipline.within s₀ cells).Keeps s ((m.evaluate scope e).run frame) fun p s' =>
      m.outcome scope frame s e = (.ok p, s') := by
  have hchanges := (he s hs frame).changesWithin cells
  exact ⟨hs.trans hchanges.grows, hchanges, fun p hp => Prod.ext hp rfl⟩

/-- What is stored for an initialiser does not depend on where the initialisation starts. -/
theorem StoresAfter.cons {frame frame₁ frame₂ : List Value} {s₁ s₂ : Store} {target : AssignTarget} {e : Expr}
    {v : Value} {front : List (AssignTarget × Expr)} {b : AssignTarget × Expr} {w : Value}
    (h : m.StoresAfter scope ref frame₂ s₂ front b w) (he : m.outcome scope frame s e = (.ok (v, frame₁), s₁))
    (ha : ((liftM (m.assign ref target v) : Evaluation Unit).run frame₁).perform s₁ = (.ok ((), frame₂), s₂)) :
    m.StoresAfter scope ref frame s ((target, e) :: front) b w := by
  obtain ⟨frame₃, s₃, u, frame₄, s₄, hfront, hb, hw⟩ := h
  refine ⟨frame₃, s₃, u, frame₄, s₄, ?_, hb, hw⟩
  rw [outcome] at he
  rw [initialise, StateT.run_bind, Action.perform_bind_ok he, StateT.run_bind, Action.perform_bind_ok ha]
  exact hfront

/-- Initialising members changes the cells of their targets only.  A static slot that is among them holds what its
last initialiser stores. -/
theorem keeps_initialise_within (hm : m.types.Declared)
    (htargets : ∀ b ∈ bound, m.types.HasTarget b.1 ∧ b.1.IsGenerated)
    (hvalues : ∀ b ∈ bound, b.2.LeavesStorage m scope s₀) (hs : s₀.Grows s) (frame : List Value) :
    (Discipline.within s₀ (AssignTarget.Among bound ref)).Keeps s ((m.initialise scope ref bound).run frame)
      fun _ s' => ∀ front b back key, bound = front ++ b :: back → b.1.staticSlot? = some key →
        (∀ b' ∈ back, b'.1.staticSlot? ≠ some key) →
          ∃ w, m.StoresAfter scope ref frame s front b w ∧ s'.static? key = some w := by
  induction bound generalizing s frame with
  | nil =>
    rw [initialise]
    exact .pure hs fun front b back key hsplit => by simp at hsplit
  | cons first rest ih =>
    obtain ⟨target, e⟩ := first
    obtain ⟨⟨htarget, hgenerated⟩, hrestTargets⟩ := List.forall_mem_cons.1 htargets
    obtain ⟨hvalue, hrestValues⟩ := List.forall_mem_cons.1 hvalues
    have hrestCells : ∀ cell, AssignTarget.Among rest ref cell →
        AssignTarget.Among ((target, e) :: rest) ref cell :=
      fun cell ⟨b, hb, hcell⟩ => ⟨b, List.mem_cons_of_mem _ hb, hcell⟩
    rw [initialise, StateT.run_bind]
    refine (keeps_leavesStorage hvalue hs _ frame).bind fun p s₁ hs₁ _ hp => ?_
    obtain ⟨v, frame₁⟩ := p
    rw [StateT.run_bind]
    have hassign : (Discipline.within s₀ (AssignTarget.Among ((target, e) :: rest) ref)).Keeps s₁
        ((liftM (m.assign ref target v) : Evaluation Unit).run frame₁) fun _ s' => ∀ key,
          target.staticSlot? = some key → ∃ w, target.stored m.types v = .ok w ∧ s'.static? key = some w :=
      (keeps_assign_within hm hs₁ htarget hgenerated (fun cell hcell => ⟨_, List.mem_cons_self .., hcell⟩) v).bind
        (f := fun u => Pure.pure (u, frame₁)) fun _ _ hs₂ _ hheld => .pure hs₂ hheld
    refine hassign.with_run.bind fun q s₂ hs₂ _ ⟨hq, hheld⟩ => ?_
    have hrest := ih hrestTargets hrestValues hs₂ q.2
    refine ⟨hrest.holds, hrest.leads.mono hrestCells, fun u hu front b back key hsplit hkey hback => ?_⟩
    cases front with
    | nil =>
      obtain ⟨rfl, rfl⟩ := List.cons.inj hsplit
      obtain ⟨w, hw, hstatic⟩ := hheld key hkey
      -- no later initialiser has the slot
      have hkept := hrest.leads.content (.static key) trivial
        fun ⟨b', hb', hcell⟩ => hback b' hb' (AssignTarget.cell?_eq_static.1 hcell)
      have hstores : m.StoresAfter scope ref frame s [] (target, e) w :=
        ⟨frame, s, v, frame₁, s₁, by rw [initialise]; rfl, hp, hw⟩
      exact ⟨w, hstores, hkept.trans hstatic⟩
    | cons b' front =>
      obtain ⟨hfirst, hrestSplit⟩ := List.cons.inj hsplit
      subst hfirst
      obtain ⟨w, hstores, hstatic⟩ := hrest.result u hu front b back key hrestSplit hkey hback
      exact ⟨w, hstores.cons hp hq, hstatic⟩

/-- The cells that an initialisation writes: those of the targets, on the object that is initialised. -/
def Initialised (m : Machine) (scope : Scope) (frame : List Value) (s : Store) (object : Expr)
    (bound : List (AssignTarget × Expr)) (cell : Cell) : Prop :=
  ∃ ref frame₁ s₁, m.outcome scope frame s object = (.ok (.object ref, frame₁), s₁) ∧
    AssignTarget.Among bound ref cell

/-- An initialisation changes the cells of its targets only, on the object that it initialises.  A static slot that is
among them holds what its last initialiser stores. -/
theorem keeps_memberInit_within (hm : m.types.Declared)
    (htargets : ∀ b ∈ bound, m.types.HasTarget b.1 ∧ b.1.IsGenerated) {object : Expr}
    (hobject : object.LeavesStorage m scope s) (hvalues : ∀ b ∈ bound, b.2.LeavesStorage m scope s)
    (frame : List Value) : (Discipline.within s (m.Initialised scope frame s object bound)).Keeps s
      ((m.evaluate scope (.memberInit object bound)).run frame) fun _ s' =>
        ∀ front b back key, bound = front ++ b :: back → b.1.staticSlot? = some key →
          (∀ b' ∈ back, b'.1.staticSlot? ≠ some key) → ∃ ref frame₁ s₁ w,
            m.outcome scope frame s object = (.ok (.object ref, frame₁), s₁) ∧
              m.StoresAfter scope ref frame₁ s₁ front b w ∧ s'.static? key = some w := by
  rw [evaluate, StateT.run_bind]
  refine (keeps_leavesStorage hobject (.refl s) _ frame).bind fun p s₁ hs₁ _ hp => ?_
  obtain ⟨v, frame₁⟩ := p
  cases v with
  | object ref =>
    have hcells : ∀ cell, AssignTarget.Among bound ref cell → m.Initialised scope frame s object bound cell :=
      fun cell hcell => ⟨ref, frame₁, s₁, hp, hcell⟩
    simp only [StateT.run_bind]
    refine ((keeps_initialise_within hm htargets hvalues hs₁ frame₁).widen hcells).bind fun q s₂ hs₂ _ hq =>
      .pure hs₂ fun front b back key hsplit hkey hback => ?_
    obtain ⟨w, hstores, hheld⟩ := hq front b back key hsplit hkey hback
    exact ⟨ref, frame₁, s₁, w, hp, hstores, hheld⟩
  | _ => exact .throw hs₁

end Machine
namespace Expr

/-- An accepted initialisation has the given targets, with values that leave alone what the given ones do. -/
theorem exists_of_mkMemberInit {t : TypeTable} {m : Machine} {scope : Scope} {s : Store} {object e : Expr}
    {bindings : List (AssignTarget × Expr)} (h : mkMemberInit t object bindings = .ok e)
    (hvalues : ∀ b ∈ bindings, b.2.LeavesStorage m scope s) : ∃ bound, e = .memberInit object bound ∧
      bound.map (·.1) = bindings.map (·.1) ∧ ∀ b ∈ bound, b.2.LeavesStorage m scope s := by
  unfold mkMemberInit at h
  split at h
  · obtain ⟨bound, hbound, h⟩ := bind_eq_ok.1 h
    cases h
    have hall := mapM_eq_ok.1 hbound
    refine ⟨bound, rfl, map_eq_of_forall₂ hall fun b b' hb => ?_, fun b hb => ?_⟩
    · obtain ⟨-, -, -, -, -, -, -, rfl⟩ := bindMember_eq_ok.1 hb
      rfl
    · obtain ⟨b₀, hb₀, heq⟩ := exists_of_mem_forall₂ hall hb
      obtain ⟨_, _, _, value, -, -, hvalue, rfl⟩ := bindMember_eq_ok.1 heq
      exact (hvalues b₀ hb₀).coerce hvalue
  · cases h

/-- **What a member initialisation changes.**  Let its targets run no supplied body, and the initialised expression
and the values leave existing storage alone.  Then evaluating it, whether it succeeds or fails, leaves every object
as it was but the one that the initialised expression evaluates to, and every static slot but those of static
targets: if there are none, it changes that object only.  Where it succeeds, the slot of a static target holds what
its last initialiser stores.  Static targets are accepted as others are: that a target can be assigned, and is
declared on the type of the object or on a base, is all that is asked. -/
theorem memberInit_changes {m : Machine} (hm : m.types.Declared) {t : TypeTable} {object e : Expr}
    {bindings : List (AssignTarget × Expr)} (he : mkMemberInit t object bindings = .ok e)
    (htargets : ∀ b ∈ bindings, m.types.HasTarget b.1 ∧ b.1.IsGenerated) {scope : Scope} {s : Store}
    (hobject : object.LeavesStorage m scope s) (hvalues : ∀ b ∈ bindings, b.2.LeavesStorage m scope s)
    (frame : List Value) :
    (∀ address r, s.record? address = some r → (∀ ref frame₁ s₁,
        m.outcome scope frame s object = (.ok (.object ref, frame₁), s₁) → ref.address ≠ address) →
      (m.outcome scope frame s e).2.record? address = some r) ∧
    (∀ key, (∀ b ∈ bindings, b.1.staticSlot? ≠ some key) →
      (m.outcome scope frame s e).2.static? key = s.static? key) ∧
    (∃ bound, e = .memberInit object bound ∧ bound.map (·.1) = bindings.map (·.1) ∧
      ∀ p, (m.outcome scope frame s e).1 = .ok p → ∀ front b back key, bound = front ++ b :: back →
        b.1.staticSlot? = some key → (∀ b' ∈ back, b'.1.staticSlot? ≠ some key) → ∃ ref frame₁ s₁ w,
          m.outcome scope frame s object = (.ok (.object ref, frame₁), s₁) ∧
            m.StoresAfter scope ref frame₁ s₁ front b w ∧ (m.outcome scope frame s e).2.static? key = some w) ∧
    ∀ target type, object.type = .object type →
      ((∃ value e', mkMemberInit t object [(target, value)] = .ok e') ↔
        target.IsAssignable ∧ t.isSubtype type target.owner = true) := by
  obtain ⟨bound, rfl, hsame, hboundValues⟩ := exists_of_mkMemberInit he hvalues
  have hmem : ∀ b ∈ bound, ∃ b₀ ∈ bindings, b₀.1 = b.1 := fun b hb =>
    List.mem_map.1 (hsame ▸ List.mem_map_of_mem hb)
  have hboundTargets : ∀ b ∈ bound, m.types.HasTarget b.1 ∧ b.1.IsGenerated := by
    intro b hb
    obtain ⟨b₀, hb₀, heq⟩ := hmem b hb
    exact heq ▸ htargets b₀ hb₀
  have hrun := Machine.keeps_memberInit_within hm hboundTargets hobject hboundValues frame
  refine ⟨fun address r hr hother => ?_, fun key hkey => ?_, ⟨bound, rfl, hsame, hrun.result⟩,
    fun target type htype => accepts_target_iff htype target⟩
  · refine hrun.leads.record? hr fun slot => ?_
    rintro ⟨ref, frame₁, s₁, hobject', b, -, hcell⟩
    exact hother ref frame₁ s₁ hobject' (AssignTarget.address_of_cell? hcell).symm
  · refine hrun.leads.content (.static key) trivial ?_
    rintro ⟨ref, -, -, -, b, hb, hcell⟩
    obtain ⟨b₀, hb₀, heq⟩ := hmem b hb
    exact hkey b₀ hb₀ (heq ▸ AssignTarget.cell?_eq_static.1 hcell)

/-! ### A static field that is initialised on an object -/

/-- How much a jar holds at most, which all jars share. -/
def capacity : FieldRef := ⟨0, 0, ⟨"Capacity", .int32, .open, true, false, 0⟩⟩

/-- Jars have a capacity in common, and a level each. -/
def jars : TypeTable :=
  TypeTable.empty.push ⟨"Jar", .declared, none, [], [], [capacity.field, ⟨"Level", .int32, .open, false, false, 0⟩],
    [], [], [⟨[], .open, .assign []⟩], [.int32], [.int32]⟩

/-- A machine with jars and without supplied bodies. -/
def jarMachine : Machine := ⟨jars, fun _ _ _ => pure .null, fun _ _ _ => pure ()⟩

/-- A new jar. -/
def jar : Expr := .construct ⟨0, 0, ⟨[], .open, .assign []⟩⟩ []

theorem declared_jars : jars.Declared :=
  .declare (d := ⟨"Jar", .declared, none, [], [], [⟨"Capacity", .int32, .open, true, false⟩,
    ⟨"Level", .int32, .open, false, false⟩], [], [], []⟩) .empty (by simp) rfl

theorem outcome_jar (scope : Scope) (frame : List Value) (s : Store) : jarMachine.outcome scope frame s jar =
    (.ok (.object ⟨s.heap.size, 0⟩, frame), s.push ⟨0, [.int32 0]⟩) := by
  rw [Machine.outcome, jar, Machine.evaluate, Machine.evaluateAll]
  rfl

theorem leavesStorage_jar (scope : Scope) (s : Store) : jar.LeavesStorage jarMachine scope s := by
  intro s₁ _ frame
  rw [outcome_jar]
  exact Store.widens_push s₁ _

/-- A new jar, with a capacity of nine. -/
def sizedJar : Expr := .memberInit jar [(.field capacity, .constant (.int32 9) .int32)]

theorem outcome_sizedJar (scope : Scope) (frame : List Value) (s : Store) :
    jarMachine.outcome scope frame s sizedJar =
      (.ok (.object ⟨s.heap.size, 0⟩, frame), (s.push ⟨0, [.int32 0]⟩).setStatic ⟨0, 0⟩ (.int32 9)) := by
  have hjar := outcome_jar scope frame s
  rw [Machine.outcome] at hjar
  rw [Machine.outcome, sizedJar, Machine.evaluate, StateT.run_bind, Action.perform_bind_ok hjar]
  simp only [Machine.initialise, Machine.evaluate]
  rfl

theorem mkMemberInit_sizedJar :
    mkMemberInit jars jar [(.field capacity, .constant (.int32 9) .int32)] = .ok sizedJar := rfl

theorem targets_sizedJar : ∀ b ∈ [(AssignTarget.field capacity, constant (.int32 9) .int32)],
    jars.HasTarget b.1 ∧ b.1.IsGenerated :=
  List.forall_mem_singleton.2 ⟨rfl, trivial⟩

/-- Another jar stays as it is, and the capacity of all jars is nine. -/
theorem memberInit_changes_sizedJar :
    (jarMachine.outcome ⟨[], []⟩ [] (Store.empty.push ⟨0, [.int32 3]⟩) sizedJar).2.record? 0 =
        some ⟨0, [.int32 3]⟩ ∧
      (jarMachine.outcome ⟨[], []⟩ [] (Store.empty.push ⟨0, [.int32 3]⟩) sizedJar).2.static? ⟨0, 0⟩ =
        some (.int32 9) := by
  obtain ⟨hothers, -, ⟨bound, hbound, -, hheld⟩, -⟩ := memberInit_changes (m := jarMachine) declared_jars
    mkMemberInit_sizedJar targets_sizedJar (leavesStorage_jar ⟨[], []⟩ (Store.empty.push ⟨0, [.int32 3]⟩))
    (List.forall_mem_singleton.2 (leavesStorage_constant _ _)) []
  refine ⟨hothers 0 _ rfl fun ref frame₁ s₁ hjar => ?_, ?_⟩
  · rw [outcome_jar] at hjar
    cases hjar
    decide
  · cases hbound
    have hok := congrArg Prod.fst (outcome_sizedJar ⟨[], []⟩ [] (Store.empty.push ⟨0, [.int32 3]⟩))
    obtain ⟨ref, frame₁, s₁, w, -, ⟨frame₂, s₂, v, frame₃, s₃, -, hvalue, hw⟩, hheld⟩ :=
      hheld _ hok [] _ [] _ rfl rfl (List.forall_mem_nil _)
    rw [Machine.outcome, Machine.evaluate] at hvalue
    cases hvalue
    cases hw
    exact hheld

/-- **A member initialisation can change more than its object**: a static slot, which it has no instance to reach
through. -/
theorem exists_static_initialised : ¬∀ (m : Machine) (t : TypeTable) (object e : Expr)
    (bindings : List (AssignTarget × Expr)) (scope : Scope) (s : Store) (frame : List Value),
    m.types.Declared → mkMemberInit t object bindings = .ok e →
      (∀ b ∈ bindings, m.types.HasTarget b.1 ∧ b.1.IsGenerated) → object.LeavesStorage m scope s →
        (∀ b ∈ bindings, b.2.LeavesStorage m scope s) →
          ∀ key, (m.outcome scope frame s e).2.static? key = s.static? key := by
  intro h
  have hkept := h jarMachine jars jar sizedJar _ ⟨[], []⟩ .empty [] declared_jars mkMemberInit_sizedJar
    targets_sizedJar (leavesStorage_jar _ _) (List.forall_mem_singleton.2 (leavesStorage_constant _ _)) ⟨0, 0⟩
  rw [outcome_sizedJar] at hkept
  cases hkept

end Expr
end Reshape
