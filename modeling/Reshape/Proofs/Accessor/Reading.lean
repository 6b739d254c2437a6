import Reshape.Proofs.Accessor.Cache
import Reshape.Proofs.Expr.Running
import Reshape.Proofs.Store.Slots

/-!
# Reading a member in different ways

An instance member can be read by the node that accessor synthesis makes for it, by navigation, directly
or by name, and by its default accessor.  Navigation and the direct ways hand over what loading the member
yields; the generated node and the accessor also convert what a getter yields to the type of its property
(`Machine.loadTyped`).  So all ways agree exactly when a getter yields a value of its property's type
(`Machine.exists_reads`).  Accessors are shared through a cache, in which every getter is the one made for its
member (`AccessorCache.Reached.sound`).
-/

namespace Reshape

open Action

/-! ## What generated code reads -/

/-- Read a data member as generated code does: what a getter yields is converted to the type of its
property. -/
def Machine.loadTyped (m : Machine) (member : MemberRef) (receiver : Option ObjectRef) : Action Value :=
  match member with
  | .field f => m.loadField f receiver
  | .property p => do
    let v ← m.load (.property p) receiver
    Action.ofCast (m.types.cast p.property.type v)

/-- An expression reads a member of what its receiver yields. -/
inductive Expr.ReadsFrom (receiver : Expr) : MemberRef → Expr → Prop
  /-- A field is accessed. -/
  | field (f : FieldRef) : ReadsFrom receiver (.field f) (.fieldGet f (some receiver))
  /-- The getter of a property is called. -/
  | property {p : PropertyRef} {g : MethodRef} (hg : p.getter? = some g) :
      ReadsFrom receiver (.property p) (.call g (some receiver) [])

/-- The getter of a property is a method of its own type that reads the property. -/
def MemberRef.OwnGetter (member : MemberRef) : Prop :=
  ∀ p g, member = .property p → p.getter? = some g →
    g.owner = p.owner ∧ g.method.IsGetterOf p.property

theorem TypeTable.HasMember.ownGetter {t : TypeTable} (ht : t.Declared) {member : MemberRef}
    (h : t.HasMember member) : member.OwnGetter := by
  rintro p g rfl hg
  have hp : t.HasProperty p := h
  obtain ⟨-, howner, hgetter⟩ := hp.getter (ht.sound _ hp.owner_lt) hg
  exact ⟨howner, hgetter⟩

namespace Machine

variable {m : Machine} {scope : Scope} {s s' : Store} {frame frame' : List Value} {t : TypeTable}
  {ref : ObjectRef}

/-! ## Evaluating receivers -/

/-- Converting an instance to a base leaves it as it is. -/
theorem perform_upcast (t : TypeTable) (rule : ConversionRule) {receiver : Expr} {owner : TypeId}
    (h : ((m.evaluate scope receiver).run frame).perform s = (.ok (.object ref, frame'), s'))
    (hsub : m.types.isSubtype ref.type owner = true) :
    ((m.evaluate scope (receiver.convertBy t rule (.object owner))).run frame).perform s =
      (.ok (.object ref, frame'), s') := by
  have hcast : m.types.cast (.object owner) (.object ref) = .ok (.object ref) := by
    rw [TypeTable.cast, if_pos hsub]
  have hconvert : ((m.evaluate scope (.convert rule receiver (.object owner))).run frame).perform s =
      (.ok (.object ref, frame'), s') := by
    rw [evaluate, StateT.run_bind, perform_bind_ok h]
    simp only [hcast]
    rfl
  unfold Expr.convertBy
  split
  · exact h
  · split
    · rename_i u type _ _ w hw
      rw [evaluate] at h
      cases h
      rw [evaluate]
      rw [TypeTable.cast] at hw
      split at hw
      · cases hw
        rfl
      · cases hw
    · exact hconvert
  · exact hconvert

theorem perform_evaluateReceiver {receiver : Expr}
    (h : ((m.evaluate scope receiver).run frame).perform s = (.ok (.object ref, frame'), s'))
    (member : String) : ((m.evaluateReceiver scope member (some receiver)).run frame).perform s =
      (.ok (some ref, frame'), s') := by
  rw [evaluateReceiver, StateT.run_bind, perform_bind_ok h]
  rfl

/-! ## Evaluating reads -/

/-- Navigation from an object loads the member. -/
theorem perform_navigate {receiver : Expr} {member : MemberRef}
    (h : ((m.evaluate scope receiver).run frame).perform s = (.ok (.object ref, frame'), s')) :
    ((m.evaluate scope (.navigate receiver member)).run frame).perform s =
      ((·, frame') <$> m.load member (some ref)).perform s' := by
  rw [evaluate, StateT.run_bind, perform_bind_ok h, ← run_liftM]

/-- A generated read of an object loads the member and converts what a getter yields. -/
theorem perform_readsFrom {receiver e : Expr} {member : MemberRef} (he : Expr.ReadsFrom receiver member e)
    (hgetter : member.OwnGetter)
    (h : ((m.evaluate scope receiver).run frame).perform s = (.ok (.object ref, frame'), s')) :
    ((m.evaluate scope e).run frame).perform s =
      ((·, frame') <$> m.loadTyped member (some ref)).perform s' := by
  cases he with
  | field f =>
    rw [evaluate, StateT.run_bind, perform_bind_ok (perform_evaluateReceiver h f.field.name),
      loadTyped, ← run_liftM]
  | @property p g hg =>
    have hresult : g.method.resultType = p.property.type := by
      rw [Method.resultType, (hgetter p g rfl hg).2.result, Option.getD_some]
    rw [evaluate, StateT.run_bind, perform_bind_ok (perform_evaluateReceiver h g.method.name)]
    simp only [evaluateAll, pure_bind, loadTyped, load, hg, hresult]
    simp only [StateT.run_bind, run_liftM, bind_map_left, map_bind]

/-- Loading as generated code does is loading, unless a getter yields something else than its property's
type says. -/
theorem perform_loadTyped_eq_iff {member : MemberRef} {s : Store} :
    (m.loadTyped member (some ref)).perform s = (m.load member (some ref)).perform s ↔
      ∀ p v, member = .property p → ((m.load member (some ref)).perform s).1 = .ok v →
        m.types.conforms p.property.type v = true := by
  cases member with
  | field f => simp [loadTyped, load]
  | property p =>
    cases hload : (m.load (.property p) (some ref)).perform s with
    | mk result s' =>
      cases result with
      | error e =>
        rw [loadTyped, perform_bind_error hload]
        simp
      | ok v =>
        rw [loadTyped, perform_bind_ok hload]
        constructor
        · rintro h p v ⟨⟩ ⟨⟩
          cases hcast : m.types.cast p.property.type v with
          | ok w =>
            simp only [hcast, ofCast, perform_pure, Prod.mk.injEq, Except.ok.injEq, and_true] at h
            exact h ▸ TypeTable.conforms_of_cast hcast
          | error e => simp [hcast, ofCast] at h
        · intro h
          rw [TypeTable.cast_of_conforms (h p v rfl rfl)]
          rfl

end Machine

/-! ## Making reads -/

namespace Accessor

variable {t : TypeTable} {member : MemberRef}

theorem bindReceiver_eq_ok {receiver : Expr} {owner : TypeId} {rule : ConversionRule}
    (hrule : t.implicitRule? receiver.type (.object owner) = some rule) (name : String) :
    Expr.bindReceiver t (some receiver) owner false name =
      .ok (some (receiver.convertBy t rule (.object owner))) := by
  have hclassify : t.classify receiver.type (.object owner) .implicit = some rule := hrule
  simp only [Expr.bindReceiver, Expr.upcastReceiver, hclassify]
  rfl

/-- A readable instance member can be read from every receiver that converts to its owner. -/
theorem exists_readMember (hgetter : member.OwnGetter) (hstatic : member.isStatic = false)
    (hreadable : member.isReadable = true) {receiver : Expr} {rule : ConversionRule}
    (hrule : t.implicitRule? receiver.type (.object member.owner) = some rule) :
    ∃ e, readMember t (some receiver) member = .ok e ∧
      Expr.ReadsFrom (receiver.convertBy t rule (.object member.owner)) member e ∧
      e.type = member.type := by
  cases member with
  | field f =>
    have hstatic : f.field.isStatic = false := hstatic
    have hbound : Expr.bindReceiver t (some receiver) f.owner false f.field.name = _ :=
      bindReceiver_eq_ok hrule f.field.name
    refine ⟨_, ?_, .field f, rfl⟩
    rw [readMember, Expr.mkFieldGet, hstatic, hbound]
    rfl
  | property p =>
    obtain ⟨g, hg⟩ := Option.isSome_iff_exists.1 hreadable
    obtain ⟨howner, hget⟩ := hgetter p g rfl hg
    have hstatic : g.method.isStatic = false := hget.isStatic.trans hstatic
    have hbound : Expr.bindReceiver t (some receiver) p.owner false g.method.name = _ :=
      bindReceiver_eq_ok hrule g.method.name
    refine ⟨_, ?_, .property hg, ?_⟩
    · simp only [readMember, hg]
      rw [Expr.mkCall, hstatic, howner, hbound, hget.parameters]
      rfl
    · exact congrArg (·.getD .any) hget.result

theorem mkNavigate_of_rule (hstatic : member.isStatic = false) (hreadable : member.isReadable = true)
    {receiver : Expr} {rule : ConversionRule}
    (hrule : t.implicitRule? receiver.type (.object member.owner) = some rule) :
    Expr.mkNavigate t receiver member =
      .ok (.navigate (receiver.convertBy t rule (.object member.owner)) member) := by
  have hclassify : t.classify receiver.type (.object member.owner) .implicit = some rule := hrule
  simp only [Expr.mkNavigate, hstatic, hreadable, Expr.upcastReceiver, hclassify]
  rfl

/-! ## Getters -/

theorem castTo_self (t : TypeTable) (e : Expr) : e.castTo t e.type = .ok e := by
  have hrule : t.classify e.type e.type .explicit = some .identity := t.explicitRule?_self e.type
  simp only [Expr.castTo, Expr.convertTo, hrule]
  rfl

theorem memberKey_default (hstatic : member.isStatic = false) :
    memberKey member .get .default =
      ⟨member.id, .get, .typed, some (.object member.owner), member.type, []⟩ := by
  simp [memberKey, boundary, AccessorRequest.default, hstatic]

/-- The default getter of an instance member takes an instance and reads the member from it. -/
theorem exists_getterLambda (hgetter : member.OwnGetter) (hstatic : member.isStatic = false)
    (hreadable : member.isReadable = true) :
    ∃ e, Expr.ReadsFrom (.parameter 0 (.object member.owner)) member e ∧
      getterLambda t (memberKey member .get .default) member =
        .ok ⟨[⟨"instance", .object member.owner⟩], e⟩ := by
  have hrule : t.implicitRule? (Expr.parameter 0 (.object member.owner)).type
      (.object member.owner) = some .identity := TypeTable.implicitRule?_self _
  obtain ⟨e, he, hreads, htype⟩ := exists_readMember hgetter hstatic hreadable hrule
  have hreads : Expr.ReadsFrom (.parameter 0 (.object member.owner)) member e := hreads
  have hinstance : (Expr.parameter 0 (.object member.owner)).castTo t (.object member.owner) =
      .ok (.parameter 0 (.object member.owner)) := castTo_self t _
  have hvalue : e.castTo t member.type = .ok e := by
    rw [← htype]
    exact castTo_self t e
  have hmake : Lambda.make [⟨"instance", .object member.owner⟩] e =
      .ok ⟨[⟨"instance", .object member.owner⟩], e⟩ := by
    cases hreads <;>
      simp [Lambda.make, Expr.nodes, Expr.optionalNodes, Expr.nodesOfAll, Expr.checkParameter,
        Expr.checkScopes, Expr.checkReceiverScopes, Expr.checkAllScopes] <;> rfl
  refine ⟨e, hreads, ?_⟩
  rw [memberKey_default hstatic, getterLambda]
  simp only [receiverOf, hstatic, Bool.false_eq_true, if_false, hinstance]
  refine bind_eq_ok.2 ⟨_, rfl, bind_eq_ok.2 ⟨e, he, bind_eq_ok.2 ⟨e, hvalue, hmake⟩⟩⟩

/-- The default getter of an instance member reads the member. -/
theorem perform_getter {m : Machine} (hgetter : member.OwnGetter) {e : Expr}
    (he : Expr.ReadsFrom (.parameter 0 (.object member.owner)) member e) {ref : ObjectRef}
    (hsub : m.types.isSubtype ref.type member.owner = true) (s : Store) :
    (m.run (Lambda.compile ⟨[⟨"instance", .object member.owner⟩], e⟩) [.object ref]).perform s =
      (m.loadTyped member (some ref)).perform s := by
  have hconf : m.types.conforms (.object member.owner) (.object ref) = true := hsub
  have hreceiver : ∀ layout frame, ((m.evaluate ⟨[.object ref], layout⟩
      (.parameter 0 (.object member.owner))).run frame).perform s =
        (.ok (.object ref, frame), s) := by
    intro layout frame
    rw [Machine.evaluate]
    rfl
  simp only [Machine.run, Lambda.compile, List.map_cons, List.map_nil, List.length_cons,
    List.length_nil, ne_eq, not_true_eq_false, if_false, Machine.checkArguments, hconf, if_true]
  exact Machine.perform_run' (Machine.perform_readsFrom he hgetter (hreceiver _ _))

/-- The default getter that a cache hands out reads the member. -/
theorem exists_run_getter {cache : AccessorCache} (hcache : cache.Reached t) (ht : t.Declared)
    (hmember : t.HasMember member) (hstatic : member.isStatic = false)
    (hreadable : member.isReadable = true) :
    ∃ place cache' a e, (getter t member .default).run.run cache = (.ok place, cache') ∧
      cache'.entries[place]? = some a ∧
      a.lambda = ⟨[⟨"instance", .object member.owner⟩], e⟩ ∧
      Expr.ReadsFrom (.parameter 0 (.object member.owner)) member e := by
  have hgetter := hmember.ownGetter ht
  have hkey : (memberKey member .get .default).member = member.id := rfl
  have hcheck : AccessorRequest.default.checkBinding member.isStatic member.subject = .ok () := rfl
  have hrun : getter t member .default = AccessorCache.getOrBuild (memberKey member .get .default)
      (getterLambda t (memberKey member .get .default) member) := by
    simp only [getter, hcheck, hreadable]
    rfl
  rw [hrun]
  have hanswer := AccessorCache.answer_getOrBuild (memberKey member .get .default)
    (getterLambda t (memberKey member .get .default) member) cache
  generalize (AccessorCache.getOrBuild _ _).run.run cache = outcome at hanswer
  cases hanswer with
  | @found place l hplace =>
    obtain ⟨t₀, hl⟩ := (hcache.sound _ (Array.mem_of_getElem? hplace) rfl).of_hasMember hmember hkey
    obtain ⟨e, hreads, hl'⟩ := exists_getterLambda (t := t₀) hgetter hstatic hreadable
    rw [hl'] at hl
    exact ⟨place, _, _, e, rfl, hplace, (Except.ok.inj hl).symm, hreads⟩
  | failed _ he =>
    obtain ⟨e', -, hl'⟩ := exists_getterLambda (t := t) hgetter hstatic hreadable
    rw [hl'] at he
    cases he
  | made _ hl =>
    obtain ⟨e, hreads, hl'⟩ := exists_getterLambda (t := t) hgetter hstatic hreadable
    rw [hl'] at hl
    exact ⟨_, _, _, e, rfl, Array.getElem?_push_size, (Except.ok.inj hl).symm, hreads⟩

end Accessor

/-! ## The ways agree on what they read -/

namespace Machine

/-- How a member of an object reads: by generated code, by navigation, by name, and by an accessor. -/
structure Readings (m : Machine) (member : MemberRef) (ref : ObjectRef) (s : Store)
    (generated navigated : Except Error Value × Store) (accessor : Lambda) : Prop where
  /-- Navigation hands over what loading yields. -/
  navigated : navigated = (m.load member (some ref)).perform s
  /-- So does reading by name, if the name leads to the member. -/
  named : m.types.findMember? ref.type member.name = some member →
    (m.read ref member.name).perform s = (m.load member (some ref)).perform s
  /-- Generated code converts what a getter yields. -/
  generated : generated = (m.loadTyped member (some ref)).perform s
  /-- So does the accessor. -/
  accessor : (m.run accessor.compile [.object ref]).perform s =
    (m.loadTyped member (some ref)).perform s
  /-- This makes no difference exactly if the getter yields a value of the type of its property. -/
  agree : (m.loadTyped member (some ref)).perform s = (m.load member (some ref)).perform s ↔
    ∀ p v, member = .property p → ((m.load member (some ref)).perform s).1 = .ok v →
      m.types.conforms p.property.type v = true
  /-- A member with a slot is read alike in every way, and what is read belongs to its type. -/
  slot : s.WellTyped m.types → s.Live (.object ref) → member.backingSlot?.isSome = true →
    ∃ v, m.types.conforms member.type v = true ∧
      (m.load member (some ref)).perform s = (.ok v, s) ∧
      (m.loadTyped member (some ref)).perform s = (.ok v, s)

/-- A member with a slot reads alike in every way. -/
theorem perform_load_of_slot {m : Machine} (hm : m.types.Declared) {member : MemberRef}
    (hmember : m.types.HasMember member) (hreadable : member.isReadable = true) {ref : ObjectRef}
    (hsub : m.types.isSubtype ref.type member.owner = true) {s : Store} (hs : s.WellTyped m.types)
    (hlive : s.Live (.object ref)) (hslot : member.backingSlot?.isSome = true) :
    ∃ v, m.types.conforms member.type v = true ∧
      (m.load member (some ref)).perform s = (.ok v, s) ∧
      (m.loadTyped member (some ref)).perform s = (.ok v, s) := by
  obtain ⟨v, hheld, hconf, -⟩ := hs.held hm.sound hmember hslot hlive hsub
  have hload := perform_load hmember hm.sound hreadable hheld
  refine ⟨v, hconf, hload, (perform_loadTyped_eq_iff.2 ?_).trans hload⟩
  rintro p w rfl hw
  rw [hload] at hw
  cases hw
  exact hconf

/-- **The ways to read a member differ in one thing only.**  Every readable instance member can be read by
a generated node, by navigation, and by the default getter that any cache hands out.  On an object,
navigation and reading by name hand over what loading the member yields; the node and the accessor also
convert what a getter yields to the type of its property. -/
theorem exists_reads {t : TypeTable} (ht : t.Declared) {cache : AccessorCache}
    (hcache : cache.Reached t) {member : MemberRef} (hmember : t.HasMember member)
    (hstatic : member.isStatic = false) (hreadable : member.isReadable = true) {receiver : Expr}
    {rule : ConversionRule}
    (hrule : t.implicitRule? receiver.type (.object member.owner) = some rule) :
    ∃ node navigation place cache' accessor,
      Accessor.readMember t (some receiver) member = .ok node ∧
      Expr.mkNavigate t receiver member = .ok navigation ∧
      (Accessor.getter t member .default).run.run cache = (.ok place, cache') ∧
      cache'.entries[place]? = some accessor ∧
      ∀ (m : Machine) (scope : Scope) (frame frame' : List Value) (s s' : Store) (ref : ObjectRef),
        t.Extends m.types → m.types.Declared →
        ((m.evaluate scope receiver).run frame).perform s = (.ok (.object ref, frame'), s') →
        m.types.isSubtype ref.type member.owner = true →
        m.Readings member ref s' (((m.evaluate scope node).run' frame).perform s)
          (((m.evaluate scope navigation).run' frame).perform s) accessor.lambda := by
  have hgetter := hmember.ownGetter ht
  obtain ⟨node, hnode, hreads, -⟩ := Accessor.exists_readMember hgetter hstatic hreadable hrule
  obtain ⟨place, cache', a, e, hrun, ha, hlambda, he⟩ :=
    Accessor.exists_run_getter hcache ht hmember hstatic hreadable
  refine ⟨node, _, place, cache', a, hnode, Accessor.mkNavigate_of_rule hstatic hreadable hrule, hrun, ha,
    fun m scope frame frame' s s' ref hlater hm hreceiver hsub => ?_⟩
  have hupcast := perform_upcast t rule hreceiver hsub
  constructor
  · exact perform_run' (perform_navigate hupcast)
  · intro hfound
    rw [read, hfound]
  · exact perform_run' (perform_readsFrom hreads hgetter hupcast)
  · rw [hlambda]
    exact Accessor.perform_getter hgetter he hsub s'
  · exact perform_loadTyped_eq_iff
  · exact perform_load_of_slot hm (hmember.mono hlater) hreadable hsub

/-! ## A gauge -/

/-- The level of a gauge is computed by a supplied body. -/
def level : PropertyRef := ⟨0, 0, ⟨"Level", .int64, .open, .absent, false, none, some 0, none⟩,
  some ⟨0, 0, ⟨"get_Level", [], some .int64, false, .open, .native 0⟩⟩, none⟩

/-- Gauges. -/
def gauges : TypeTable :=
  TypeTable.empty.push ⟨"Gauge", .declared, none, [], [], [], [level.property],
    [⟨"get_Level", [], some .int64, false, .open, .native 0⟩], [⟨[], .open, .assign []⟩], [], []⟩

/-- The supplied body yields a narrow five. -/
def gaugeMachine : Machine := ⟨gauges, fun _ _ _ => pure (.int32 5), fun _ _ _ => pure ()⟩

/-- One gauge. -/
def gauge : Store := Store.empty.push ⟨0, []⟩

theorem declared_gauges : gauges.Declared :=
  .declare (d := ⟨"Gauge", .declared, none, [], [], [],
    [⟨"Level", .int64, .open, .absent, false, .native (some 0) none⟩], [], []⟩) .empty (by simp) rfl

theorem hasMember_level : gauges.HasMember (.property level) := ⟨rfl, rfl⟩

/-- The level reads as a narrow five by navigation and by name, and as a wide five otherwise. -/
theorem exists_reads_level : ∃ node navigation place cache' accessor,
    Accessor.readMember gauges (some (.parameter 0 (.object 0))) (.property level) = .ok node ∧
    Expr.mkNavigate gauges (.parameter 0 (.object 0)) (.property level) = .ok navigation ∧
    (Accessor.getter gauges (.property level) .default).run.run .empty = (.ok place, cache') ∧
    cache'.entries[place]? = some accessor ∧
    ((gaugeMachine.evaluate ⟨[.object ⟨0, 0⟩], []⟩ node).run' []).perform gauge =
      (.ok (.int64 5), gauge) ∧
    (gaugeMachine.run accessor.lambda.compile [.object ⟨0, 0⟩]).perform gauge =
      (.ok (.int64 5), gauge) ∧
    ((gaugeMachine.evaluate ⟨[.object ⟨0, 0⟩], []⟩ navigation).run' []).perform gauge =
      (.ok (.int32 5), gauge) ∧
    (gaugeMachine.read ⟨0, 0⟩ "Level").perform gauge = (.ok (.int32 5), gauge) := by
  have hload : (gaugeMachine.load (.property level) (some ⟨0, 0⟩)).perform gauge =
      (.ok (.int32 5), gauge) := rfl
  have hloadTyped : (gaugeMachine.loadTyped (.property level) (some ⟨0, 0⟩)).perform gauge =
      (.ok (.int64 5), gauge) := rfl
  have hrule : gauges.implicitRule? (Expr.parameter 0 (.object 0)).type (.object 0) = some .identity := rfl
  obtain ⟨node, navigation, place, cache', accessor, hnode, hnavigation, hrun, ha, hreads⟩ :=
    exists_reads declared_gauges (.empty gauges) hasMember_level rfl rfl hrule
  have h := hreads gaugeMachine ⟨[.object ⟨0, 0⟩], []⟩ [] [] gauge gauge ⟨0, 0⟩ (.refl gauges)
    declared_gauges (by rw [evaluate]; rfl) rfl
  exact ⟨node, navigation, place, cache', accessor, hnode, hnavigation, hrun, ha,
    h.generated.trans hloadTyped, h.accessor.trans hloadTyped, h.navigated.trans hload,
    (h.named rfl).trans hload⟩

/-- **A node and a navigation that read one member can yield different values.** -/
theorem exists_reads_differ : ¬∀ (m : Machine) (member : MemberRef) (receiver node navigation : Expr)
    (scope : Scope) (frame frame' : List Value) (s s' : Store) (ref : ObjectRef), m.types.Declared →
    m.types.HasMember member → member.isStatic = false → member.isReadable = true →
    Accessor.readMember m.types (some receiver) member = .ok node →
    Expr.mkNavigate m.types receiver member = .ok navigation →
    ((m.evaluate scope receiver).run frame).perform s = (.ok (.object ref, frame'), s') →
    m.types.isSubtype ref.type member.owner = true →
    ((m.evaluate scope node).run' frame).perform s =
      ((m.evaluate scope navigation).run' frame).perform s := by
  intro hall
  have hreceiver : ((gaugeMachine.evaluate ⟨[.object ⟨0, 0⟩], []⟩ (.parameter 0 (.object 0))).run
      []).perform gauge = (.ok (.object ⟨0, 0⟩, []), gauge) := by
    rw [evaluate]
    rfl
  have hsame := hall gaugeMachine (.property level) (.parameter 0 (.object 0))
    (.call ⟨0, 0, ⟨"get_Level", [], some .int64, false, .open, .native 0⟩⟩
      (some (.parameter 0 (.object 0))) [])
    (.navigate (.parameter 0 (.object 0)) (.property level)) ⟨[.object ⟨0, 0⟩], []⟩ [] [] gauge gauge
    ⟨0, 0⟩ declared_gauges hasMember_level rfl rfl rfl rfl hreceiver rfl
  rw [perform_run' (perform_readsFrom (.property rfl) (hasMember_level.ownGetter declared_gauges)
    hreceiver), perform_run' (perform_navigate hreceiver)] at hsame
  cases hsame

end Machine

end Reshape
