import Reshape.Proofs.Projection.Sources

/-!
# What value maps denote

A value map gives what stands beside the first key that equals the source value, once the key has the
type of the source, and otherwise what it says about unmapped values (`ValueMap.outcome`).  The chain of
comparisons that it becomes denotes that (`Machine.Denotes.chain`), and so does a source that is
finished by it (`Machine.Denotes.finish`).
-/

namespace Reshape

/-! ## Maps as functions -/

namespace ValueMap

/-- Whether the key of an entry equals a source value, in the type of the source. -/
def hits (t : TypeTable) (s : Store) (type : ValueType) (x : Value) (entry : Value × Value) : Bool :=
  match t.cast type entry.1 with
  | .ok key => s.sameValue x key
  | .error _ => false

/-- What becomes of a source value that no key equals. -/
def unmatched (t : TypeTable) (map : ValueMap) (target : ValueType) (x : Value) :
    Except CastError Value :=
  match map.unmapped with
  | .constant v => t.cast target v
  | .passThrough => t.cast target x
  | .zero => .ok target.zero

/-- What a map makes of a value of a type, as a value of the target type. -/
def outcome (t : TypeTable) (s : Store) (map : ValueMap) (type target : ValueType) (x : Value) :
    Except CastError Value :=
  match map.entries.find? (hits t s type x) with
  | some entry => t.cast target entry.2
  | none => map.unmatched t target x

/-- The keys of a map are in the store. -/
def Supplied (s : Store) (map : ValueMap) : Prop :=
  ∀ entry ∈ map.entries, s.Live entry.1

end ValueMap

/-- A source value after its map, if it has one, as a value of the target type. -/
def Binding.finished (t : TypeTable) (s : Store) (map? : Option ValueMap) (type target : ValueType)
    (x : Value) : Except CastError Value :=
  match map? with
  | some map => map.outcome t s type target x
  | none => t.cast target x

/-! ## Operators whose operands agree -/

namespace Expr

variable {t : TypeTable}

theorem mkBinary_eq_self {lhs rhs : Expr} (h : rhs.type = lhs.type) :
    mkBinary t .eq lhs rhs = .ok (binary .eq lhs rhs) := by
  have hoperand : t.operandType .eq lhs.type rhs.type = .ok lhs.type := by
    simp [TypeTable.operandType, TypeTable.unify?, h, Operator.isLogical, Operator.isEquality]
  have hrhs : rhs.coerce t lhs.type = .ok rhs := by
    rw [← h]
    exact Expr.coerce_self t rhs
  rw [mkBinary, hoperand]
  refine bind_eq_ok.2 ⟨_, rfl, bind_eq_ok.2 ⟨lhs, Expr.coerce_self t lhs, ?_⟩⟩
  exact bind_eq_ok.2 ⟨rhs, hrhs, rfl⟩

theorem mkConditional_self {test thenExpr otherwise : Expr} (htest : test.type = .bool)
    (h : otherwise.type = thenExpr.type) :
    mkConditional t test thenExpr otherwise = .ok (conditional test thenExpr otherwise) := by
  have hbool : test.expectBool "condition" = .ok () := by rw [expectBool, if_pos htest]
  have hunify : t.unify? thenExpr.type otherwise.type = some thenExpr.type := by
    rw [TypeTable.unify?, if_pos h.symm]
  have hother : otherwise.coerce t thenExpr.type = .ok otherwise := by
    rw [← h]
    exact Expr.coerce_self t otherwise
  rw [mkConditional]
  refine bind_eq_ok.2 ⟨(), hbool, ?_⟩
  rw [hunify]
  refine bind_eq_ok.2 ⟨thenExpr, Expr.coerce_self t thenExpr, ?_⟩
  exact bind_eq_ok.2 ⟨otherwise, hother, rfl⟩

/-- A bound value is visible under a number of its own. -/
theorem run_bindIn_eq_ok {value e : Expr} {body : Expr → Build Expr} {n n' : LocalId}
    (h : (bindIn value body).run.run n = (.ok e, n')) : ∃ e',
      (body (readLocal n value.type)).run.run (n + 1) = (.ok e', n') ∧ e = letIn n value e' := by
  obtain ⟨id, n₁, hid, h⟩ := run_bind_eq_ok.1 h
  cases hid
  obtain ⟨e', n₂, he', h⟩ := run_bind_eq_ok.1 h
  cases h
  exact ⟨e', he', rfl⟩

end Expr

namespace Machine

open Binding

variable {m : Machine} {scope : Scope} {s : Store} {fits : List Value → Prop} {t : TypeTable}
  {source : Expr} {target : ValueType} {x : Value}

/-! ## Chains -/

/-- The end of a chain denotes what becomes of unmapped values. -/
theorem Denotes.fallback (ht : t.Extends m.types) (hd : m.Denotes scope s fits source x)
    {map : ValueMap} {e : Expr} (h : map.fallback t source target = .ok e) :
    ∃ w, map.unmatched m.types target x = .ok w ∧ m.Denotes scope s fits e w ∧ e.type = target := by
  unfold ValueMap.fallback at h
  unfold ValueMap.unmatched
  cases hunmapped : map.unmapped with
  | constant v =>
    rw [hunmapped] at h
    exact denotes_typedLiteral ht h
  | passThrough =>
    rw [hunmapped] at h
    exact hd.coerce ht h
  | zero =>
    rw [hunmapped] at h
    cases h
    exact ⟨_, rfl, denotes_zero target, rfl⟩

/-- A link is a conditional on a comparison of the source with the key. -/
theorem link_eq_ok {entry : Value × Value} {otherwise e : Expr}
    (h : ValueMap.link t source target entry otherwise = .ok e) : ∃ key test value,
      Expr.typedLiteral t entry.1 source.type = .ok key ∧
      Expr.mkBinary t .eq source key = .ok test ∧
      Expr.typedLiteral t entry.2 target = .ok value ∧
      Expr.mkConditional t test value otherwise = .ok e := by
  unfold ValueMap.link at h
  split at h
  · rename_i key hkey
    obtain ⟨_, hpure, h⟩ := bind_eq_ok.1 h
    cases hpure
    obtain ⟨test, htest, h⟩ := bind_eq_ok.1 h
    obtain ⟨value, hvalue, h⟩ := bind_eq_ok.1 h
    exact ⟨key, test, value, hkey, htest, hvalue, h⟩
  · obtain ⟨_, hthrow, -⟩ := bind_eq_ok.1 h
    cases hthrow

/-- A link denotes what stands beside its key if the key equals the source value, and what follows it
otherwise. -/
theorem Denotes.link (ht : t.Extends m.types) (hs : s.WellTyped m.types)
    (hd : m.Denotes scope s fits source x) (hx : s.Live x) {entry : Value × Value}
    (hkey : s.Live entry.1) {otherwise e : Expr} {w : Value}
    (hother : m.Denotes scope s fits otherwise w) (htype : otherwise.type = target)
    (h : ValueMap.link t source target entry otherwise = .ok e) :
    ∃ v, m.types.cast target entry.2 = .ok v ∧ e.type = target ∧ m.Denotes scope s fits e
      (if ValueMap.hits m.types s source.type x entry then v else w) := by
  obtain ⟨keyExpr, test, valueExpr, hkeyExpr, htest, hvalue, h⟩ := link_eq_ok h
  obtain ⟨key, hcast, hkeyd, hkeytype⟩ :=
    denotes_typedLiteral ht hkeyExpr
  rw [Expr.mkBinary_eq_self hkeytype] at htest
  cases htest
  obtain ⟨v, hv, hvd, hvtype⟩ :=
    denotes_typedLiteral ht hvalue
  rw [Expr.mkConditional_self rfl (htype.trans hvtype.symm)] at h
  cases h
  have htest := hd.equal hs hkeyd hx (Store.Live.cast hcast hkey)
  have hhits : ValueMap.hits m.types s source.type x entry = s.sameValue x key := by
    rw [ValueMap.hits, hcast]
  refine ⟨v, hv, hvtype, htest.conditional (hvtype.trans htype.symm) ?_⟩
  rw [hhits]
  cases s.sameValue x key with
  | true => exact hvd
  | false => exact hother

/-- A chain denotes what stands beside the first key that equals the source value, and its end if
there is none. -/
theorem Denotes.chain (ht : t.Extends m.types) (hs : s.WellTyped m.types)
    (hd : m.Denotes scope s fits source x) (hx : s.Live x) {entries : List (Value × Value)}
    (hkeys : ∀ entry ∈ entries, s.Live entry.1) {last e : Expr} {w : Value}
    (hlast : m.Denotes scope s fits last w) (htype : last.type = target)
    (h : ValueMap.chain t source target last entries = .ok e) : e.type = target ∧
      ∃ v, (match entries.find? (ValueMap.hits m.types s source.type x) with
          | some entry => m.types.cast target entry.2
          | none => .ok w) = .ok v ∧
        m.Denotes scope s fits e v := by
  induction entries generalizing e with
  | nil =>
    cases h
    exact ⟨htype, w, rfl, hlast⟩
  | cons entry rest ih =>
    obtain ⟨otherwise, hother, h⟩ := bind_eq_ok.1 h
    obtain ⟨hothertype, u, hu, hotherd⟩ :=
      ih (fun a ha => hkeys a (List.mem_cons_of_mem _ ha)) hother
    obtain ⟨v, hv, hetype, hed⟩ :=
      hd.link ht hs hx (hkeys entry (List.mem_cons_self ..)) hotherd hothertype h
    refine ⟨hetype, _, ?_, hed⟩
    cases hhits : ValueMap.hits m.types s source.type x entry with
    | true => simpa only [List.find?_cons, hhits, if_true] using hv
    | false => simpa only [List.find?_cons, hhits, Bool.false_eq_true, if_false] using hu

/-! ## Finished sources -/

/-- A map over a source denotes what the map makes of the source value. -/
theorem Denotes.lower (ht : t.Extends m.types) (hs : s.WellTyped m.types)
    (hd : m.Denotes scope s scope.Frame source x) (hx : s.Live x) {map : ValueMap}
    (hkeys : map.Supplied s) {e : Expr} {n n' : LocalId}
    (h : (map.lower t source target).run.run n = (.ok e, n')) : e.type = target ∧
      (e.Each (Expr.HasSlot scope.layout) →
        ∃ v, map.outcome m.types s source.type target x = .ok v ∧
          m.Denotes scope s scope.Frame e v) := by
  obtain ⟨body, hbody, rfl⟩ := Expr.run_bindIn_eq_ok h
  obtain ⟨last, hlast, hchain⟩ := bind_eq_ok.1 (Build.run_ofExcept_eq_ok hbody)
  have hread : m.Denotes scope s (scope.FrameWith n x) (.readLocal n source.type) x :=
    denotes_readLocal hd.conforms
  obtain ⟨w, hw, hlastd, hlasttype⟩ := hread.fallback ht hlast
  obtain ⟨htype, v, hv, hbodyd⟩ := hread.chain ht hs hx hkeys hlastd hlasttype hchain
  refine ⟨htype, fun hslot => ⟨v, ?_, hd.letIn (Expr.each_letIn.1 hslot).1 hbodyd⟩⟩
  rw [ValueMap.outcome, hw]
  exact hv

/-- **A finished source denotes the source value after its map, as a value of the target type.** -/
theorem Denotes.finish (ht : t.Extends m.types) (hs : s.WellTyped m.types)
    (hd : m.Denotes scope s scope.Frame source x) (hx : s.Live x) {map? : Option ValueMap}
    (hkeys : ∀ map, map? = some map → map.Supplied s) {e : Expr} {n n' : LocalId}
    (h : (finish t source map? target).run.run n = (.ok e, n'))
    (hslot : e.Each (Expr.HasSlot scope.layout)) :
    ∃ v, finished m.types s map? source.type target x = .ok v ∧
      m.Denotes scope s scope.Frame e v ∧ e.type = target := by
  cases map? with
  | some map =>
    obtain ⟨mapped, n₁, hmapped, h⟩ := run_bind_eq_ok.1 h
    have hcoerce := Build.run_ofExcept_eq_ok h
    obtain ⟨htype, hmap⟩ := hd.lower ht hs hx (hkeys map rfl) hmapped
    rw [← htype, Expr.coerce_self] at hcoerce
    cases hcoerce
    obtain ⟨v, hv, hed⟩ := hmap hslot
    exact ⟨v, hv, hed, htype⟩
  | none =>
    cases source with
    | constant u type =>
      have hframe : scope.Frame (List.replicate scope.layout.length .null) := List.length_replicate
      obtain rfl := hd.eq_of_constant hframe
      exact denotes_typedLiteral ht (Build.run_ofExcept_eq_ok h)
    | _ => exact hd.coerce ht (Build.run_ofExcept_eq_ok h)

end Machine
end Reshape
