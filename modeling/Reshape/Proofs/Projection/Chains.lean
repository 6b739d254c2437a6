import Reshape.Proofs.Expr.Frames
import Reshape.Proofs.Expr.Preservation
import Reshape.Proofs.Projection.Mapping

/-!
# Value maps over any source

A value map becomes a local binding of the source, and over it a ladder of comparisons with the converted
keys (`ValueMap.chain_eq_ladder`).  Climbing the ladder leaves frame and store alone, and ends at the first
key that equals the bound value (`ValueMap.perform_ladder`).  So the map does to the store what its source
does, once, and then substitutes, whatever the source does besides giving a value
(`ValueMap.evaluates_lower`).
-/

namespace Reshape
namespace ValueMap

variable {m : Machine} {t : TypeTable} {scope : Scope} {source last e : Expr} {target : ValueType}
  {entries rungs : List (Value × Value)} {frame : List Value} {s : Store} {x : Value}

/-! ## Ladders -/

/-- Comparisons of a source with converted keys, and what follows if it equals none of them. -/
def ladder (source : Expr) (target : ValueType) (last : Expr) : List (Value × Value) → Expr
  | [] => last
  | (key, value) :: rest => .conditional (.binary .eq source (.constant key source.type))
      (.constant value target) (ladder source target last rest)

/-- A rung of the ladder: the entry with its key in the type of the source, and its value in the target
type. -/
structure Rung (t : TypeTable) (type target : ValueType) (entry rung : Value × Value) : Prop where
  /-- The key is converted. -/
  key : t.cast type entry.1 = .ok rung.1
  /-- The value is converted. -/
  value : t.cast target entry.2 = .ok rung.2

theorem type_ladder (hlast : last.type = target) (rungs : List (Value × Value)) :
    (ladder source target last rungs).type = target := by
  cases rungs with
  | nil => exact hlast
  | cons rung rest => rfl

/-- What stands at the end of a chain has the target type. -/
theorem type_fallback {map : ValueMap} (h : map.fallback t source target = .ok last) :
    last.type = target := by
  unfold fallback at h
  cases hunmapped : map.unmapped with
  | constant v =>
    rw [hunmapped] at h
    obtain ⟨w, -, h⟩ := bind_eq_ok.1 h
    cases h
    rfl
  | passThrough =>
    rw [hunmapped] at h
    exact Expr.type_coerce h
  | zero =>
    rw [hunmapped] at h
    cases h
    rfl

/-- A chain is a ladder with a rung for each entry: nothing has to be converted on top of the literals. -/
theorem chain_eq_ladder (ht : t.Extends m.types) (hlast : last.type = target)
    (h : chain t source target last entries = .ok e) :
    ∃ rungs, List.Forall₂ (Rung m.types source.type target) entries rungs ∧
      e = ladder source target last rungs := by
  induction entries generalizing e with
  | nil =>
    cases h
    exact ⟨[], .nil, rfl⟩
  | cons entry rest ih =>
    obtain ⟨otherwise, hother, h⟩ := bind_eq_ok.1 h
    obtain ⟨rungs, hrungs, rfl⟩ := ih hother
    obtain ⟨_, test, _, hkey, htest, hvalue, h⟩ := Machine.link_eq_ok h
    obtain ⟨key, hkeycast, rfl⟩ := Machine.typedLiteral_eq_ok ht hkey
    obtain ⟨value, hvaluecast, rfl⟩ := Machine.typedLiteral_eq_ok ht hvalue
    have hkeytype : (Expr.constant key source.type).type = source.type := rfl
    rw [Expr.mkBinary_eq_self hkeytype] at htest
    cases htest
    rw [Expr.mkConditional_self rfl (type_ladder hlast rungs)] at h
    cases h
    exact ⟨(key, value) :: rungs, .cons ⟨hkeycast, hvaluecast⟩ hrungs, rfl⟩

/-! ## Climbing -/

/-- Reading a local binding leaves frame and store alone. -/
theorem perform_readLocal {n : LocalId} (h : scope.FrameWith n x frame) (type : ValueType) (s : Store) :
    ((m.evaluate scope (.readLocal n type)).run frame).perform s = (.ok (x, frame), s) := by
  have hrun : (m.evaluate scope (.readLocal n type)).run frame =
      pure (frame[scope.layout.idxOf n]?.getD .null, frame) := by
    rw [Machine.evaluate]
    rfl
  rw [hrun, h.2]
  rfl

/-- A comparison with a literal leaves frame and store alone if the source does. -/
theorem perform_equal (h : ((m.evaluate scope source).run frame).perform s = (.ok (x, frame), s))
    (key : Value) (type : ValueType) :
    ((m.evaluate scope (.binary .eq source (.constant key type))).run frame).perform s =
      (.ok (.bool (s.sameValue x key), frame), s) := by
  rw [Machine.evaluate_strict m scope rfl, StateT.run_bind, Action.perform_bind_ok h, Machine.evaluate]
  rfl

/-- Climbing ends at the first key that equals the value of the source, and at the top if there is none. -/
theorem perform_ladder (h : ((m.evaluate scope source).run frame).perform s = (.ok (x, frame), s))
    (rungs : List (Value × Value)) :
    ((m.evaluate scope (ladder source target last rungs)).run frame).perform s =
      match rungs.find? fun rung => s.sameValue x rung.1 with
      | some rung => (.ok (rung.2, frame), s)
      | none => ((m.evaluate scope last).run frame).perform s := by
  induction rungs with
  | nil => rfl
  | cons rung rest ih =>
    obtain ⟨key, value⟩ := rung
    have htruth : ∀ b, truth (.bool b) = pure b := fun _ => rfl
    rw [ladder, Machine.evaluate, StateT.run_bind,
      Action.perform_bind_ok (perform_equal h key source.type), htruth, pure_bind, List.find?_cons]
    cases s.sameValue x key with
    | true =>
      rw [if_pos rfl, Machine.evaluate]
      rfl
    | false =>
      rw [if_neg (by decide)]
      exact ih

/-- The top of the ladder over a local binding gives what becomes of unmapped values.  The bound value has to
belong to its type only if it is passed through. -/
theorem perform_fallback (ht : t.Extends m.types) {map : ValueMap} {n : LocalId} {type : ValueType}
    (hx : map.unmapped = .passThrough → m.types.conforms type x = true)
    (h : map.fallback t (.readLocal n type) target = .ok last) (hframe : scope.FrameWith n x frame)
    (s : Store) : ∃ w frame', map.unmatched m.types target x = .ok w ∧
      ((m.evaluate scope last).run frame).perform s = (.ok (w, frame'), s) := by
  unfold fallback at h
  unfold unmatched
  cases hunmapped : map.unmapped with
  | constant v =>
    rw [hunmapped] at h
    obtain ⟨w, hw, rfl⟩ := Machine.typedLiteral_eq_ok ht h
    refine ⟨w, frame, hw, ?_⟩
    rw [Machine.evaluate]
    rfl
  | passThrough =>
    rw [hunmapped] at h
    have hread : m.Denotes scope s (scope.FrameWith n x) (.readLocal n type) x :=
      Machine.denotes_readLocal (hx hunmapped)
    obtain ⟨w, hw, hdenotes, -⟩ := hread.coerce ht h
    obtain ⟨frame', -, hrun⟩ := hdenotes.computes s (.refl s) frame hframe
    exact ⟨w, frame', hw, hrun⟩
  | zero =>
    rw [hunmapped] at h
    cases h
    refine ⟨target.zero, frame, rfl, ?_⟩
    rw [Machine.evaluate]
    rfl

/-- The first rung whose key equals a value stands for the first entry that is hit by it. -/
theorem outcome_eq_of_rungs {map : ValueMap} {type : ValueType}
    (h : List.Forall₂ (Rung t type target) map.entries rungs) :
    map.outcome t s type target x =
      match rungs.find? fun rung => s.sameValue x rung.1 with
      | some rung => .ok rung.2
      | none => map.unmatched t target x := by
  rw [outcome]
  generalize map.entries = entries at h ⊢
  induction h with
  | nil => rfl
  | @cons entry rung entries rungs hrung _ ih =>
    have hhits : hits t s type x entry = s.sameValue x rung.1 := by rw [hits, hrung.key]
    rw [List.find?_cons, List.find?_cons, hhits]
    cases s.sameValue x rung.1 with
    | true => exact hrung.value
    | false => exact ih

/-! ## Local bindings of sources -/

/-- A local binding gives what its body gives once the value is in its slot. -/
theorem perform_letIn {n : LocalId} {body : Expr} {frame₁ : List Value} {s₁ : Store}
    (h : ((m.evaluate scope source).run frame).perform s = (.ok (x, frame₁), s₁)) :
    ((m.evaluate scope (.letIn n source body)).run frame).perform s =
      ((m.evaluate scope body).run (frame₁.set (scope.layout.idxOf n) x)).perform s₁ := by
  rw [Machine.evaluate, StateT.run_bind, Action.perform_bind_ok h, StateT.run_bind,
    StateT.run_modify, pure_bind]

theorem perform_letIn_error {n : LocalId} {body : Expr} {err : Error} {s₁ : Store}
    (h : ((m.evaluate scope source).run frame).perform s = (.error err, s₁)) :
    ((m.evaluate scope (.letIn n source body)).run frame).perform s = (.error err, s₁) := by
  rw [Machine.evaluate, StateT.run_bind, Action.perform_bind_error h]

/-- A map over a source binds the source to a ladder, which has the target type. -/
theorem lower_eq_letIn (ht : t.Extends m.types) {map : ValueMap} {n n' : LocalId}
    (h : (map.lower t source target).run.run n = (.ok e, n')) : ∃ last rungs,
      map.fallback t (.readLocal n source.type) target = .ok last ∧
      List.Forall₂ (Rung m.types source.type target) map.entries rungs ∧
      e = .letIn n source (ladder (.readLocal n source.type) target last rungs) := by
  obtain ⟨body, hbody, rfl⟩ := Expr.run_bindIn_eq_ok h
  obtain ⟨last, hlast, hchain⟩ := bind_eq_ok.1 (Build.run_ofExcept_eq_ok hbody)
  obtain ⟨rungs, hrungs, rfl⟩ := chain_eq_ladder ht (type_fallback hlast) hchain
  exact ⟨last, rungs, hlast, hrungs, rfl⟩

/-- Where the source gives a value, the map gives what it substitutes for the value, and leaves the store that
the source left. -/
theorem perform_lower (ht : t.Extends m.types) {map : ValueMap} {n n' : LocalId}
    (h : (map.lower t source target).run.run n = (.ok e, n')) (hslot : e.Each (Expr.HasSlot scope.layout))
    {frame₁ : List Value} {s₁ : Store} (hframe : scope.Frame frame₁)
    (hsource : ((m.evaluate scope source).run frame).perform s = (.ok (x, frame₁), s₁))
    (hx : map.unmapped = .passThrough → m.types.conforms source.type x = true) :
    ∃ v frame₂, map.outcome m.types s₁ source.type target x = .ok v ∧
      ((m.evaluate scope e).run frame).perform s = (.ok (v, frame₂), s₁) := by
  obtain ⟨last, rungs, hlast, hrungs, rfl⟩ := lower_eq_letIn ht h
  have hid : n ∈ scope.layout := (Expr.each_letIn.1 hslot).1
  have hbound : scope.FrameWith n x (frame₁.set (scope.layout.idxOf n) x) := by
    refine ⟨by rw [Scope.Frame, List.length_set]; exact hframe, List.getElem?_set_self ?_⟩
    rw [hframe]
    exact List.idxOf_lt_length_of_mem hid
  obtain ⟨w, frame₂, hw, hrun⟩ := perform_fallback ht hx hlast hbound s₁
  rw [perform_letIn hsource, perform_ladder (perform_readLocal hbound source.type s₁),
    outcome_eq_of_rungs hrungs]
  cases rungs.find? fun rung => s₁.sameValue x rung.1 with
  | some rung => exact ⟨rung.2, _, rfl, rfl⟩
  | none => exact ⟨w, frame₂, hw, hrun⟩

/-- Evaluation keeps the slots of the frame. -/
theorem frame_of_perform {ids : List LocalId} (hslot : source.Each (Expr.HasSlot scope.layout))
    (hscopes : source.checkScopes ids = .ok ()) (hframe : scope.Frame frame) {frame₁ : List Value}
    {s₁ : Store} (h : ((m.evaluate scope source).run frame).perform s = (.ok (x, frame₁), s₁)) :
    scope.Frame frame₁ := by
  have hslots : source.Each (Expr.HasSlots scope.layout scope.layout) := fun n hn =>
    ⟨hslot n hn, hslot n hn⟩
  have hmatched : Matched scope.layout scope.layout ids frame frame := ⟨hframe, hframe, fun _ _ => rfl⟩
  rcases Expr.parallel_evaluate m scope.args source hslots hscopes frame frame s hmatched with
    ⟨err, s', hfail, -⟩ | ⟨v, frame', _, s', hok, -, hmatched'⟩
  · cases h.symm.trans hfail
  · cases h.symm.trans hok
    exact hmatched'.left

/-- **Value maps are first-match substitution.**  The map over a source has the target type, and all of its keys
have the type of the source.  It fails only as the source does.  Otherwise it gives what stands beside the first
key that equals the value of the source, in the target type, or what the map says about unmapped values if there
is none, and the store is as the source left it. -/
theorem evaluates_lower {k : Setting} (hm : k.machine.types.Declared) {map : ValueMap}
    (hw : map.unmapped = .passThrough → k.machine.WellBehaved) (ht : t.Extends k.machine.types)
    {n n' : LocalId} (h : (map.lower t source target).run.run n = (.ok e, n'))
    (hslot : e.Each (Expr.HasSlot k.scope.layout)) (hs : s.WellTyped k.machine.types)
    (hf : k.Fits s frame) (he : k.Ready s source) (hc : source.checkScopes k.bound = .ok ()) :
    e.type = target ∧
      (∀ entry ∈ map.entries, ∃ key, k.machine.types.cast source.type entry.1 = .ok key) ∧
      (∀ err s₁, ((k.machine.evaluate k.scope source).run frame).perform s = (.error err, s₁) →
        ((k.machine.evaluate k.scope e).run frame).perform s = (.error err, s₁)) ∧
      ∀ x frame₁ s₁, ((k.machine.evaluate k.scope source).run frame).perform s = (.ok (x, frame₁), s₁) →
        ∃ v frame₂, map.outcome k.machine.types s₁ source.type target x = .ok v ∧
          ((k.machine.evaluate k.scope e).run frame).perform s = (.ok (v, frame₂), s₁) := by
  obtain ⟨last, rungs, hlast, hrungs, heq⟩ := lower_eq_letIn ht h
  refine ⟨?_, fun entry hentry => ?_, fun err s₁ herr => ?_, fun x frame₁ s₁ hsource => ?_⟩
  · rw [heq]
    exact type_ladder (type_fallback hlast) rungs
  · obtain ⟨i, hi⟩ := List.getElem?_of_mem hentry
    obtain ⟨rung, -, hrung⟩ := exists_getElem?_of_forall₂ hrungs hi
    exact ⟨rung.1, hrung.key⟩
  · rw [heq]
    exact perform_letIn_error herr
  · have hframe := frame_of_perform (he.imp fun _ hn => hn.hasSlot) hc hf.length hsource
    refine perform_lower ht h hslot hframe hsource fun hpass => ?_
    have hkeeps := Setting.evaluates_evaluate hm (hw hpass) hs hf source he hc
    have hhas := hkeeps.result (x, frame₁) (by rw [hsource])
    exact hhas.1.conforms

/-- Ones become tens, and the second entry for them is never reached; other numbers are kept. -/
def tens : ValueMap := ⟨[(.int32 1, .int64 10), (.int32 1, .int64 20)], .passThrough⟩

/-- The number that is looked up. -/
def number : Expr := .parameter 0 .int32

/-- `tens` over a parameter. -/
def tensOfNumber : Expr :=
  .letIn 0 number (ladder (.readLocal 0 .int32) .int64 (.convert .widen (.readLocal 0 .int32) .int64)
    [(.int32 1, .int64 10), (.int32 1, .int64 20)])

theorem lower_tens : (tens.lower .empty number .int64).run.run 0 = (.ok tensOfNumber, 1) := rfl

/-- Where numbers are looked up in `tens`. -/
def lookup (n : Int32) : Setting :=
  .ofLambda Draft.bare ⟨fun _ => .any, 0⟩ [⟨"x", .int32⟩] tensOfNumber [.int32 n]

theorem fits_lookup (n : Int32) : (lookup n).Fits .empty [.null] := by
  refine Setting.fits_ofLambda _ _ tensOfNumber (.cons rfl .nil) fun v hv => ?_
  rw [List.mem_singleton.1 hv]
  exact fun _ h => by simp [Value.refs] at h

theorem ready_lookup (n : Int32) : (lookup n).Ready .empty number :=
  Expr.each_parameter.2 ⟨trivial, rfl, trivial, fun _ _ h => by cases h⟩

/-- A one becomes a ten, and a two becomes a two of the target type. -/
theorem evaluates_lower_tens :
    (∃ frame, (((lookup 1).machine.evaluate (lookup 1).scope tensOfNumber).run [.null]).perform .empty =
      (.ok (.int64 10, frame), .empty)) ∧
    ∃ frame, (((lookup 2).machine.evaluate (lookup 2).scope tensOfNumber).run [.null]).perform .empty =
      (.ok (.int64 2, frame), .empty) := by
  have h (n : Int32) := evaluates_lower (k := lookup n) .empty
    (fun _ => Draft.wellBehaved_bare) (.refl .empty) lower_tens
    (Expr.each_hasSlot_compile ⟨[⟨"x", .int32⟩], tensOfNumber⟩) (Store.wellTyped_empty .empty)
    (fits_lookup n) (ready_lookup n) rfl
  obtain ⟨v, frame, hv, hrun⟩ := (h 1).2.2.2 (.int32 1) [.null] .empty rfl
  obtain ⟨w, frame', hw, hrun'⟩ := (h 2).2.2.2 (.int32 2) [.null] .empty rfl
  cases hv
  cases hw
  exact ⟨⟨frame, hrun⟩, frame', hrun'⟩

end ValueMap
end Reshape
