import Mathlib.Logic.Relation
import Reshape.Proofs.Store.Bisimulation
import Reshape.Proofs.Store.Visits
import Reshape.Store.Serialization

/-!
# Serialization of object graphs

A serialization meets an object inside itself exactly when an object that can be reached refers back to
itself, through slots and the items of lists.  Otherwise what it writes is the plain unfolding of the
graph, in which an object is written out wherever it occurs (`World.unfolding`).
-/

namespace Reshape

open Text (Json)
open Relation (ReflTransGen TransGen)

namespace Store

variable (s : Store)

/-! ## Reachable objects -/

/-- A slot of the first object holds the second, or a list in it does. -/
def RefersTo (a b : ObjectRef) : Prop :=
  b ∈ Value.refsOfAll (s.slots a)

/-- The object can be reached from one of the references. -/
def ReachedFrom (refs : List ObjectRef) (b : ObjectRef) : Prop :=
  ∃ a ∈ refs, ReflTransGen s.RefersTo a b

/-- The object can reach itself. -/
def RefersBack (a : ObjectRef) : Prop :=
  TransGen s.RefersTo a a

/-- Inside the active visits the object cannot be written. -/
def Blocked (active : List Visit) (a : ObjectRef) : Prop :=
  .serialize a.address ∈ active ∨ s.RefersBack a

variable {s} {active : List Visit}

theorem reachedFrom_singleton {a b : ObjectRef} :
    s.ReachedFrom [a] b ↔ ReflTransGen s.RefersTo a b := by
  simp [ReachedFrom]

theorem reachedFrom_append {refs refs' : List ObjectRef} {b : ObjectRef} :
    s.ReachedFrom (refs ++ refs') b ↔ s.ReachedFrom refs b ∨ s.ReachedFrom refs' b := by
  simp only [ReachedFrom, List.mem_append, or_and_right, exists_or]

/-- What an object reaches: itself, and what its slots reach. -/
theorem reaches_iff {a b : ObjectRef} : ReflTransGen s.RefersTo a b ↔
    a = b ∨ s.ReachedFrom (Value.refsOfAll (s.slots a)) b := by
  rw [ReflTransGen.cases_head_iff]
  rfl

/-- References to one place refer to the same. -/
theorem RefersTo.of_address {a a' b : ObjectRef} (h : a.address = a'.address) (hab : s.RefersTo a b) :
    s.RefersTo a' b := by
  simpa only [RefersTo, Store.slots, h] using hab

/-- What is blocked further in is blocked: an object that reaches its own place reaches itself. -/
theorem Blocked.of_slots {a b : ObjectRef} (hreach : s.ReachedFrom (Value.refsOfAll (s.slots a)) b)
    (h : s.Blocked (.serialize a.address :: active) b) : s.Blocked active b := by
  rcases h with h | h
  · rcases List.mem_cons.1 h with heq | hmem
    · obtain ⟨c, hac, hcb⟩ := hreach
      have hbc : s.RefersTo b c := RefersTo.of_address (Visit.serialize.inj heq).symm hac
      exact .inr (.head' hbc hcb)
    · exact .inl hmem
  · exact .inr h

/-- Where nothing is blocked further in and the object is not active, nothing is blocked. -/
theorem not_blocked_of_slots {a : ObjectRef} (hfresh : .serialize a.address ∉ active)
    (h : ∀ b, s.ReachedFrom (Value.refsOfAll (s.slots a)) b →
      ¬ s.Blocked (.serialize a.address :: active) b)
    {b : ObjectRef} (hreach : ReflTransGen s.RefersTo a b) : ¬ s.Blocked active b := by
  intro hblocked
  rcases reaches_iff.1 hreach with rfl | hreach
  · obtain ⟨c, hac, hca⟩ := TransGen.head'_iff.1 (hblocked.resolve_left hfresh)
    exact h a ⟨c, hac, hca⟩ (.inl List.mem_cons_self)
  · exact h b hreach (hblocked.imp_left (List.mem_cons_of_mem _))

end Store

namespace Walk

variable {α β : Type} {s : Store} {active active' : List Visit} {refs refs' : List ObjectRef}

/-! ## Walks that write -/

/-- The walk has the outcome `a` if nothing that is reached from the references is blocked, and otherwise
fails with the type of something that is. -/
def Writes (s : Store) (walk : ExceptT TypeId Walk α) (active : List Visit) (refs : List ObjectRef)
    (a : α) : Prop :=
  ∃ outcome, Yields walk.run active outcome ∧
    ((∀ b, s.ReachedFrom refs b → ¬ s.Blocked active b) ∧ outcome = .ok a ∨
      ∃ b, s.ReachedFrom refs b ∧ s.Blocked active b ∧ outcome = .error b.type)

theorem writes_pure (a : α) : Writes s (pure a) active [] a :=
  ⟨.ok a, yields_pure _ active, .inl ⟨by simp [Store.ReachedFrom], rfl⟩⟩

theorem Writes.bind {walk : ExceptT TypeId Walk α} {f : α → ExceptT TypeId Walk β} {a : α} {b : β}
    (h : Writes s walk active refs a) (h' : Writes s (f a) active refs' b) :
    Writes s (walk >>= f) active (refs ++ refs') b := by
  obtain ⟨outcome, hyields, ⟨hclear, rfl⟩ | ⟨c, hreach, hblocked, rfl⟩⟩ := h
  · obtain ⟨outcome', hyields', h'⟩ := h'
    refine ⟨outcome', hyields.bind hyields', ?_⟩
    rcases h' with ⟨hclear', hok⟩ | ⟨c, hreach, hblocked⟩
    · refine .inl ⟨fun c hc => ?_, hok⟩
      exact (Store.reachedFrom_append.1 hc).elim (hclear c) (hclear' c)
    · exact .inr ⟨c, Store.reachedFrom_append.2 (.inr hreach), hblocked⟩
  · exact ⟨.error c.type, hyields.bind (yields_pure _ active),
      .inr ⟨c, Store.reachedFrom_append.2 (.inl hreach), hblocked, rfl⟩⟩

theorem Writes.map {walk : ExceptT TypeId Walk α} {a : α} (h : Writes s walk active refs a)
    (f : α → β) : Writes s (do return f (← walk)) active refs (f a) := by
  have hbind := h.bind (f := fun a => pure (f a)) (writes_pure (f a))
  rwa [List.append_nil] at hbind

/-- Walks that may fail agree if their steps do. -/
theorem Agrees.andThen {walk walk' : ExceptT TypeId Walk α} {f f' : α → ExceptT TypeId Walk β}
    (h : Agrees walk.run walk'.run active active')
    (h' : ∀ a, Agrees (f a).run (f' a).run active active') :
    Agrees (walk >>= f).run (walk' >>= f').run active active' := by
  refine h.bind fun outcome => ?_
  cases outcome with
  | error e => exact agrees_pure _ active active'
  | ok a => exact h' a

end Walk

/-! ## Values -/

namespace Value

/-- The document of a value, from those of the objects in it. -/
def document (object : ObjectRef → Json) (v : Value) : Json :=
  Id.run (v.toJson fun ref => pure (object ref))

/-- A list is the list of the documents of its items. -/
theorem document_list (object : ObjectRef → Json) (items : List Value) :
    (Value.list items).document object = tagged "List" (.array (items.map (document object))) := by
  have hitems : Id.run (itemsToJson (fun ref => pure (object ref)) items) =
      items.map (document object) := by
    induction items with
    | nil => rfl
    | cons v vs ih => rw [itemsToJson, Id.run_bind, Id.run_bind, ih]; rfl
  rw [document, toJson, Id.run_bind, hitems]
  rfl

variable {s : Store} {active active' : List Visit} {f g : ObjectRef → ExceptT TypeId Walk Json}
  {doc : ObjectRef → Json}

mutual

theorem toJson_writes : (v : Value) →
    (∀ ref ∈ v.refs, Walk.Writes s (f ref) active [ref] (doc ref)) →
      Walk.Writes s (v.toJson f) active v.refs (v.document doc)
  | .list items, h => by
    rw [document_list, toJson]
    exact (itemsToJson_writes items h).map fun documents => tagged "List" (.array documents)
  | .object ref, h => by
    exact (h ref (List.mem_singleton_self ref)).map (tagged "Object")
  | .blob _, _ | .bool _, _ | .float32 _, _ | .float64 _, _ | .int32 _, _ | .int64 _, _ | .null, _
  | .text _, _ | .uint32 _, _ | .uint64 _, _ => Walk.writes_pure _

theorem itemsToJson_writes : (vs : List Value) →
    (∀ ref ∈ refsOfAll vs, Walk.Writes s (f ref) active [ref] (doc ref)) →
      Walk.Writes s (itemsToJson f vs) active (refsOfAll vs) (vs.map (document doc))
  | [], _ => Walk.writes_pure []
  | v :: vs, h => by
    have hfirst := toJson_writes v fun ref href => h ref (List.mem_append_left _ href)
    have hrest := itemsToJson_writes vs fun ref href => h ref (List.mem_append_right _ href)
    exact hfirst.bind (hrest.map fun documents => v.document doc :: documents)

end

mutual

/-- Serializations agree if those of the objects do. -/
theorem toJson_agrees : (v : Value) →
    (∀ ref ∈ v.refs, Walk.Agrees (f ref).run (g ref).run active active') →
      Walk.Agrees (v.toJson f).run (v.toJson g).run active active'
  | .list items, h => (itemsToJson_agrees items h).andThen fun _ => Walk.agrees_pure _ active active'
  | .object ref, h =>
    (h ref (List.mem_singleton_self ref)).andThen fun _ => Walk.agrees_pure _ active active'
  | .blob _, _ | .bool _, _ | .float32 _, _ | .float64 _, _ | .int32 _, _ | .int64 _, _ | .null, _
  | .text _, _ | .uint32 _, _ | .uint64 _, _ => Walk.agrees_pure _ active active'

theorem itemsToJson_agrees : (vs : List Value) →
    (∀ ref ∈ refsOfAll vs, Walk.Agrees (f ref).run (g ref).run active active') →
      Walk.Agrees (itemsToJson f vs).run (itemsToJson g vs).run active active'
  | [], _ => Walk.agrees_pure _ active active'
  | v :: vs, h => by
    have hfirst := toJson_agrees v fun ref href => h ref (List.mem_append_left _ href)
    have hrest := itemsToJson_agrees vs fun ref href => h ref (List.mem_append_right _ href)
    exact hfirst.andThen fun _ => hrest.andThen fun _ => Walk.agrees_pure _ active active'

end

end Value

namespace World

variable (w : World) {active active' : List Visit}

/-! ## Objects -/

/-- All objects, as visits of a serialization. -/
def serializations : List Visit :=
  (List.range w.store.heap.size).map .serialize

theorem unvisited_serializations (active : List Visit) :
    Walk.unvisited w.serializations active ≤ w.store.heap.size := by
  have hle := Walk.unvisited_le w.serializations active
  simpa only [serializations, List.length_map, List.length_range] using hle

/-- An object written out to a depth, with no regard to what it is inside of. -/
def unfolding : Nat → ObjectRef → Json
  | 0, _ => .null
  | depth + 1, ref =>
    w.recordJson ref ((w.store.slots ref).map (Value.document (unfolding depth)))

variable {w}

theorem mem_serializations {ref other : ObjectRef} (h : w.store.RefersTo ref other) :
    .serialize ref.address ∈ w.serializations :=
  List.mem_map.2 ⟨_, List.mem_range.2 (Store.lt_size_of_mem_slots h), rfl⟩

/-- **An object is written as its unfolding, or fails with an object that refers back to itself.** -/
theorem objectJson_writes {depth : Nat} (h : Walk.unvisited w.serializations active < depth)
    (ref : ObjectRef) :
    Walk.Writes w.store (w.objectJson depth ref) active [ref] (w.unfolding depth ref) := by
  refine Walk.of_depth (fun ref => .serialize ref.address) (fun depth ref active =>
    Walk.Writes w.store (w.objectJson depth ref) active [ref] (w.unfolding depth ref)) ?_ h ref
  intro depth ref active ih
  by_cases hactive : .serialize ref.address ∈ active
  · refine ⟨.error ref.type, Walk.yields_guarded hactive _ _, .inr ⟨ref, ?_, .inl hactive, rfl⟩⟩
    exact Store.reachedFrom_singleton.2 .refl
  · have hslots := Value.itemsToJson_writes (w.store.slots ref) fun other hother =>
      ih (mem_serializations hother) hactive other
    obtain ⟨outcome, hyields, houtcome⟩ := hslots.map (w.recordJson ref)
    refine ⟨outcome, hyields.guarded hactive, ?_⟩
    rcases houtcome with ⟨hclear, hok⟩ | ⟨b, hreach, hblocked, herror⟩
    · refine .inl ⟨fun b hb => ?_, hok⟩
      exact Store.not_blocked_of_slots hactive hclear (Store.reachedFrom_singleton.1 hb)
    · refine .inr ⟨b, ?_, hblocked.of_slots hreach, herror⟩
      exact Store.reachedFrom_singleton.2 (Store.reaches_iff.2 (.inr hreach))

theorem objectJson_agrees (hsame : ∀ address, .serialize address ∈ active ↔ .serialize address ∈ active')
    {depth depth' : Nat} (h : w.store.heap.size < depth) (h' : w.store.heap.size < depth')
    (ref : ObjectRef) :
    Walk.Agrees (w.objectJson depth ref).run (w.objectJson depth' ref).run active active' := by
  refine Walk.agrees_of_depth (fun ref : ObjectRef => .serialize ref.address)
    (fun depth ref => (w.objectJson depth ref).run) ?_ (fun ref => hsame ref.address)
    (Nat.lt_of_le_of_lt (w.unvisited_serializations active) h)
    (Nat.lt_of_le_of_lt (w.unvisited_serializations active') h') ref
  intro depth depth' ref active active' hsame ih
  refine Walk.Agrees.guarded hsame fun hfresh => ?_
  refine Walk.Agrees.andThen ?_ fun _ => Walk.agrees_pure _ _ _
  exact Value.itemsToJson_agrees _ fun other hother => ih (mem_serializations hother) hfresh other

/-- Where nothing refers back to itself, all deep unfoldings are the same. -/
theorem unfolding_eq {ref : ObjectRef}
    (h : ∀ b, ReflTransGen w.store.RefersTo ref b → ¬ w.store.RefersBack b) {depth depth' : Nat}
    (hdepth : w.store.heap.size < depth) (hdepth' : w.store.heap.size < depth') :
    w.unfolding depth ref = w.unfolding depth' ref := by
  have hok : ∀ depth, w.store.heap.size < depth →
      Walk.Yields (w.objectJson depth ref).run [] (.ok (w.unfolding depth ref)) := by
    intro depth hdepth
    have hunvisited := Nat.lt_of_le_of_lt (w.unvisited_serializations []) hdepth
    obtain ⟨outcome, hyields, ⟨-, rfl⟩ | ⟨b, hreach, hblocked, -⟩⟩ := objectJson_writes hunvisited ref
    · exact hyields
    · exact absurd (hblocked.resolve_left List.not_mem_nil)
        (h b (Store.reachedFrom_singleton.1 hreach))
  have hagrees : Walk.Agrees (w.objectJson depth ref).run (w.objectJson depth' ref).run [] [] :=
    objectJson_agrees (fun _ => Iff.rfl) hdepth hdepth' ref
  have hyields := Walk.Yields.of_agrees hagrees (hok depth hdepth)
  exact Except.ok.inj (hyields.unique (hok depth' hdepth'))

/-! ## Values -/

theorem serialization_writes {depth : Nat} (h : w.store.heap.size < depth) (active : List Visit)
    (v : Value) :
    Walk.Writes w.store (v.toJson (w.objectJson depth)) active v.refs
      (v.document (w.unfolding depth)) :=
  v.toJson_writes fun ref _ =>
    objectJson_writes (Nat.lt_of_le_of_lt (w.unvisited_serializations active) h) ref

theorem serialization_agrees
    (hsame : ∀ address, .serialize address ∈ active ↔ .serialize address ∈ active')
    {depth depth' : Nat} (h : w.store.heap.size < depth) (h' : w.store.heap.size < depth')
    (v : Value) :
    Walk.Agrees (w.serialization depth v) (w.serialization depth' v) active active' :=
  v.toJson_agrees fun ref _ => objectJson_agrees hsame h h' ref

/-- What a serialization that starts inside no other one comes to. -/
theorem serialize_cases (w : World) (v : Value) :
    Walk.Yields (w.serialization (w.store.heap.size + 1) v) [] (w.serialize v) ∧
      ((∀ a, w.store.ReachedFrom v.refs a → ¬ w.store.RefersBack a) ∧
          w.serialize v = .ok (v.document (w.unfolding (w.store.heap.size + 1))) ∨
        ∃ a, w.store.ReachedFrom v.refs a ∧ w.store.RefersBack a ∧
          w.serialize v = .error a.type) := by
  obtain ⟨outcome, hyields, hcases⟩ :=
    serialization_writes (Nat.lt_succ_self w.store.heap.size) [] v
  have hyields : Walk.Yields (w.serialization (w.store.heap.size + 1) v) [] outcome := hyields
  have houtcome : w.serialize v = outcome := by
    rw [serialize, Walk.Yields.outcome? hyields, Option.getD_some]
  simpa only [houtcome, hyields, Store.Blocked, List.not_mem_nil, false_or, true_and] using hcases

/-- An object without references, one that holds it twice, and one that holds it and itself. -/
def sharing : World :=
  { types := default
    store :=
      { heap := #[⟨0, [.null]⟩, ⟨0, [.list [.object ⟨0, 0⟩, .object ⟨0, 0⟩]]⟩,
          ⟨0, [.object ⟨0, 0⟩, .object ⟨2, 0⟩]⟩]
        statics := [] } }

end World
end Reshape
