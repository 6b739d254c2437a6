import Reshape.Proofs.Store.Bisimulation
import Reshape.Proofs.Store.Visits
import Reshape.Store.Rendering

/-!
# Renderings end

A rendering enters each object at most once on its way, so that the number of objects bounds its depth.
It leaves the stack of active visits as it was, and comparisons and serializations that are active do
not change what is written (`World.rendering_yields`).
-/

namespace Reshape

namespace Value

variable {active active' : List Visit} {f g : ObjectRef → Walk String}

mutual

theorem rendered_agrees : (v : Value) →
    (∀ ref ∈ v.refs, (f ref).Agrees (g ref) active active') →
      Walk.Agrees (v.rendered f) (v.rendered g) active active'
  | .list items, h => (renderedItems_agrees items h).bind fun _ => Walk.agrees_pure _ active active'
  | .object ref, h =>
    (h ref (List.mem_singleton_self ref)).bind fun _ => Walk.agrees_pure _ active active'
  | .blob _, _ | .bool _, _ | .float32 _, _ | .float64 _, _ | .int32 _, _ | .int64 _, _ | .null, _
  | .text _, _ | .uint32 _, _ | .uint64 _, _ => Walk.agrees_pure _ active active'

theorem renderedItems_agrees : (vs : List Value) →
    (∀ ref ∈ refsOfAll vs, (f ref).Agrees (g ref) active active') →
      Walk.Agrees (renderedItems f vs) (renderedItems g vs) active active'
  | [], _ => Walk.agrees_pure _ active active'
  | v :: vs, h => by
    have hfirst := rendered_agrees v fun ref href => h ref (List.mem_append_left _ href)
    have hrest := renderedItems_agrees vs fun ref href => h ref (List.mem_append_right _ href)
    exact hfirst.bind fun _ => hrest.bind fun _ => Walk.agrees_pure _ active active'

end

end Value

namespace World

variable {w : World} {active active' : List Visit} {f g : ObjectRef → Walk String}

/-- What is written for a member is what is written for a slot. -/
theorem memberText_agrees {slots : List Value}
    (h : ∀ ref ∈ Value.refsOfAll slots, (f ref).Agrees (g ref) active active') (m : MemberRef) :
    (memberText f slots m).Agrees (memberText g slots m) active active' := by
  unfold memberText
  cases hslot : m.backingSlot?.bind (slots[·]?) with
  | none => exact Walk.agrees_pure _ active active'
  | some v =>
    obtain ⟨slot, -, hv⟩ := Option.bind_eq_some_iff.1 hslot
    refine Walk.Agrees.bind (v.rendered_agrees fun ref href => h ref ?_) fun _ =>
      Walk.agrees_pure _ active active'
    rw [Value.refsOfAll_eq]
    exact List.mem_flatMap.2 ⟨v, List.mem_of_getElem? hv, href⟩

theorem mapM_agrees {ι : Type} {f g : ι → Walk String}
    (h : ∀ i, (f i).Agrees (g i) active active') (items : List ι) :
    Walk.Agrees (items.mapM f) (items.mapM g) active active' := by
  induction items with
  | nil => exact Walk.agrees_pure _ active active'
  | cons i rest ih =>
    rw [List.mapM_cons, List.mapM_cons]
    exact (h i).bind fun _ => ih.bind fun _ => Walk.agrees_pure _ active active'

/-- All objects, as visits of a rendering. -/
def printings (w : World) : List Visit :=
  (List.range w.store.heap.size).map .print

theorem unvisited_printings (w : World) (active : List Visit) :
    Walk.unvisited w.printings active ≤ w.store.heap.size := by
  have hle := Walk.unvisited_le w.printings active
  simpa only [printings, List.length_map, List.length_range] using hle

theorem objectText_agrees (hsame : ∀ address, .print address ∈ active ↔ .print address ∈ active')
    {depth depth' : Nat} (h : w.store.heap.size < depth) (h' : w.store.heap.size < depth')
    (ref : ObjectRef) :
    (w.objectText depth ref).Agrees (w.objectText depth' ref) active active' := by
  refine Walk.agrees_of_depth (fun ref : ObjectRef => .print ref.address) w.objectText ?_
    (fun ref => hsame ref.address) (Nat.lt_of_le_of_lt (w.unvisited_printings active) h)
    (Nat.lt_of_le_of_lt (w.unvisited_printings active') h') ref
  intro depth depth' ref active active' hsame ih
  refine Walk.Agrees.guarded hsame fun hfresh => ?_
  refine Walk.Agrees.bind (mapM_agrees (memberText_agrees fun other hother => ?_) _) fun members => ?_
  · refine ih (List.mem_map.2 ⟨_, List.mem_range.2 ?_, rfl⟩) hfresh other
    exact Store.lt_size_of_mem_slots hother
  · split <;> exact Walk.agrees_pure _ _ _

/-- **A rendering ends, with the stack of active visits as it was.** -/
theorem rendering_yields (w : World) {active : List Visit} (hactive : ∀ address, .print address ∉ active)
    {depth : Nat} (h : w.store.heap.size < depth) (v : Value) :
    (w.rendering depth v).Yields active (w.valueText v) := by
  have hagrees : ∀ {depth depth' active active'}, w.store.heap.size < depth →
      w.store.heap.size < depth' →
      (∀ address, Visit.print address ∈ active ↔ .print address ∈ active') →
      (w.rendering depth v).Agrees (w.rendering depth' v) active active' :=
    fun hdepth hdepth' hsame =>
      v.rendered_agrees fun ref _ => objectText_agrees hsame hdepth hdepth' ref
  obtain ⟨text, htext, -⟩ := hagrees (Nat.lt_succ_self _) (Nat.lt_succ_self _)
    (fun address => Iff.rfl : ∀ address, Visit.print address ∈ ([] : List Visit) ↔ _)
  have heq : w.valueText v = text := by
    rw [valueText, htext.outcome?, Option.getD_some]
  rw [heq]
  refine Walk.Yields.of_agrees (hagrees (Nat.lt_succ_self _) h fun address => ?_) htext
  simp [hactive address]

end World
end Reshape
