import Reshape.Expr.Evaluation
import Reshape.Proofs.Expr.Typing

/-!
# Slots of local bindings

Compiling a lambda gives every local binding of its body a slot: a layout only grows
(`Expr.Lays.subset`), and it has every number that is bound (`Expr.lays_slots`).  Different numbers have
different slots, so writing one leaves the others (`Expr.getElem?_set_idxOf`).
-/

namespace Reshape
namespace Expr

attribute [grind =] slots slotsOfAll receiverSlots bindingSlots

/-- A number that the node binds has a slot. -/
def HasSlot (layout : List LocalId) : Expr → Prop
  | letIn id _ _ => id ∈ layout
  | _ => True

theorem HasSlot.mono {layout layout' : List LocalId} (h : layout ⊆ layout') {e : Expr}
    (he : HasSlot layout e) : HasSlot layout' e := by
  cases e with
  | letIn id value body => exact h he
  | _ => trivial

theorem subset_addSlot (layout : List LocalId) (id : LocalId) : layout ⊆ addSlot layout id := by
  unfold addSlot
  split
  · exact List.Subset.refl _
  · exact List.subset_append_left ..

theorem mem_addSlot (layout : List LocalId) (id : LocalId) : id ∈ addSlot layout id := by
  unfold addSlot
  split
  · simp_all
  · simp

/-- A later layout has all slots of an earlier one, and one for each binding of the expressions. -/
structure Lays (layout layout' : List LocalId) (es : List Expr) : Prop where
  /-- No slot is lost. -/
  subset : layout ⊆ layout'
  /-- Every binding has a slot. -/
  slots : ∀ e ∈ es, e.Each (HasSlot layout')

variable {layout layout₁ layout₂ : List LocalId} {es es' : List Expr}

theorem Lays.nil (layout : List LocalId) : Lays layout layout [] := ⟨List.Subset.refl _, by simp⟩

theorem Lays.append (h : Lays layout layout₁ es) (h' : Lays layout₁ layout₂ es') :
    Lays layout layout₂ (es ++ es') := by
  refine ⟨List.Subset.trans h.subset h'.subset, fun e he => ?_⟩
  rcases List.mem_append.1 he with he | he
  · exact (h.slots e he).imp fun _ hn => hn.mono h'.subset
  · exact h'.slots e he

/-- The slots of a node are those of its parts. -/
theorem Lays.node {e : Expr} (h : Lays layout layout₁ es)
    (he : (∀ e ∈ es, e.Each (HasSlot layout₁)) → e.Each (HasSlot layout₁)) :
    Lays layout layout₁ [e] :=
  ⟨h.subset, by simpa using he h.slots⟩

mutual

/-- The slots of an expression have one for each of its bindings. -/
theorem lays_slots (layout : List LocalId) : (e : Expr) → Lays layout (e.slots layout) [e]
  | binary op lhs rhs => by
    rw [slots]
    refine ((lays_slots layout lhs).append (lays_slots _ rhs)).node fun h => ?_
    exact each_binary.2 ⟨trivial, h lhs (by simp), h rhs (by simp)⟩
  | call method receiver es => by
    rw [slots]
    refine ((lays_receiverSlots layout receiver).append (lays_slotsOfAll _ es)).node fun h => ?_
    refine each_call.2 ⟨trivial, fun e he => h e (by simp [he]), fun e he => h e (by simp [he])⟩
  | conditional test thenExpr otherwise => by
    rw [slots]
    refine (((lays_slots layout test).append (lays_slots _ thenExpr)).append
      (lays_slots _ otherwise)).node fun h => ?_
    exact each_conditional.2 ⟨trivial, h test (by simp), h thenExpr (by simp), h otherwise (by simp)⟩
  | constant v type => by
    rw [slots]
    exact (Lays.nil layout).node fun _ => each_constant.2 trivial
  | convert rule operand type => by
    rw [slots]
    refine (lays_slots layout operand).node fun h => ?_
    exact each_convert.2 ⟨trivial, h operand (by simp)⟩
  | zero type => by
    rw [slots]
    exact (Lays.nil layout).node fun _ => each_zero.2 trivial
  | fieldGet f receiver => by
    rw [slots]
    refine (lays_receiverSlots layout receiver).node fun h => ?_
    exact each_fieldGet.2 ⟨trivial, fun e he => h e (by simp [he])⟩
  | fieldSet f receiver value => by
    rw [slots]
    refine ((lays_receiverSlots layout receiver).append (lays_slots _ value)).node fun h => ?_
    exact each_fieldSet.2 ⟨trivial, fun e he => h e (by simp [he]), h value (by simp)⟩
  | index list position => by
    rw [slots]
    refine (lays_slots layout list).node fun h => ?_
    exact each_index.2 ⟨trivial, h list (by simp)⟩
  | letIn id value body => by
    rw [slots]
    have hvalue := lays_slots layout value
    have hbody := lays_slots (addSlot (value.slots layout) id) body
    have hid : Lays (value.slots layout) (addSlot (value.slots layout) id) [] :=
      ⟨subset_addSlot _ id, by simp⟩
    refine ((hvalue.append hid).append hbody).node fun h => ?_
    exact each_letIn.2 ⟨hbody.subset (mem_addSlot _ id), h value (by simp), h body (by simp)⟩
  | readLocal id type => by
    rw [slots]
    exact ⟨subset_addSlot layout id, by simpa using each_readLocal.2 trivial⟩
  | memberInit object bindings => by
    rw [slots]
    refine ((lays_slots layout object).append (lays_bindingSlots _ bindings)).node fun h => ?_
    refine each_memberInit.2 ⟨trivial, h object (by simp), fun b hb => h b.2 ?_⟩
    exact List.mem_append_right _ (List.mem_map.2 ⟨b, hb, rfl⟩)
  | navigate receiver m => by
    rw [slots]
    refine (lays_slots layout receiver).node fun h => ?_
    exact each_navigate.2 ⟨trivial, h receiver (by simp)⟩
  | construct ctor es => by
    rw [slots]
    refine (lays_slotsOfAll layout es).node fun h => ?_
    exact each_construct.2 ⟨trivial, h⟩
  | negate operand => by
    rw [slots]
    refine (lays_slots layout operand).node fun h => ?_
    exact each_negate.2 ⟨trivial, h operand (by simp)⟩
  | parameter place type => by
    rw [slots]
    exact (Lays.nil layout).node fun _ => each_parameter.2 trivial
  | sequence front last => by
    rw [slots]
    refine ((lays_slotsOfAll layout front).append (lays_slots _ last)).node fun h => ?_
    exact each_sequence.2 ⟨trivial, fun e he => h e (by simp [he]), h last (by simp)⟩
  | writePrimitive f receiver value => by
    rw [slots]
    refine ((lays_receiverSlots layout receiver).append (lays_slots _ value)).node fun h => ?_
    exact each_writePrimitive.2 ⟨trivial, fun e he => h e (by simp [he]), h value (by simp)⟩

theorem lays_slotsOfAll (layout : List LocalId) :
    (es : List Expr) → Lays layout (slotsOfAll layout es) es
  | [] => Lays.nil layout
  | e :: es => by
    rw [slotsOfAll]
    exact (lays_slots layout e).append (lays_slotsOfAll _ es)

theorem lays_receiverSlots (layout : List LocalId) :
    (receiver : Option Expr) → Lays layout (receiverSlots layout receiver) receiver.toList
  | none => Lays.nil layout
  | some e => by
    rw [receiverSlots]
    exact lays_slots layout e

theorem lays_bindingSlots (layout : List LocalId) :
    (bindings : List (AssignTarget × Expr)) →
      Lays layout (bindingSlots layout bindings) (bindings.map (·.2))
  | [] => Lays.nil layout
  | (_, e) :: bindings => by
    rw [bindingSlots]
    exact (lays_slots layout e).append (lays_bindingSlots _ bindings)

end

/-- Writing the slot of a number leaves the slots of other numbers. -/
theorem getElem?_set_idxOf {frame : List Value} (hframe : frame.length = layout.length) {id : LocalId}
    (hid : id ∈ layout) (v : Value) (other : LocalId) :
    (frame.set (layout.idxOf id) v)[layout.idxOf other]? =
      if other = id then some v else frame[layout.idxOf other]? := by
  by_cases heq : other = id
  · subst heq
    rw [if_pos rfl]
    refine List.getElem?_set_self ?_
    rw [hframe]
    exact List.idxOf_lt_length_of_mem hid
  · have hne : layout.idxOf id ≠ layout.idxOf other := fun hplaces =>
      heq ((List.idxOf_inj hid).1 hplaces).symm
    rw [if_neg heq, List.getElem?_set_ne hne]

/-- Every binding of a compiled lambda's body has a slot. -/
theorem each_hasSlot_compile (l : Lambda) : l.body.Each (HasSlot l.compile.layout) :=
  (lays_slots [] l.body).slots _ (List.mem_singleton_self _)

end Expr
end Reshape
