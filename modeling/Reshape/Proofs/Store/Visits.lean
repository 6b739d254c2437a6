import Mathlib.Data.List.Basic
import Reshape.Store.Visit

/-!
# Walks that leave the visits as they were

A walk with an outcome that leaves the stack of active visits as it found it is a walk that `Yields` the
outcome, and so does what is put together from such walks.  A walk over objects goes deeper only by
entering a visit that was not active.  Where the possible visits are finitely many, what holds of every walk
that enters one of them holds of all walks that may go deeper than there are visits (`Walk.of_depth`); in
particular they yield an outcome, and always the same (`Walk.agrees_of_depth`).
-/

namespace Reshape
namespace Walk

variable {α β ι : Type} {walk walk' : Walk α} {active active' : List Visit} {visit : Visit}

/-! ## Outcomes -/

/-- The walk has the outcome and leaves the active visits as they were. -/
def Yields (walk : Walk α) (active : List Visit) (outcome : α) : Prop :=
  walk.run active = some (outcome, active)

theorem Yields.unique {r r' : α} (h : walk.Yields active r) (h' : walk.Yields active r') : r = r' := by
  have heq : some (r, active) = some (r', active) := h.symm.trans h'
  simpa using heq

theorem yields_pure (r : α) (active : List Visit) : (pure r : Walk α).Yields active r := rfl

theorem Yields.bind {r : α} {f : α → Walk β} {r' : β} (h : walk.Yields active r)
    (h' : (f r).Yields active r') : (walk >>= f).Yields active r' := by
  unfold Yields at h h' ⊢
  rw [StateT.run_bind, h]
  exact h'

/-- A visit that is active is not entered. -/
theorem yields_guarded (h : visit ∈ active) (r : α) (walk : Walk α) :
    (guarded visit r walk).Yields active r := by
  have hcontains : active.contains visit = true := by simpa using h
  simp [Yields, guarded, h]

/-- A visit that is not active is active inside, and not afterwards. -/
theorem Yields.guarded {r onActive : α} (hfresh : visit ∉ active)
    (h : walk.Yields (visit :: active) r) : (guarded visit onActive walk).Yields active r := by
  unfold Yields at h ⊢
  simp [Walk.guarded, hfresh, h]

theorem Yields.outcome? {r : α} (h : walk.Yields [] r) : walk.outcome? = some r := by
  unfold Yields at h
  rw [Walk.outcome?, h, Option.map_some]

/-! ## Agreement -/

/-- Two walks yield the same, each from a stack of its own. -/
def Agrees (walk walk' : Walk α) (active active' : List Visit) : Prop :=
  ∃ r, walk.Yields active r ∧ walk'.Yields active' r

theorem agrees_pure (r : α) (active active' : List Visit) :
    (pure r : Walk α).Agrees (pure r) active active' :=
  ⟨r, yields_pure r active, yields_pure r active'⟩

theorem Agrees.bind {f f' : α → Walk β} (h : walk.Agrees walk' active active')
    (h' : ∀ r, (f r).Agrees (f' r) active active') :
    (walk >>= f).Agrees (walk' >>= f') active active' := by
  obtain ⟨r, hr, hr'⟩ := h
  obtain ⟨r', hf, hf'⟩ := h' r
  exact ⟨r', hr.bind hf, hr'.bind hf'⟩

theorem Agrees.guarded {onActive : α} (hsame : visit ∈ active ↔ visit ∈ active')
    (h : visit ∉ active → walk.Agrees walk' (visit :: active) (visit :: active')) :
    (guarded visit onActive walk).Agrees (guarded visit onActive walk') active active' := by
  by_cases hactive : visit ∈ active
  · exact ⟨onActive, yields_guarded hactive onActive walk,
      yields_guarded (hsame.1 hactive) onActive walk'⟩
  · obtain ⟨r, hr, hr'⟩ := h hactive
    exact ⟨r, hr.guarded hactive, hr'.guarded (mt hsame.2 hactive)⟩

/-- A walk that agrees with one that has an outcome has it too. -/
theorem Yields.of_agrees {r : α} (h : walk.Agrees walk' active active') (hr : walk.Yields active r) :
    walk'.Yields active' r := by
  obtain ⟨r', hr', hyields⟩ := h
  exact hr.unique hr' ▸ hyields

/-! ## Enough depth -/

/-- How many of the possible visits are not active. -/
def unvisited (possible active : List Visit) : Nat :=
  possible.countP fun visit => visit ∉ active

theorem unvisited_le (possible active : List Visit) : unvisited possible active ≤ possible.length :=
  List.countP_le_length

/-- Entering a visit leaves fewer of them. -/
theorem unvisited_cons_lt {possible : List Visit} (h : visit ∈ possible) (hfresh : visit ∉ active) :
    unvisited possible (visit :: active) < unvisited possible active := by
  have hle : ∀ places, unvisited places (visit :: active) ≤ unvisited places active := by
    intro places
    refine List.countP_mono_left fun place _ hplace => ?_
    simp only [List.mem_cons, not_or, decide_eq_true_eq] at hplace ⊢
    exact hplace.2
  obtain ⟨before, after, rfl⟩ := List.append_of_mem h
  have hbefore := hle before
  have hafter := hle after
  simp only [unvisited, List.countP_append, List.countP_cons] at hbefore hafter ⊢
  simp only [List.mem_cons_self, not_true, decide_false, Bool.false_eq_true, if_false, hfresh,
    not_false_iff, decide_true, if_true]
  omega

/-- What holds of walks over the places `ι` from some depth on: a walk enters the visit of its place before
it goes deeper, so that one more visit is active there. -/
theorem of_depth (visit : ι → Visit) (P : Nat → ι → List Visit → Prop) {possible : List Visit}
    (hstep : ∀ depth i active,
      (visit i ∈ possible → visit i ∉ active → ∀ j, P depth j (visit i :: active)) →
      P (depth + 1) i active)
    {depth : Nat} (h : unvisited possible active < depth) (i : ι) : P depth i active := by
  induction depth generalizing active i with
  | zero => omega
  | succ depth ih =>
    refine hstep depth i active fun hpossible hfresh j => ?_
    have hlt := unvisited_cons_lt hpossible hfresh
    exact ih (by omega) j

/-- **Walks that may go deeper than there are visits agree**, also from two stacks in which the same of
their visits are active. -/
theorem agrees_of_depth (visit : ι → Visit) (walk : Nat → ι → Walk α) {possible : List Visit}
    (hstep : ∀ depth depth' i active active', (visit i ∈ active ↔ visit i ∈ active') →
      (visit i ∈ possible → visit i ∉ active →
        ∀ j, (walk depth j).Agrees (walk depth' j) (visit i :: active) (visit i :: active')) →
      (walk (depth + 1) i).Agrees (walk (depth' + 1) i) active active')
    (hsame : ∀ i, visit i ∈ active ↔ visit i ∈ active') {depth depth' : Nat}
    (h : unvisited possible active < depth) (h' : unvisited possible active' < depth') (i : ι) :
    (walk depth i).Agrees (walk depth' i) active active' := by
  refine of_depth visit (fun depth i active => ∀ depth' active',
    (∀ j, visit j ∈ active ↔ visit j ∈ active') → unvisited possible active' < depth' →
      (walk depth i).Agrees (walk depth' i) active active') ?_ h i depth' active' hsame h'
  intro depth i active ih depth' active' hsame h'
  obtain ⟨depth', rfl⟩ := Nat.exists_eq_succ_of_ne_zero (Nat.ne_zero_of_lt h')
  refine hstep depth depth' i active active' (hsame i) fun hpossible hfresh j => ?_
  have hlt := unvisited_cons_lt hpossible (mt (hsame i).2 hfresh)
  refine ih hpossible hfresh j depth' _ (fun k => ?_) (by omega)
  simp only [List.mem_cons, hsame k]

/-! ## Walks that decide -/

/-- The walk answers whether `P` holds, and leaves the active visits as they were. -/
def Decides (walk : Walk Bool) (active : List Visit) (P : Prop) : Prop :=
  ∃ answer, walk.Yields active answer ∧ (answer = true ↔ P)

theorem decides_pure {answer : Bool} {P : Prop} (h : answer = true ↔ P) :
    (pure answer : Walk Bool).Decides active P :=
  ⟨answer, yields_pure answer active, h⟩

theorem Decides.and {walk walk' : Walk Bool} {P Q : Prop} (h : walk.Decides active P)
    (h' : walk'.Decides active Q) :
    (do if ← walk then walk' else pure false : Walk Bool).Decides active (P ∧ Q) := by
  obtain ⟨answer, hyields, hP⟩ := h
  obtain ⟨answer', hyields', hQ⟩ := h'
  cases answer with
  | false => exact ⟨false, hyields.bind (yields_pure false active), by simp [← hP]⟩
  | true => exact ⟨answer', hyields.bind hyields', by simp [← hP, hQ]⟩

end Walk
end Reshape
