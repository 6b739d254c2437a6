import Reshape.Proofs.Store.Typing

/-!
# What actions keep

`perform` runs an action one step after the other (`perform_bind`).  A discipline is something that holds
of the store after every step, with a way in which the store may change; `Discipline.Keeps` says of an
action that every outcome of it is as the discipline asks, and a result is as described.  Its rules follow
the ways in which actions are put together.  `Action.Keeps` is the case of well-typed stores: the store is
well typed, and the objects that were there still are.
-/

namespace Reshape
namespace Action

variable {α β : Type}

/-! ## Running actions -/

@[simp] theorem perform_pure (a : α) (s : Store) : perform (pure a) s = (.ok a, s) := rfl

@[simp] theorem perform_throw (e : Error) (s : Store) :
    perform (throw e : Action α) s = (.error e, s) := rfl

@[simp] theorem perform_get (s : Store) : perform get s = (.ok s, s) := rfl

@[simp] theorem perform_set (s s' : Store) : perform (set s') s = (.ok ⟨⟩, s') := rfl

@[simp] theorem perform_modify (f : Store → Store) (s : Store) :
    perform (modify f) s = (.ok ⟨⟩, f s) := rfl

theorem perform_bind (a : Action α) (f : α → Action β) (s : Store) :
    perform (a >>= f) s = match perform a s with
      | (.ok v, s') => perform (f v) s'
      | (.error e, s') => (.error e, s') := by
  simp only [perform, run_bind]
  rcases a.run.run s with ⟨result, s'⟩
  cases result <;> rfl

theorem perform_bind_ok {a : Action α} {f : α → Action β} {s s' : Store} {v : α}
    (h : perform a s = (.ok v, s')) : perform (a >>= f) s = perform (f v) s' := by
  rw [perform_bind, h]

theorem perform_bind_error {a : Action α} {f : α → Action β} {s s' : Store} {e : Error}
    (h : perform a s = (.error e, s')) : perform (a >>= f) s = (.error e, s') := by
  rw [perform_bind, h]

theorem perform_map (f : α → β) (a : Action α) (s : Store) :
    perform (f <$> a) s = match perform a s with
      | (.ok v, s') => (.ok (f v), s')
      | (.error e, s') => (.error e, s') := by
  rw [← bind_pure_comp, perform_bind]
  rfl

/-- A handler is not asked when nothing fails. -/
theorem perform_tryCatch_ok {a : Action α} {s s' : Store} {v : α} (f : Error → Action α)
    (h : a.perform s = (.ok v, s')) : perform (tryCatch a f) s = (.ok v, s') := by
  show StateT.run (ExceptT.tryCatch a f) s = _
  have hrun : StateT.run a s = (.ok v, s') := h
  simp only [ExceptT.tryCatch, ExceptT.mk, StateT.run_bind, hrun]
  rfl

/-- A handler goes on in the store that the failure left. -/
theorem perform_tryCatch_error {a : Action α} {s s' : Store} {e : Error} (f : Error → Action α)
    (h : a.perform s = (.error e, s')) : perform (tryCatch a f) s = perform (f e) s' := by
  show StateT.run (ExceptT.tryCatch a f) s = _
  have hrun : StateT.run a s = (.error e, s') := h
  simp only [ExceptT.tryCatch, ExceptT.mk, StateT.run_bind, hrun]
  rfl

end Action

/-! ## Disciplines -/

/-- What actions have to keep: a property of the store after every step, and a relation of the store before to
the store after, in which no object is lost. -/
structure Discipline where
  /-- What holds of the store. -/
  Holds : Store → Prop
  /-- How a store leads to a later one. -/
  Leads : Store → Store → Prop
  /-- The store may stay as it is. -/
  refl : ∀ s, Leads s s
  /-- One step may follow the other. -/
  trans : ∀ {s₁ s₂ s₃}, Leads s₁ s₂ → Leads s₂ s₃ → Leads s₁ s₃
  /-- The objects still are there. -/
  grows : ∀ {s s'}, Leads s s' → s.Grows s'

namespace Discipline

open Action (perform_bind_ok perform_bind_error perform_get)

variable {d : Discipline} {α β : Type} {s : Store} {post : α → Store → Prop}

/-- Every outcome of an action leaves a store as the discipline asks, and a result is as `post` says. -/
structure Keeps (d : Discipline) (s : Store) (a : Action α) (post : α → Store → Prop) : Prop where
  /-- What holds of the store. -/
  holds : d.Holds (a.perform s).2
  /-- How the store came about. -/
  leads : d.Leads s (a.perform s).2
  /-- A result is as described. -/
  result : ∀ v, (a.perform s).1 = .ok v → post v (a.perform s).2

theorem Keeps.pure {v : α} (hs : d.Holds s) (h : post v s) : d.Keeps s (pure v) post :=
  ⟨hs, d.refl s, fun _ hv => Except.ok.inj hv ▸ h⟩

theorem Keeps.throw {e : Error} (hs : d.Holds s) :
    d.Keeps s (MonadExcept.throw e : Action α) post :=
  ⟨hs, d.refl s, fun _ hv => by cases hv⟩

theorem Keeps.bind {a : Action α} {f : α → Action β} {post' : β → Store → Prop}
    (ha : d.Keeps s a post)
    (hf : ∀ v s', d.Holds s' → s.Grows s' → post v s' → d.Keeps s' (f v) post') :
    d.Keeps s (a >>= f) post' := by
  cases h : a.perform s with
  | mk result s' =>
    have hs' := ha.holds
    have hl := ha.leads
    rw [h] at hs' hl
    cases result with
    | error e =>
      constructor <;> rw [perform_bind_error h]
      · exact hs'
      · exact hl
      · exact fun _ hv => by cases hv
    | ok v =>
      have hv := hf v s' hs' (d.grows hl) (by simpa [h] using ha.result v (by rw [h]))
      constructor <;> rw [perform_bind_ok h]
      · exact hv.holds
      · exact d.trans hl hv.leads
      · exact hv.result

theorem Keeps.imp {post' : α → Store → Prop} {a : Action α} (ha : d.Keeps s a post)
    (h : ∀ v s', d.Holds s' → s.Grows s' → post v s' → post' v s') : d.Keeps s a post' :=
  ⟨ha.holds, ha.leads, fun v hv => h v _ ha.holds (d.grows ha.leads) (ha.result v hv)⟩

/-- A result is what the action came to. -/
theorem Keeps.with_run {a : Action α} (ha : d.Keeps s a post) :
    d.Keeps s a fun v s' => a.perform s = (.ok v, s') ∧ post v s' :=
  ⟨ha.holds, ha.leads, fun v hv => ⟨Prod.ext hv rfl, ha.result v hv⟩⟩

theorem Keeps.map {a : Action α} {f : α → β} {post' : β → Store → Prop} (ha : d.Keeps s a post)
    (h : ∀ v s', d.Holds s' → s.Grows s' → post v s' → post' (f v) s') :
    d.Keeps s (f <$> a) post' := by
  rw [← bind_pure_comp]
  exact ha.bind fun v s' hs' hg hv => .pure hs' (h v s' hs' hg hv)

/-- An action that looks at the store first. -/
theorem Keeps.get_bind {f : Store → Action α} (h : d.Keeps s (f s) post) :
    d.Keeps s (get >>= f) post := by
  have heq : (get >>= f).perform s = (f s).perform s := perform_bind_ok (perform_get s)
  constructor <;> rw [heq]
  · exact h.holds
  · exact h.leads
  · exact h.result

/-- An action that converts a value first. -/
theorem Keeps.ofCast {t : TypeTable} {type : ValueType} {v : Value} {post : Value → Store → Prop}
    (hs : d.Holds s) (h : ∀ w, t.cast type v = .ok w → post w s) :
    d.Keeps s (Action.ofCast (t.cast type v)) post := by
  cases hcast : t.cast type v with
  | ok w => exact .pure hs (h w hcast)
  | error e => exact .throw hs

/-- The store stays well typed. -/
def typing (t : TypeTable) : Discipline where
  Holds := Store.WellTyped t
  Leads := Store.Grows
  refl := Store.Grows.refl
  trans := Store.Grows.trans
  grows := id

end Discipline

/-! ## Outcomes -/

namespace Action

variable {α β : Type}

/-- Every outcome of an action leaves a well-typed store in which all objects still are, and a
result is as `post` says. -/
structure Keeps (t : TypeTable) (s : Store) (a : Action α) (post : α → Store → Prop) : Prop where
  /-- The store is well typed. -/
  wellTyped : (a.perform s).2.WellTyped t
  /-- The objects still are there. -/
  grows : s.Grows (a.perform s).2
  /-- A result is as described. -/
  result : ∀ v, (a.perform s).1 = .ok v → post v (a.perform s).2

variable {t : TypeTable} {s : Store} {post : α → Store → Prop}

theorem keeps_iff {a : Action α} : Keeps t s a post ↔ (Discipline.typing t).Keeps s a post :=
  ⟨fun h => ⟨h.wellTyped, h.grows, h.result⟩, fun h => ⟨h.holds, h.leads, h.result⟩⟩

theorem Keeps.pure {v : α} (hs : s.WellTyped t) (h : post v s) : Keeps t s (pure v) post :=
  keeps_iff.2 (.pure hs h)

theorem Keeps.throw {e : Error} (hs : s.WellTyped t) :
    Keeps t s (MonadExcept.throw e : Action α) post :=
  keeps_iff.2 (.throw hs)

theorem Keeps.bind {a : Action α} {f : α → Action β} {post' : β → Store → Prop}
    (ha : Keeps t s a post)
    (hf : ∀ v s', s'.WellTyped t → s.Grows s' → post v s' → Keeps t s' (f v) post') :
    Keeps t s (a >>= f) post' :=
  keeps_iff.2 ((keeps_iff.1 ha).bind fun v s' hs' hg hv => keeps_iff.1 (hf v s' hs' hg hv))

theorem Keeps.imp {post' : α → Store → Prop} {a : Action α} (ha : Keeps t s a post)
    (h : ∀ v s', s'.WellTyped t → s.Grows s' → post v s' → post' v s') : Keeps t s a post' :=
  keeps_iff.2 ((keeps_iff.1 ha).imp h)

theorem Keeps.and {post' : α → Store → Prop} {a : Action α} (ha : Keeps t s a post)
    (ha' : Keeps t s a post') : Keeps t s a fun v s' => post v s' ∧ post' v s' :=
  ⟨ha.wellTyped, ha.grows, fun v hv => ⟨ha.result v hv, ha'.result v hv⟩⟩

theorem Keeps.map {a : Action α} {f : α → β} {post' : β → Store → Prop} (ha : Keeps t s a post)
    (h : ∀ v s', s'.WellTyped t → s.Grows s' → post v s' → post' (f v) s') :
    Keeps t s (f <$> a) post' :=
  keeps_iff.2 ((keeps_iff.1 ha).map h)

/-- An action that looks at the store first. -/
theorem Keeps.get_bind {f : Store → Action α} (h : Keeps t s (f s) post) :
    Keeps t s (get >>= f) post :=
  keeps_iff.2 (.get_bind (keeps_iff.1 h))

/-- An action that converts a value first. -/
theorem Keeps.ofCast {type : ValueType} {v : Value} {post : Value → Store → Prop}
    (hs : s.WellTyped t) (h : ∀ w, t.cast type v = .ok w → post w s) :
    Keeps t s (Action.ofCast (t.cast type v)) post :=
  keeps_iff.2 (.ofCast hs h)

end Action
end Reshape
