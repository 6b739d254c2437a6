import Mathlib.Data.List.Forall2

/-!
# Outcomes of checks

A chain of checks succeeds when each of them does; a check of every item of a list succeeds when it
succeeds on each item.  These lemmas take a successful outcome apart, for checks and for steps that
keep a state.
-/

namespace Reshape

theorem bind_eq_ok {ε α β : Type} {x : Except ε α} {f : α → Except ε β} {b : β} :
    x >>= f = .ok b ↔ ∃ a, x = .ok a ∧ f a = .ok b := by
  cases x with
  | error e => exact ⟨fun h => (by cases h), fun ⟨_, h, _⟩ => (by cases h)⟩
  | ok a =>
    constructor
    · intro h
      exact ⟨a, rfl, h⟩
    · rintro ⟨_, h, h'⟩
      cases h
      exact h'

theorem map_eq_ok {ε α β : Type} {x : Except ε α} {f : α → β} {b : β} :
    x.map f = .ok b ↔ ∃ a, x = .ok a ∧ f a = b := by
  cases x with
  | error e => exact ⟨fun h => (by cases h), fun ⟨_, h, _⟩ => (by cases h)⟩
  | ok a =>
    constructor
    · intro h
      exact ⟨a, rfl, Except.ok.inj h⟩
    · rintro ⟨_, h, rfl⟩
      cases h
      rfl

/-- Steps that agree on what came before them make the same chain. -/
theorem bind_congr_ok {ε α β : Type} {x : Except ε α} {f g : α → Except ε β}
    (h : ∀ a, x = .ok a → f a = g a) : x >>= f = x >>= g := by
  cases x with
  | error e => rfl
  | ok a => exact h a rfl

/-- A step that takes what another made of a result. -/
theorem map_bind_ok {ε α β γ : Type} (x : Except ε α) (f : α → β) (g : β → Except ε γ) :
    x.map f >>= g = x >>= fun a => g (f a) := by
  cases x <;> rfl

/-- A guard in front of a check has to be passed. -/
theorem guard_eq_ok {ε α : Type} {p : Prop} [Decidable p] {e : ε} {x : Except ε α} {a : α} :
    (if p then .error e else x) = .ok a ↔ ¬p ∧ x = .ok a := by
  by_cases h : p <;> simp [h]

theorem mapM_eq_ok {ε α β : Type} {f : α → Except ε β} {l : List α} {l' : List β} :
    l.mapM f = .ok l' ↔ List.Forall₂ (fun a b => f a = .ok b) l l' := by
  induction l generalizing l' with
  | nil =>
    constructor
    · intro h; cases h; exact .nil
    · intro h; cases h; rfl
  | cons a l ih =>
    rw [List.mapM_cons, bind_eq_ok]
    constructor
    · rintro ⟨b, ha, h⟩
      obtain ⟨bs, hl, h⟩ := bind_eq_ok.1 h
      cases h
      exact .cons ha (ih.1 hl)
    · intro h
      cases h with
      | cons ha hl => exact ⟨_, ha, bind_eq_ok.2 ⟨_, ih.2 hl, rfl⟩⟩

/-- What succeeds on each item in the same way succeeds on the list in the same way. -/
theorem mapM_mono {ε α β : Type} {f g : α → Except ε β} {l : List α} {l' : List β}
    (h : l.mapM f = .ok l') (hfg : ∀ a ∈ l, ∀ b, f a = .ok b → g a = .ok b) : l.mapM g = .ok l' := by
  rw [mapM_eq_ok] at h ⊢
  induction h with
  | nil => exact .nil
  | cons hab _ ih =>
    exact .cons (hfg _ (List.mem_cons_self ..) _ hab)
      (ih fun a ha => hfg a (List.mem_cons_of_mem _ ha))

/-- A list passes a check if each item does. -/
theorem forM_eq_ok {ε α : Type} {f : α → Except ε Unit} {l : List α} :
    l.forM f = .ok () ↔ ∀ a ∈ l, f a = .ok () := by
  induction l with
  | nil => exact ⟨fun _ _ h => by simp at h, fun _ => rfl⟩
  | cons a l ih =>
    have hcons : (a :: l).forM f = (f a >>= fun _ => l.forM f) := rfl
    rw [hcons, bind_eq_ok, List.forall_mem_cons, ← ih]
    constructor
    · rintro ⟨⟨⟩, ha, hl⟩
      exact ⟨ha, hl⟩
    · rintro ⟨ha, hl⟩
      exact ⟨(), ha, hl⟩

/-- A check that passes on each item passes on the list. -/
theorem exists_mapM_eq_ok {ε α β : Type} {f : α → Except ε β} {l : List α}
    (h : ∀ a ∈ l, ∃ b, f a = .ok b) : ∃ l', l.mapM f = .ok l' := by
  induction l with
  | nil => exact ⟨[], rfl⟩
  | cons a l ih =>
    obtain ⟨b, hb⟩ := h a (List.mem_cons_self ..)
    obtain ⟨bs, hbs⟩ := ih fun a ha => h a (List.mem_cons_of_mem _ ha)
    exact ⟨b :: bs, mapM_eq_ok.2 (.cons hb (mapM_eq_ok.1 hbs))⟩

theorem exists_of_mem_forall₂ {α β : Type} {R : α → β → Prop} {l : List α} {l' : List β}
    (h : List.Forall₂ R l l') {b : β} (hb : b ∈ l') : ∃ a ∈ l, R a b := by
  induction h with
  | nil => simp at hb
  | cons hab _ ih =>
    rcases List.mem_cons.1 hb with rfl | hb
    · exact ⟨_, List.mem_cons_self .., hab⟩
    · obtain ⟨a, ha, h⟩ := ih hb
      exact ⟨a, List.mem_cons_of_mem _ ha, h⟩

/-- Items in one place are related. -/
theorem exists_getElem?_of_forall₂ {α β : Type} {R : α → β → Prop} {l : List α} {l' : List β}
    (h : List.Forall₂ R l l') {i : Nat} {a : α} (ha : l[i]? = some a) :
    ∃ b, l'[i]? = some b ∧ R a b := by
  induction h generalizing i with
  | nil => simp at ha
  | cons hab _ ih =>
    cases i with
    | zero =>
      cases ha
      exact ⟨_, rfl, hab⟩
    | succ i => exact ih ha

/-- Lists whose items agree pair by pair agree item by item. -/
theorem map_eq_of_forall₂ {α β γ : Type} {R : α → β → Prop} {f : α → γ} {g : β → γ} {l : List α}
    {l' : List β} (h : List.Forall₂ R l l') (hfg : ∀ a b, R a b → g b = f a) :
    l'.map g = l.map f := by
  induction h with
  | nil => rfl
  | cons hab _ ih => rw [List.map_cons, List.map_cons, hfg _ _ hab, ih]

theorem eq_of_forall₂ {α : Type} {R : α → α → Prop} {l l' : List α} (h : List.Forall₂ R l l')
    (hR : ∀ a ∈ l, ∀ b, R a b → b = a) : l' = l := by
  induction h with
  | nil => rfl
  | cons hab _ ih =>
    rw [hR _ (List.mem_cons_self ..) _ hab, ih fun a ha => hR a (List.mem_cons_of_mem _ ha)]

theorem exists_forall₂ {α β : Type} {R : α → β → Prop} {l : List α} (h : ∀ a ∈ l, ∃ b, R a b) :
    ∃ l', List.Forall₂ R l l' := by
  induction l with
  | nil => exact ⟨[], .nil⟩
  | cons a l ih =>
    obtain ⟨b, hb⟩ := h a (List.mem_cons_self ..)
    obtain ⟨bs, hbs⟩ := ih fun a ha => h a (List.mem_cons_of_mem _ ha)
    exact ⟨b :: bs, .cons hb hbs⟩

/-- Related items of two lists each have a common third one. -/
theorem exists_forall₂_of_forall₂ {α β γ : Type} {R : α → β → Prop} {S : α → γ → Prop}
    {T : β → γ → Prop} {l : List α} {l' : List β} (h : List.Forall₂ R l l')
    (hR : ∀ a ∈ l, ∀ b ∈ l', R a b → ∃ c, S a c ∧ T b c) :
    ∃ l'', List.Forall₂ S l l'' ∧ List.Forall₂ T l' l'' := by
  induction h with
  | nil => exact ⟨[], .nil, .nil⟩
  | cons hab _ ih =>
    obtain ⟨c, hac, hbc⟩ := hR _ (List.mem_cons_self ..) _ (List.mem_cons_self ..) hab
    obtain ⟨cs, hS, hT⟩ := ih fun a ha b hb =>
      hR a (List.mem_cons_of_mem _ ha) b (List.mem_cons_of_mem _ hb)
    exact ⟨c :: cs, .cons hac hS, .cons hbc hT⟩

/-- Related items are different if what they are related to is. -/
theorem nodup_of_forall₂ {α β γ δ : Type} {R : α → β → Prop} {f : α → γ} {g : β → δ} {l : List α}
    {l' : List β} (h : List.Forall₂ R l l') (hnodup : (l.map f).Nodup)
    (hinj : ∀ a ∈ l, ∀ a' ∈ l, ∀ b b', R a b → R a' b' → g b = g b' → f a = f a') :
    (l'.map g).Nodup := by
  induction h with
  | nil => exact List.nodup_nil
  | @cons a b l l' hab hrest ih =>
    rw [List.map_cons, List.nodup_cons] at hnodup ⊢
    refine ⟨fun hmem => hnodup.1 ?_, ih hnodup.2 fun a ha a' ha' =>
      hinj a (List.mem_cons_of_mem _ ha) a' (List.mem_cons_of_mem _ ha')⟩
    obtain ⟨b', hb', hg⟩ := List.mem_map.1 hmem
    obtain ⟨a', ha', hab'⟩ := exists_of_mem_forall₂ hrest hb'
    exact List.mem_map.2 ⟨a', ha', hinj a' (List.mem_cons_of_mem _ ha') a (List.mem_cons_self ..)
      b' b hab' hab hg⟩

/-- Dropping a result is going on without it. -/
theorem discard_eq_bind {f : Type → Type} [Monad f] [LawfulMonad f] {α : Type} (x : f α) :
    Functor.discard x = x >>= fun _ => pure ⟨⟩ := by
  rw [Functor.discard, LawfulFunctor.map_const, bind_pure_comp]
  rfl

/-! ## Steps that keep a state -/

section Steps

variable {ε σ α β : Type} {a : ExceptT ε (StateM σ) α} {f : α → ExceptT ε (StateM σ) β} {s : σ}

theorem run_bind (a : ExceptT ε (StateM σ) α) (f : α → ExceptT ε (StateM σ) β) (s : σ) :
    (a >>= f).run.run s = match a.run.run s with
      | (.ok v, s') => (f v).run.run s'
      | (.error e, s') => (.error e, s') := by
  simp only [bind, ExceptT.bind, ExceptT.mk, ExceptT.run, StateT.run, StateT.bind, ExceptT.bindCont]
  cases a s with
  | mk result s' => cases result <;> rfl

/-- The steps of a run that succeeds. -/
theorem run_bind_eq_ok {b : β} {s' : σ} :
    (a >>= f).run.run s = (.ok b, s') ↔
      ∃ v s₁, a.run.run s = (.ok v, s₁) ∧ (f v).run.run s₁ = (.ok b, s') := by
  rw [run_bind]
  constructor
  · intro h
    split at h
    · rename_i v s₁ hv
      exact ⟨v, s₁, hv, h⟩
    · cases h
  · rintro ⟨v, s₁, hv, h⟩
    rw [hv]
    exact h

/-- A run that fails stops at one of its steps. -/
theorem run_bind_eq_error {e : ε} {s' : σ} :
    (a >>= f).run.run s = (.error e, s') ↔ a.run.run s = (.error e, s') ∨
      ∃ v s₁, a.run.run s = (.ok v, s₁) ∧ (f v).run.run s₁ = (.error e, s') := by
  rw [run_bind]
  constructor
  · intro h
    split at h
    · rename_i v s₁ hv
      exact .inr ⟨v, s₁, hv, h⟩
    · rename_i e' s₁ he
      cases h
      exact .inl he
  · rintro (h | ⟨v, s₁, hv, h⟩)
    · rw [h]
    · rw [hv]
      exact h

end Steps

end Reshape
