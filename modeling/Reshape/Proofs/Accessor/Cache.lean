import Reshape.Accessor.Synthesis
import Reshape.Proofs.Model.Declared

/-!
# What the accessor cache holds

A request that finds its key gets the accessor that was made for the key, perhaps under fewer type
definitions.  A key names its member, so a getter in the cache is the getter of that member
(`AccessorCache.Sound`); every request keeps this, and so does defining more types
(`AccessorCache.Reached.sound`).
-/

namespace Reshape

/-! ## Steps of synthesis -/

namespace Synthesis

variable {α β : Type} {P : AccessorCache → Prop}

/-- Every outcome keeps what holds of the cache. -/
def Preserves (P : AccessorCache → Prop) (a : Synthesis α) : Prop :=
  ∀ c, P c → P (a.run.run c).2

theorem Preserves.pure (v : α) : Preserves P (pure v) := fun _ hc => hc

theorem Preserves.throw (e : Error) : Preserves P (MonadExcept.throw e : Synthesis α) :=
  fun _ hc => hc

theorem Preserves.bind {a : Synthesis α} {f : α → Synthesis β} (ha : Preserves P a)
    (hf : ∀ v, Preserves P (f v)) : Preserves P (a >>= f) := by
  intro c hc
  have ha := ha c hc
  rw [run_bind]
  cases hrun : a.run.run c with
  | mk result c' =>
    rw [hrun] at ha
    cases result with
    | error e => exact ha
    | ok v => exact hf v c' ha

theorem Preserves.ofExcept (r : Except Error α) : Preserves P (ofExcept r) := by
  cases r with
  | ok v => exact .pure v
  | error e => exact .throw e

end Synthesis

/-- A member of declared types is known by its identity. -/
theorem TypeTable.HasMember.eq_of_id {t : TypeTable} {a b : MemberRef} (ha : t.HasMember a)
    (hb : t.HasMember b) (h : a.id = b.id) : a = b := by
  cases a with
  | field f =>
    cases b with
    | field g =>
      obtain ⟨owner, index, field⟩ := f
      obtain ⟨owner', index', field'⟩ := g
      simp only [MemberRef.id, FieldRef.id, MemberId.mk.injEq, true_and] at h
      obtain ⟨rfl, rfl⟩ := h
      have hsame := Option.some.inj (Eq.trans (Eq.symm ha) hb)
      simp only at hsame
      rw [hsame]
    | property q => simp [MemberRef.id, FieldRef.id, PropertyRef.id] at h
  | property p =>
    cases b with
    | field g => simp [MemberRef.id, FieldRef.id, PropertyRef.id] at h
    | property q =>
      simp only [MemberRef.id, PropertyRef.id, MemberId.mk.injEq, true_and] at h
      have hsame : p.property = q.property := by
        have hat := ha.1
        rw [h.1, h.2] at hat
        exact Option.some.inj (hat.symm.trans hb.1)
      rw [ha.2, hb.2, h.1, h.2, hsame]

namespace AccessorCache

variable {t t' : TypeTable} {c c' : AccessorCache}

/-- A key has the getter of its member, made under the definitions so far or fewer. -/
def MadeFor (t : TypeTable) (key : AccessorKey) (l : Lambda) : Prop :=
  ∃ t₀ member, t₀.Extends t ∧ t₀.HasMember member ∧ member.id = key.member ∧
    Accessor.getterLambda t₀ key member = .ok l

/-- Every getter in the cache was made for the member of its key. -/
def Sound (t : TypeTable) (c : AccessorCache) : Prop :=
  ∀ a ∈ c.entries, a.key.kind = .get → MadeFor t a.key a.lambda

theorem Sound.mono (h : c.Sound t) (ht : t.Extends t') : c.Sound t' := by
  intro a ha hkind
  obtain ⟨t₀, member, ht₀, hmade⟩ := h a ha hkind
  exact ⟨t₀, member, ht₀.trans ht, hmade⟩

/-- What a request for the accessor of a key can do to a cache. -/
inductive Answer (c : AccessorCache) (key : AccessorKey) (lambda : Except Error Lambda) :
    Except Error Nat × AccessorCache → Prop
  /-- The accessor is there. -/
  | found {place : Nat} {l : Lambda} (hplace : c.entries[place]? = some ⟨key, l⟩) :
      Answer c key lambda (.ok place, { c with hits := c.hits + 1 })
  /-- It is not there and cannot be made. -/
  | failed {e : Error} (hnew : ∀ a ∈ c.entries, a.key ≠ key) (he : lambda = .error e) :
      Answer c key lambda (.error e, c)
  /-- It is made. -/
  | made {l : Lambda} (hnew : ∀ a ∈ c.entries, a.key ≠ key) (hl : lambda = .ok l) :
      Answer c key lambda (.ok c.entries.size,
        { c with entries := c.entries.push ⟨key, l⟩, misses := c.misses + 1 })

theorem answer_getOrBuild (key : AccessorKey) (lambda : Except Error Lambda) (c : AccessorCache) :
    c.Answer key lambda ((getOrBuild key lambda).run.run c) := by
  have hget : (get : Synthesis AccessorCache).run.run c = (.ok c, c) := rfl
  rw [getOrBuild, run_bind, hget]
  simp only
  cases hfound : c.find? key with
  | some place =>
    obtain ⟨hplace, hkey, -⟩ := Array.findIdx?_eq_some_iff_getElem.1 hfound
    refine .found (l := c.entries[place].lambda) ?_
    rw [Array.getElem?_eq_getElem hplace, ← eq_of_beq hkey]
  | none =>
    have hnew : ∀ a ∈ c.entries, a.key ≠ key := fun a ha => by
      simpa using Array.findIdx?_eq_none_iff.1 hfound a ha
    cases lambda with
    | error e => exact .failed hnew rfl
    | ok l => exact .made hnew rfl

/-- A request keeps a cache sound if what it would make is the getter of its member, in case it asks for
a getter. -/
theorem Sound.getOrBuild {key : AccessorKey} {lambda : Except Error Lambda}
    (h : ∀ l, lambda = .ok l → key.kind = .get → MadeFor t key l) :
    Synthesis.Preserves (Sound t) (getOrBuild key lambda) := by
  intro c hc
  have hanswer := answer_getOrBuild key lambda c
  generalize (AccessorCache.getOrBuild key lambda).run.run c = outcome at hanswer
  cases hanswer with
  | found _ => exact hc
  | failed _ _ => exact hc
  | @made l _ hl =>
    intro a ha hkind
    obtain ha | rfl := Array.mem_push.1 ha
    · exact hc a ha hkind
    · exact h l hl hkind

theorem Sound.addPrimitive {f : MemberId} (h : c.Sound t) : (c.addPrimitive f).Sound t := by
  rw [AccessorCache.addPrimitive]
  split <;> exact h

/-- Finding out how a member is written keeps the accessors. -/
theorem Sound.assignTarget (member : MemberRef) :
    Synthesis.Preserves (Sound t) (Accessor.assignTarget member) := by
  cases member with
  | field f =>
    rw [Accessor.assignTarget]
    split
    · refine Synthesis.Preserves.bind (fun c hc => ?_) fun _ => .pure _
      exact hc.addPrimitive
    · exact .pure _
  | property p =>
    rw [Accessor.assignTarget]
    split
    · exact .pure _
    · exact .throw _

theorem Sound.getter {member : MemberRef} (hmember : t.HasMember member) (r : AccessorRequest) :
    Synthesis.Preserves (Sound t) (Accessor.getter t member r) := by
  unfold Accessor.getter
  have hmade : ∀ l, Accessor.getterLambda t (Accessor.memberKey member .get r) member = .ok l →
      (Accessor.memberKey member .get r).kind = .get →
      MadeFor t (Accessor.memberKey member .get r) l :=
    fun l hl _ => ⟨t, member, .refl t, hmember, rfl, hl⟩
  refine .bind (.ofExcept _) fun _ => ?_
  dsimp only
  split
  · exact .bind (.throw _) fun _ => .getOrBuild hmade
  · exact .getOrBuild hmade

theorem Sound.setter (member : MemberRef) (r : AccessorRequest) :
    Synthesis.Preserves (Sound t) (Accessor.setter t member r) := by
  refine .bind (.ofExcept _) fun _ => .bind (.assignTarget member) fun _ => .getOrBuild ?_
  rintro l - ⟨⟩

theorem Sound.methodInvoker (f : MethodRef) (r : AccessorRequest) :
    Synthesis.Preserves (Sound t) (Accessor.methodInvoker t f r) := by
  refine .bind (.ofExcept _) fun _ => .bind (.ofExcept _) fun types => .getOrBuild ?_
  rintro l - ⟨⟩

theorem Sound.constructorInvoker (f : ConstructorRef) (r : AccessorRequest) :
    Synthesis.Preserves (Sound t) (Accessor.constructorInvoker t f r) := by
  refine .bind (.ofExcept _) fun _ => .bind (.ofExcept _) fun types => .getOrBuild ?_
  rintro l - ⟨⟩

/-- The caches that a program can have: it starts with an empty one, and it defines types and asks for
accessors in any order.  Requests that fail may also change the cache. -/
inductive Reached : TypeTable → AccessorCache → Prop
  /-- A cache without accessors. -/
  | empty (t : TypeTable) : Reached t .empty
  /-- More types are defined. -/
  | define {t t' : TypeTable} {c : AccessorCache} (h : Reached t c) (ht : t.Extends t') : Reached t' c
  /-- The getter of a member is asked for. -/
  | getter {t : TypeTable} {c : AccessorCache} (h : Reached t c) {member : MemberRef}
      (hmember : t.HasMember member) (r : AccessorRequest) :
      Reached t ((Accessor.getter t member r).run.run c).2
  /-- The setter of a member is asked for. -/
  | setter {t : TypeTable} {c : AccessorCache} (h : Reached t c) (member : MemberRef)
      (r : AccessorRequest) : Reached t ((Accessor.setter t member r).run.run c).2
  /-- The invoker of a method is asked for. -/
  | methodInvoker {t : TypeTable} {c : AccessorCache} (h : Reached t c) (f : MethodRef)
      (r : AccessorRequest) : Reached t ((Accessor.methodInvoker t f r).run.run c).2
  /-- The invoker of a constructor is asked for. -/
  | constructorInvoker {t : TypeTable} {c : AccessorCache} (h : Reached t c) (f : ConstructorRef)
      (r : AccessorRequest) : Reached t ((Accessor.constructorInvoker t f r).run.run c).2
  /-- A projection is compiled that writes a member. -/
  | assignTarget {t : TypeTable} {c : AccessorCache} (h : Reached t c) (member : MemberRef) :
      Reached t ((Accessor.assignTarget member).run.run c).2

theorem Reached.sound (h : Reached t c) : c.Sound t := by
  induction h with
  | empty t =>
    intro a ha
    simp [AccessorCache.empty] at ha
  | define _ ht ih => exact ih.mono ht
  | getter _ hmember r ih => exact Sound.getter hmember r _ ih
  | setter _ member r ih => exact Sound.setter member r _ ih
  | methodInvoker _ f r ih => exact Sound.methodInvoker f r _ ih
  | constructorInvoker _ f r ih => exact Sound.constructorInvoker f r _ ih
  | assignTarget _ member ih => exact Sound.assignTarget member _ ih

/-- What is asked for by the key of a member's getter was made for this member. -/
theorem MadeFor.of_hasMember {key : AccessorKey} {l : Lambda} (h : MadeFor t key l) {member : MemberRef}
    (hmember : t.HasMember member) (hkey : key.member = member.id) :
    ∃ t₀, Accessor.getterLambda t₀ key member = .ok l := by
  obtain ⟨t₀, found, ht₀, hfound, hid, hl⟩ := h
  have hsame : found = member := (hfound.mono ht₀).eq_of_id hmember (hid.trans hkey)
  exact ⟨t₀, hsame ▸ hl⟩

end AccessorCache
end Reshape
