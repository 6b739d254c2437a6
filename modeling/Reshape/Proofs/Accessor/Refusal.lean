import Reshape.Proofs.Accessor.Transparency

/-!
# What failed requests leave

A request for an accessor fails before it asks the cache, or because the lambda of its key cannot be made,
and either way the cache has the accessors and counters that it had.  But a setter first finds out how its
member is written, so the write primitive of a write-once field is made before anything is known of the
boundary types (`Accessor.Operation.Prepares`), and stays if these cannot be converted.  Nothing else stays
(`Accessor.Operation.cache_of_failure`).
-/

namespace Reshape

/-- Nothing is added for a field that has a write primitive. -/
theorem AccessorCache.withPrimitive_of_mem {c : AccessorCache} {id : MemberId} (h : id ∈ c.primitives) :
    c.withPrimitive (some id) = c := by
  rw [withPrimitive, Option.elim_some, addPrimitive, if_pos (List.contains_iff_mem.2 h)]

theorem AccessorCache.primitives_withPrimitive {c : AccessorCache} {id : MemberId}
    (h : id ∉ c.primitives) : (c.withPrimitive (some id)).primitives = id :: c.primitives := by
  rw [withPrimitive, Option.elim_some, addPrimitive, if_neg (by simpa using h)]

namespace Accessor.Operation

variable {t : TypeTable} {op : Operation} {r : AccessorRequest} {c c' : AccessorCache} {e : Error}

/-- The request is for the setter of a write-once field that has no write primitive so far, and agrees with
the field about whether there is an instance. -/
structure Prepares (op : Operation) (r : AccessorRequest) (c : AccessorCache) (f : FieldRef) : Prop where
  /-- The field is to be written. -/
  setter : op = .set (.field f)
  /-- It is write-once. -/
  writeOnce : f.field.initOnly = true
  /-- The request is not refused. -/
  binding : r.checkBinding f.field.isStatic (MemberRef.field f).subject = .ok ()
  /-- The field has no write primitive. -/
  new : f.id ∉ c.primitives

/-- Only write-once fields that are to be written get a write primitive. -/
theorem primitive?_eq_some {id : MemberId} : op.primitive? = some id ↔
    ∃ f : FieldRef, op = .set (.field f) ∧ f.field.initOnly = true ∧ f.id = id := by
  constructor
  · intro h
    unfold primitive? at h
    split at h
    · split at h
      · rename_i f honce
        exact ⟨f, rfl, honce, Option.some.inj h⟩
      · cases h
    · cases h
  · rintro ⟨f, rfl, honce, rfl⟩
    rw [primitive?, if_pos honce]

/-- A request that is refused prepares nothing. -/
theorem not_prepares_of_refused (h : op.check t r = .error e) (f : FieldRef) : ¬op.Prepares r c f := by
  rintro ⟨rfl, -, hbinding, -⟩
  have hcheck : (Operation.set (.field f)).check t r = .ok () :=
    bind_eq_ok.2 ⟨(), hbinding, rfl⟩
  rw [hcheck] at h
  cases h

/-- What is prepared is the write primitive that is missing. -/
theorem prepares_iff (hcheck : op.check t r = .ok ()) {f : FieldRef} : op.Prepares r c f ↔
    op = .set (.field f) ∧ op.primitive? = some f.id ∧ f.id ∉ c.primitives := by
  constructor
  · rintro ⟨rfl, honce, -, hnew⟩
    exact ⟨rfl, primitive?_eq_some.2 ⟨f, rfl, honce, rfl⟩, hnew⟩
  · rintro ⟨rfl, hprimitive, hnew⟩
    obtain ⟨_, hset, honce, -⟩ := primitive?_eq_some.1 hprimitive
    cases hset
    obtain ⟨_, hbinding, -⟩ := bind_eq_ok.1 hcheck
    exact ⟨rfl, honce, hbinding, hnew⟩

/-- **What a failed request leaves.**  Accessors and counters are those from before.  So are the write
primitives, unless the request is for the setter of a write-once field that has none so far: when its lambda
cannot be made, the field has its write primitive already. -/
theorem cache_of_failure (h : (op.request t r).run.run c = (.error e, c')) :
    c'.entries = c.entries ∧ c'.hits = c.hits ∧ c'.misses = c.misses ∧
      ((∀ f, ¬op.Prepares r c f) ∧ c'.primitives = c.primitives ∨
        ∃ f, op.Prepares r c f ∧ op.lambda t (op.key r) = .error e ∧
          c'.primitives = f.id :: c.primitives) := by
  have hstep := AccessorCache.step_request t op r c
  rw [h] at hstep
  cases hstep with
  | refused he => exact ⟨rfl, rfl, rfl, .inl ⟨not_prepares_of_refused he, rfl⟩⟩
  | failed hcheck _ he =>
    refine ⟨AccessorCache.entries_withPrimitive .., AccessorCache.hits_withPrimitive ..,
      AccessorCache.misses_withPrimitive .., ?_⟩
    cases hprimitive : op.primitive? with
    | none =>
      refine .inl ⟨fun f hf => ?_, rfl⟩
      rw [((prepares_iff hcheck).1 hf).2.1] at hprimitive
      cases hprimitive
    | some id =>
      obtain ⟨f, hset, -, rfl⟩ := primitive?_eq_some.1 hprimitive
      by_cases hmem : f.id ∈ c.primitives
      · refine .inl ⟨fun g hg => ?_, congrArg _ (AccessorCache.withPrimitive_of_mem hmem)⟩
        obtain ⟨-, hg, hnew⟩ := (prepares_iff hcheck).1 hg
        rw [Option.some.inj (hprimitive.symm.trans hg)] at hmem
        exact hnew hmem
      · exact .inr ⟨f, (prepares_iff hcheck).2 ⟨hset, hprimitive, hmem⟩, he,
          AccessorCache.primitives_withPrimitive hmem⟩

/-- A request fails if its lambda cannot be made and the cache has no accessor of its key. -/
theorem request_of_lambda_error (hcheck : op.check t r = .ok ()) (hnew : ∀ a ∈ c.entries, a.key ≠ op.key r)
    (he : op.lambda t (op.key r) = .error e) :
    (op.request t r).run.run c = (.error e, c.withPrimitive op.primitive?) := by
  have hstep := AccessorCache.step_request t op r c
  generalize (op.request t r).run.run c = outcome at hstep ⊢
  cases hstep with
  | refused hrefused => cases hcheck.symm.trans hrefused
  | found _ hplace => exact absurd rfl (hnew _ (Array.mem_of_getElem? hplace))
  | failed _ _ hfailed => cases he.symm.trans hfailed; rfl
  | made _ _ hl => cases he.symm.trans hl

/-! ## A tag -/

open AccessorCache (number tags declared_tags)

/-- The number of a tag, to be handed over as a text. -/
def asText : AccessorRequest := ⟨.typed, none, some .text, none, none⟩

/-- The error of the request. -/
def notNumber : Error := .notConvertible .text .int64 .explicit

theorem request_asText : ((Operation.set (.field number)).request tags asText).run.run .empty =
    (.error notNumber, ⟨#[], [number.id], 0, 0⟩) := by
  rw [request_of_lambda_error rfl (by simp [AccessorCache.empty]) (e := notNumber) rfl]
  rfl

/-- A text is no number, so there is no setter, but the number of tags has its write primitive. -/
theorem cache_of_failure_tag : ∃ c' : AccessorCache,
    ((Operation.set (.field number)).request tags asText).run.run .empty = (.error notNumber, c') ∧
      c'.entries = #[] ∧ c'.hits = 0 ∧ c'.misses = 0 ∧ ∃ f : FieldRef, c'.primitives = [f.id] := by
  obtain ⟨hentries, hhits, hmisses, ⟨hnot, -⟩ | ⟨f, -, -, hprimitives⟩⟩ := cache_of_failure request_asText
  · have hprepares : (Operation.set (.field number)).Prepares asText .empty number :=
      ⟨rfl, rfl, rfl, List.not_mem_nil⟩
    exact absurd hprepares (hnot number)
  · exact ⟨_, request_asText, hentries, hhits, hmisses, f, hprimitives⟩

/-- **A failed request need not leave the cache as it was.** -/
theorem exists_failure_prepares : ¬∀ (t : TypeTable) (op : Operation) (r : AccessorRequest)
    (c c' : AccessorCache) (e : Error), t.Declared → op.Of t → AccessorCache.Reached t c →
    (op.request t r).run.run c = (.error e, c') → c' = c := by
  intro hall
  have hsame := hall tags (.set (.field number)) asText .empty _ _ declared_tags rfl (.empty tags)
    request_asText
  cases congrArg (·.primitives) hsame

end Accessor.Operation
end Reshape
