import Mathlib.Data.List.Dedup
import Reshape.Proofs.Accessor.Assembly

/-!
# The accessor cache is transparent

A cache is followed by a log of what it was asked and what it answered (`AccessorCache.Served`).  At every
moment it is what the log says (`AccessorCache.Records`): each accessor in it is the one that would be made now
for its key, no key is there twice, and the counters count the log.  One question keeps this; the step is where
a cached lambda, made for an earlier request and under fewer definitions, has to be the lambda of the present
request, and it is, because the key determines the operation and the operation and the key determine the lambda.
-/

namespace Reshape
namespace AccessorCache

open Accessor

/-- A question to accessor synthesis, with its answer. -/
inductive Exchange where
  /-- An accessor is asked for, under the definitions of the time. -/
  | accessor (t : TypeTable) (op : Accessor.Operation) (r : AccessorRequest) (answer : Except Error Nat)
  /-- It is asked how a data member is written. -/
  | target (m : MemberRef) (answer : Except Error AssignTarget)

namespace Exchange

/-- The place of the accessor that was handed out. -/
def place? : Exchange → Option Nat
  | accessor _ _ _ (.ok place) => some place
  | _ => none

/-- The write-once field for which an assignment target was produced.  The request for a setter produces one as
soon as it is not refused. -/
def primitive? : Exchange → Option MemberId
  | accessor t op r _ =>
    match op.check t r with
    | .ok _ => op.primitive?
    | .error _ => none
  | target m (.ok _) => (Accessor.Operation.set m).primitive?
  | target _ (.error _) => none

end Exchange

/-- The caches that a program can have, each with the log of what it was asked: at first nothing, then
definitions, requests for accessors and requests for assignment targets in any order. -/
inductive Served : TypeTable → List Exchange → AccessorCache → Prop
  /-- Nothing was asked. -/
  | empty {t : TypeTable} (hd : t.Declared) : Served t [] .empty
  /-- More types are defined. -/
  | define {t t' : TypeTable} {log : List Exchange} {c : AccessorCache} (h : Served t log c)
      (ht : t.Extends t') (hd : t'.Declared) : Served t' log c
  /-- An accessor is asked for. -/
  | accessor {t : TypeTable} {log : List Exchange} {c : AccessorCache} (h : Served t log c)
      {op : Accessor.Operation} (hop : op.Of t) (r : AccessorRequest) :
      Served t (log ++ [.accessor t op r ((op.request t r).run.run c).1]) ((op.request t r).run.run c).2
  /-- It is asked how a member is written. -/
  | target {t : TypeTable} {log : List Exchange} {c : AccessorCache} (h : Served t log c)
      {m : MemberRef} (hm : t.HasMember m) :
      Served t (log ++ [.target m ((assignTarget m).run.run c).1]) ((assignTarget m).run.run c).2

variable {t t' : TypeTable} {log : List Exchange} {c : AccessorCache}

theorem Served.declared (h : Served t log c) : t.Declared := by
  induction h with
  | empty hd => exact hd
  | define _ _ hd _ => exact hd
  | accessor _ _ _ ih => exact ih
  | target _ _ ih => exact ih

/-! ## What a cache records -/

/-- The lambda is the one that is made for the key now. -/
def Makes (t : TypeTable) (key : AccessorKey) (l : Lambda) : Prop :=
  ∃ op r, Accessor.Operation.Of t op ∧ op.check t r = .ok () ∧ op.key r = key ∧ op.lambda t key = .ok l

theorem Makes.mono {key : AccessorKey} {l : Lambda} (h : Makes t key l) (hd : t.Declared)
    (ht : t.Extends t') : Makes t' key l := by
  obtain ⟨op, r, hop, hcheck, rfl, hl⟩ := h
  exact ⟨op, r, hop.mono ht, Accessor.Operation.check_mono hcheck, rfl, op.lambda_mono hop hd ht hcheck hl⟩

/-- What was made for the key of an operation is the lambda of this operation. -/
theorem Makes.lambda {op : Accessor.Operation} (hop : op.Of t) {r : AccessorRequest} {l : Lambda}
    (h : Makes t (op.key r) l) : op.lambda t (op.key r) = .ok l := by
  obtain ⟨op', r', hop', -, hkey, hl⟩ := h
  rwa [hop'.eq_of_key hop hkey] at hl

/-- The accessors and the counters are what a log says. -/
structure Records (t : TypeTable) (log : List Exchange) (c : AccessorCache) : Prop where
  /-- Each accessor is the one of its key. -/
  made : ∀ a ∈ c.entries, Makes t a.key a.lambda
  /-- No key is there twice. -/
  keys : ∀ i j : Nat, ∀ a b, c.entries[i]? = some a → c.entries[j]? = some b → a.key = b.key → i = j
  /-- What was handed out is there. -/
  answered : ∀ t₀ op r place, .accessor t₀ op r (.ok place) ∈ log →
    ∃ l, c.entries[place]? = some ⟨Accessor.Operation.key op r, l⟩
  /-- Each success was counted. -/
  counted : c.hits + c.misses = log.countP (·.place?.isSome)
  /-- Accessors were made for the misses. -/
  misses : c.entries.size = c.misses

/-- The write primitives are what a log says. -/
structure Notes (log : List Exchange) (c : AccessorCache) : Prop where
  /-- None is there twice. -/
  nodup : c.primitives.Nodup
  /-- They are those for which a target was produced. -/
  mem_iff : ∀ id, id ∈ c.primitives ↔ id ∈ log.filterMap (·.primitive?)

theorem records_empty (t : TypeTable) : Records t [] .empty := by
  constructor
  all_goals simp [AccessorCache.empty]

theorem notes_empty : Notes [] .empty := ⟨List.nodup_nil, fun _ => Iff.rfl⟩

theorem Records.mono (h : Records t log c) (hd : t.Declared) (ht : t.Extends t') : Records t' log c :=
  { h with made := fun a ha => (h.made a ha).mono hd ht }

/-! ## Questions that hand out nothing -/

/-- Only the accessors and the counters matter. -/
theorem Records.of_eq {c' : AccessorCache} (h : Records t log c) (hentries : c'.entries = c.entries)
    (hhits : c'.hits = c.hits) (hmisses : c'.misses = c.misses) : Records t log c' := by
  obtain ⟨entries, primitives, hits, misses⟩ := c'
  simp only at hentries hhits hmisses
  subst hentries hhits hmisses
  exact ⟨h.made, h.keys, h.answered, h.counted, h.misses⟩

theorem Records.withPrimitive (h : Records t log c) (field? : Option MemberId) :
    Records t log (c.withPrimitive field?) := by
  cases field? with
  | none => exact h
  | some id =>
    simp only [AccessorCache.withPrimitive, Option.elim_some, addPrimitive]
    split
    · exact h
    · exact h.of_eq rfl rfl rfl

theorem Records.append (h : Records t log c) {x : Exchange} (hx : x.place? = none) :
    Records t (log ++ [x]) c := by
  refine { h with answered := fun t₀ op r place hmem => ?_, counted := ?_ }
  · rcases List.mem_append.1 hmem with hmem | hmem
    · exact h.answered t₀ op r place hmem
    · rw [← List.mem_singleton.1 hmem] at hx
      cases hx
  · rw [List.countP_append, ← h.counted]
    simp [hx]

theorem mem_withPrimitive {field? : Option MemberId} {id : MemberId} :
    id ∈ (c.withPrimitive field?).primitives ↔ id ∈ c.primitives ∨ field? = some id := by
  cases field? with
  | none => simp [AccessorCache.withPrimitive]
  | some field =>
    simp only [AccessorCache.withPrimitive, Option.elim_some, addPrimitive, Option.some.injEq]
    split
    · rename_i hthere
      constructor
      · exact .inl
      · rintro (hid | rfl)
        · exact hid
        · simpa using hthere
    · simp [or_comm, eq_comm]

theorem nodup_withPrimitive (h : c.primitives.Nodup) (field? : Option MemberId) :
    (c.withPrimitive field?).primitives.Nodup := by
  cases field? with
  | none => exact h
  | some field =>
    simp only [AccessorCache.withPrimitive, Option.elim_some, addPrimitive]
    split
    · exact h
    · rename_i hnew
      exact List.nodup_cons.2 ⟨by simpa using hnew, h⟩

theorem Notes.append (h : Notes log c) {x : Exchange} {c' : AccessorCache}
    (hc : c'.primitives = (c.withPrimitive x.primitive?).primitives) : Notes (log ++ [x]) c' := by
  refine ⟨hc ▸ nodup_withPrimitive h.nodup _, fun id => ?_⟩
  rw [hc, mem_withPrimitive, h.mem_iff, List.filterMap_append, List.mem_append]
  simp

/-! ## Requests -/

/-- What an accessor request does to a cache. -/
inductive Step (t : TypeTable) (op : Accessor.Operation) (r : AccessorRequest) (c : AccessorCache) :
    Except Error Nat × AccessorCache → Prop
  /-- The request is refused. -/
  | refused {e : Error} (he : op.check t r = .error e) : Step t op r c (.error e, c)
  /-- The accessor is there. -/
  | found (hcheck : op.check t r = .ok ()) {place : Nat} {l : Lambda}
      (hplace : c.entries[place]? = some ⟨op.key r, l⟩) :
      Step t op r c (.ok place, { c.withPrimitive op.primitive? with hits := c.hits + 1 })
  /-- It cannot be made. -/
  | failed (hcheck : op.check t r = .ok ()) {e : Error} (hnew : ∀ a ∈ c.entries, a.key ≠ op.key r)
      (he : op.lambda t (op.key r) = .error e) : Step t op r c (.error e, c.withPrimitive op.primitive?)
  /-- It is made. -/
  | made (hcheck : op.check t r = .ok ()) {l : Lambda} (hnew : ∀ a ∈ c.entries, a.key ≠ op.key r)
      (hl : op.lambda t (op.key r) = .ok l) : Step t op r c (.ok c.entries.size,
        { c.withPrimitive op.primitive? with
          entries := c.entries.push ⟨op.key r, l⟩, misses := c.misses + 1 })

@[simp] theorem entries_withPrimitive (c : AccessorCache) (field? : Option MemberId) :
    (c.withPrimitive field?).entries = c.entries := by
  cases field? <;> simp only [AccessorCache.withPrimitive, Option.elim, addPrimitive]
  split <;> rfl

@[simp] theorem hits_withPrimitive (c : AccessorCache) (field? : Option MemberId) :
    (c.withPrimitive field?).hits = c.hits := by
  cases field? <;> simp only [AccessorCache.withPrimitive, Option.elim, addPrimitive]
  split <;> rfl

@[simp] theorem misses_withPrimitive (c : AccessorCache) (field? : Option MemberId) :
    (c.withPrimitive field?).misses = c.misses := by
  cases field? <;> simp only [AccessorCache.withPrimitive, Option.elim, addPrimitive]
  split <;> rfl

theorem step_request (t : TypeTable) (op : Accessor.Operation) (r : AccessorRequest) (c : AccessorCache) :
    Step t op r c ((op.request t r).run.run c) := by
  rw [run_request]
  cases hcheck : op.check t r with
  | error e => exact .refused hcheck
  | ok _ =>
    have hanswer := answer_getOrBuild (op.key r) (op.lambda t (op.key r)) (c.withPrimitive op.primitive?)
    generalize (getOrBuild _ _).run.run _ = outcome at hanswer ⊢
    cases hanswer with
    | found hplace =>
      rw [entries_withPrimitive] at hplace
      rw [hits_withPrimitive]
      exact .found hcheck hplace
    | failed hnew he =>
      rw [entries_withPrimitive] at hnew
      exact .failed hcheck hnew he
    | made hnew hl =>
      rw [entries_withPrimitive] at hnew
      rw [entries_withPrimitive, misses_withPrimitive]
      exact .made hcheck hnew hl

/-- A cached accessor is handed out. -/
theorem Records.found (h : Records t log c) {op : Accessor.Operation} {r : AccessorRequest} {place : Nat}
    {l : Lambda} (hplace : c.entries[place]? = some ⟨op.key r, l⟩) :
    Records t (log ++ [.accessor t op r (.ok place)]) { c with hits := c.hits + 1 } := by
  refine ⟨h.made, h.keys, fun t₀ op' r' place' hmem => ?_, ?_, h.misses⟩
  · rcases List.mem_append.1 hmem with hmem | hmem
    · exact h.answered t₀ op' r' place' hmem
    · cases List.mem_singleton.1 hmem
      exact ⟨l, hplace⟩
  · rw [List.countP_append, ← h.counted]
    exact Nat.add_right_comm ..

/-- The place of an accessor in a cache to which one was added. -/
theorem getElem?_push_cases {entries : Array Accessor} {new a : Accessor} {place : Nat}
    (h : (entries.push new)[place]? = some a) :
    entries[place]? = some a ∨ place = entries.size ∧ a = new := by
  rw [Array.getElem?_push] at h
  split at h
  · rename_i hplace
    exact .inr ⟨hplace, (Option.some.inj h).symm⟩
  · exact .inl h

/-- A new accessor is handed out. -/
theorem Records.add (h : Records t log c) {op : Accessor.Operation} {r : AccessorRequest} {l : Lambda}
    (hmakes : Makes t (op.key r) l) (hnew : ∀ a ∈ c.entries, a.key ≠ op.key r) :
    Records t (log ++ [.accessor t op r (.ok c.entries.size)])
      { c with entries := c.entries.push ⟨op.key r, l⟩, misses := c.misses + 1 } := by
  refine ⟨fun a ha => ?_, fun i j a b hi hj hkey => ?_, fun t₀ op' r' place' hmem => ?_, ?_, ?_⟩
  · obtain ha | rfl := Array.mem_push.1 ha
    · exact h.made a ha
    · exact hmakes
  · obtain hi | ⟨rfl, rfl⟩ := getElem?_push_cases hi
    · obtain hj | ⟨rfl, rfl⟩ := getElem?_push_cases hj
      · exact h.keys i j a b hi hj hkey
      · exact absurd hkey (hnew a (Array.mem_of_getElem? hi))
    · obtain hj | ⟨rfl, rfl⟩ := getElem?_push_cases hj
      · exact absurd hkey.symm (hnew b (Array.mem_of_getElem? hj))
      · rfl
  · rcases List.mem_append.1 hmem with hmem | hmem
    · obtain ⟨l', hl'⟩ := h.answered t₀ op' r' place' hmem
      have hlt := (Array.getElem?_eq_some_iff.1 hl').1
      exact ⟨l', by rw [Array.getElem?_push, if_neg (Nat.ne_of_lt hlt)]; exact hl'⟩
    · cases List.mem_singleton.1 hmem
      exact ⟨l, Array.getElem?_push_size⟩
  · rw [List.countP_append, ← h.counted]
    rfl
  · rw [Array.size_push, h.misses]

/-- What a request does is recorded. -/
theorem Records.step (h : Records t log c) {op : Accessor.Operation} (hop : op.Of t) {r : AccessorRequest}
    {outcome : Except Error Nat × AccessorCache} (hstep : Step t op r c outcome) :
    Records t (log ++ [.accessor t op r outcome.1]) outcome.2 := by
  cases hstep with
  | refused _ => exact h.append rfl
  | failed _ _ _ => exact (h.withPrimitive _).append rfl
  | found _ hplace =>
    exact (h.found hplace).of_eq (entries_withPrimitive ..) rfl (misses_withPrimitive ..)
  | made hcheck hnew hl =>
    exact (h.add ⟨op, r, hop, hcheck, rfl, hl⟩ hnew).of_eq rfl (hits_withPrimitive ..) rfl

theorem Notes.step (h : Notes log c) {op : Accessor.Operation} {r : AccessorRequest}
    {outcome : Except Error Nat × AccessorCache} (hstep : Step t op r c outcome) :
    Notes (log ++ [.accessor t op r outcome.1]) outcome.2 := by
  refine h.append ?_
  cases hstep with
  | refused he => simp only [Exchange.primitive?, he]; rfl
  | failed hcheck _ _ | found hcheck _ | made hcheck _ _ => simp only [Exchange.primitive?, hcheck]

/-! ## Runs -/

theorem Served.records (h : Served t log c) : Records t log c := by
  induction h with
  | empty _ => exact records_empty _
  | define h ht _ ih => exact ih.mono h.declared ht
  | accessor _ hop r ih => exact ih.step hop (step_request _ _ r _)
  | @target t log c _ m _ ih =>
    have hplace : (Exchange.target m ((assignTarget m).run.run c).1).place? = none := rfl
    rw [run_assignTarget] at hplace ⊢
    cases m.target? with
    | none => exact ih.append hplace
    | some target => exact (ih.withPrimitive _).append hplace

theorem Served.notes (h : Served t log c) : Notes log c := by
  induction h with
  | empty _ => exact notes_empty
  | define _ _ _ ih => exact ih
  | accessor _ _ r ih => exact ih.step (step_request _ _ r _)
  | @target t log c _ m _ ih =>
    refine ih.append ?_
    rw [run_assignTarget]
    cases m.target? <;> rfl

/-- What is handed out: the accessor that is at the place afterwards. -/
def handedOut (a : Synthesis Nat) (c : AccessorCache) : Except Error (Option Accessor) :=
  (a.run.run c).1.map fun place => (a.run.run c).2.entries[place]?

/-- **What is handed out** depends on the request and on the definitions only. -/
theorem Records.handedOut_request (h : Records t log c) {op : Accessor.Operation} (hop : op.Of t)
    (r : AccessorRequest) : handedOut (op.request t r) c =
      op.check t r >>= fun _ => (op.lambda t (op.key r)).map fun l => some ⟨op.key r, l⟩ := by
  have hstep := step_request t op r c
  unfold handedOut
  generalize (op.request t r).run.run c = outcome at hstep ⊢
  cases hstep with
  | refused he =>
    rw [he]
    rfl
  | found hcheck hplace =>
    have hl := (h.made _ (Array.mem_of_getElem? hplace)).lambda hop
    rw [hcheck, hl]
    simp only [entries_withPrimitive]
    exact congrArg Except.ok hplace
  | failed hcheck _ he =>
    rw [hcheck, he]
    rfl
  | made hcheck _ hl =>
    rw [hcheck, hl]
    exact congrArg Except.ok Array.getElem?_push_size

/-- **The accessor cache is transparent.**  Whatever was asked before, a request fails with the error, or hands
out the key and the lambda, that it would with an empty cache.  Of the requests that succeeded, two were handed
the same accessor exactly if their members, operations, shapes and effective boundaries agree, that is, their
keys.  Hits and misses count the successes, entries the misses, and write primitives the write-once fields for
which an assignment target was produced. -/
theorem transparent (h : Served t log c) :
    (∀ op r, Accessor.Operation.Of t op → handedOut (op.request t r) c = handedOut (op.request t r) .empty) ∧
    (∀ t₁ op₁ r₁ place₁ t₂ op₂ r₂ place₂, .accessor t₁ op₁ r₁ (.ok place₁) ∈ log →
      .accessor t₂ op₂ r₂ (.ok place₂) ∈ log →
        (place₁ = place₂ ↔ Accessor.Operation.key op₁ r₁ = Accessor.Operation.key op₂ r₂)) ∧
    c.hits + c.misses = log.countP (·.place?.isSome) ∧
    c.entries.size = c.misses ∧
    c.primitives.length = (log.filterMap (·.primitive?)).dedup.length := by
  have hrecords := h.records
  have hnotes := h.notes
  refine ⟨fun op r hop => ?_, fun t₁ op₁ r₁ place₁ t₂ op₂ r₂ place₂ h₁ h₂ => ?_, hrecords.counted,
    hrecords.misses, ?_⟩
  · rw [hrecords.handedOut_request hop r, (records_empty t).handedOut_request hop r]
  · obtain ⟨l₁, hl₁⟩ := hrecords.answered _ _ _ _ h₁
    obtain ⟨l₂, hl₂⟩ := hrecords.answered _ _ _ _ h₂
    constructor
    · rintro rfl
      rw [hl₁] at hl₂
      exact congrArg Accessor.key (Option.some.inj hl₂)
    · exact hrecords.keys _ _ _ _ hl₁ hl₂
  · have hperm : c.primitives.Perm (log.filterMap (·.primitive?)).dedup :=
      (List.perm_ext_iff_of_nodup hnotes.nodup (List.nodup_dedup _)).2 fun id => by
        rw [hnotes.mem_iff, List.mem_dedup]
    exact hperm.length_eq

/-! ## A tag -/

/-- The number of a tag is written once. -/
def number : FieldRef := ⟨0, 0, ⟨"Number", .int64, .open, false, true, 0⟩⟩

/-- Tags. -/
def tags : TypeTable :=
  TypeTable.empty.push ⟨"Tag", .declared, none, [], [], [number.field], [], [], [⟨[], .open, .assign []⟩],
    [.int64], []⟩

/-- The boundary that is the default one, written out. -/
def writtenOut : AccessorRequest := ⟨.typed, some (.object 0), some .int64, none, some .onInstance⟩

theorem declared_tags : tags.Declared :=
  .declare (d := ⟨"Tag", .declared, none, [], [], [⟨"Number", .int64, .open, false, true⟩], [], [], []⟩)
    .empty (by simp) rfl

/-- The default setter, the default getter, and the getter at the same boundary written out. -/
theorem transparent_tags : ∃ log c, Served tags log c ∧ log.map (·.place?) = [some 0, some 1, some 1] ∧
    handedOut ((Accessor.Operation.get (.field number)).request tags writtenOut) c =
      handedOut ((Accessor.Operation.get (.field number)).request tags writtenOut) .empty ∧
    (∀ place place', .accessor tags (.get (.field number)) .default (.ok place) ∈ log →
      .accessor tags (.get (.field number)) writtenOut (.ok place') ∈ log → place = place') ∧
    c.hits + c.misses = 3 ∧ c.entries.size = c.misses ∧ c.primitives.length = 1 := by
  have hset : (Accessor.Operation.set (.field number)).Of tags := rfl
  have hget : (Accessor.Operation.get (.field number)).Of tags := rfl
  have hserved := (((Served.empty declared_tags).accessor hset .default).accessor hget .default).accessor
    hget writtenOut
  obtain ⟨hsame, hplaces, hcounted, hmisses, hprimitives⟩ := transparent hserved
  refine ⟨_, _, hserved, ?_, hsame _ _ hget, fun place place' h h' => (hplaces _ _ _ _ _ _ _ _ h h').2 rfl,
    hcounted.trans ?_, hmisses, hprimitives.trans ?_⟩
  · decide +kernel
  · decide +kernel
  · decide +kernel

end AccessorCache
end Reshape
