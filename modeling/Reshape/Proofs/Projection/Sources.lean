import Reshape.Projection.Binding
import Reshape.Proofs.Expr.Computation

/-!
# What sources denote

A source is a fixed value, or leads from the source object over members: a path hop by hop, where null
gives null, and an inferred source over the one member that matches (`Reader.members?`).  The value
that is read that way (`Reader.value?`) is what the bound expression of the source denotes
(`Reader.denotes_sourceExpr`).
-/

namespace Reshape

/-! ## Along members -/

/-- The members that names lead over, each on the type of the one before. -/
def TypeTable.membersAlong? (t : TypeTable) (type : ValueType) :
    List String → Option (List MemberRef)
  | [] => some []
  | name :: rest => do
    let owner ← type.underlying.objectType?
    let m ← t.findMember? owner name
    let ms ← t.membersAlong? m.type rest
    some (m :: ms)

/-- What members lead to from a value, if they have slots: null gives null. -/
def Store.along? (s : Store) : Value → List MemberRef → Option Value
  | v, [] => some v
  | .null, _ :: _ => some .null
  | .object ref, m :: ms => (s.held? ref m).bind fun v => s.along? v ms
  | _, _ :: _ => none

/-- The type of what members lead to, after a first one: null may have been met. -/
def MemberRef.typeAlong (type : ValueType) (ms : List MemberRef) : ValueType :=
  ms.foldl (fun _ m => m.type.orNull) type

/-- The members have instance slots. -/
def MemberRef.SlotStored (ms : List MemberRef) : Prop :=
  ∀ m ∈ ms, m.backingSlot?.isSome = true

/-! ## Sources -/

/-- What sources are read with. -/
structure Reader where
  /-- The type definitions that they are bound in. -/
  types : TypeTable
  /-- Type of the source object. -/
  source : TypeId
  /-- How names are compared. -/
  strategy : NameStrategy

namespace Reader

/-- The members that a source leads over, from the source object. -/
def members? (b : Reader) (wanted : Binding.Wanted) : Source → Option (List MemberRef)
  | .path path => b.types.membersAlong? (.object b.source) (path.splitOn ".")
  | .inferred =>
    match Binding.candidates b.types b.source b.strategy wanted with
    | [m] => some [m]
    | _ => none
  | _ => none

/-- The type of a source. -/
def type (b : Reader) (wanted : Binding.Wanted) : Source → ValueType
  | .constant v => (b.types.naturalType? v).getD .any
  | source =>
    match b.members? wanted source with
    | some (m :: ms) => MemberRef.typeAlong m.type ms
    | _ => .any

/-- The value of a source, read from an object. -/
def value? (b : Reader) (wanted : Binding.Wanted) (s : Store) (ref : ObjectRef) :
    Source → Option Value
  | .constant v => some v
  | source => (b.members? wanted source).bind fun ms => s.along? (.object ref) ms

/-- The source is a fixed value, or a path or an inferred source over members with slots. -/
def SlotStored (b : Reader) (wanted : Binding.Wanted) (source : Source) : Prop :=
  match source with
  | .constant _ => True
  | .path _ | .inferred => ∀ ms, b.members? wanted source = some ms → MemberRef.SlotStored ms
  | _ => False

/-- A fixed value is of declared types, and in the store. -/
def Supplied (b : Reader) (s : Store) : Source → Prop
  | .constant v => b.types.Holds v ∧ s.Live v
  | _ => True

variable {b : Reader} {wanted : Binding.Wanted} {source : Source}

/-- A source over members has the type of what they lead to. -/
theorem type_of_members? {m : MemberRef} {ms : List MemberRef}
    (h : b.members? wanted source = some (m :: ms)) :
    b.type wanted source = MemberRef.typeAlong m.type ms := by
  cases source <;> simp only [type, h]
  cases h

theorem value?_of_members? {ms : List MemberRef} (h : b.members? wanted source = some ms)
    (s : Store) (ref : ObjectRef) :
    b.value? wanted s ref source = s.along? (.object ref) ms := by
  cases source <;> simp only [value?, h, Option.bind_some]
  cases h

end Reader

namespace TypeTable

variable {t : TypeTable}

theorem membersAlong?_orNull (type : ValueType) (names : List String) :
    t.membersAlong? type.orNull names = t.membersAlong? type names := by
  cases names with
  | nil => rfl
  | cons name rest =>
    rw [membersAlong?, membersAlong?]
    cases type <;> rfl

theorem membersAlong?_cons {type : ValueType} {owner : TypeId} {name : String} {m : MemberRef}
    (howner : type.underlying.objectType? = some owner) (hm : t.findMember? owner name = some m)
    (rest : List String) :
    t.membersAlong? type (name :: rest) = (t.membersAlong? m.type rest).map (m :: ·) := by
  rw [membersAlong?, howner]
  simp only [Option.bind_eq_bind, Option.bind_some, hm]
  cases t.membersAlong? m.type rest <;> rfl

end TypeTable

/-! ## Hops -/

namespace Binding

variable {t : TypeTable} {source : TypeId}

/-- The first hop reads a member of the source object. -/
theorem hop_none_eq_ok {segment path : String} {e : Expr}
    (h : hop t source none segment path = .ok e) : ∃ member,
      t.findMember? source segment = some member ∧
      Accessor.readMember t (if member.isStatic then none else some (sourceObject source)) member =
        .ok e := by
  simp only [hop] at h
  split at h
  · cases h
  · rename_i member hmember
    exact ⟨member, hmember, h⟩

/-- A later hop navigates over a member of what was read before. -/
theorem hop_some_eq_ok {from_ e : Expr} {segment path : String}
    (h : hop t source (some from_) segment path = .ok e) : ∃ owner member,
      from_.type.underlying.objectType? = some owner ∧
      t.findMember? owner segment = some member ∧ Expr.mkNavigate t from_ member = .ok e := by
  simp only [hop] at h
  split at h
  · cases h
  · rename_i owner howner
    split at h
    · cases h
    · rename_i member hmember
      exact ⟨owner, member, howner, hmember, h⟩

/-- The hops of a path lead over members. -/
theorem exists_membersAlong? {path : String} {names : List String} {from_ : Expr} {e? : Option Expr}
    (h : follow t source path (some from_) names = .ok e?) :
    ∃ ms, t.membersAlong? from_.type names = some ms := by
  induction names generalizing from_ with
  | nil => exact ⟨[], rfl⟩
  | cons name rest ih =>
    obtain ⟨e, he, h⟩ := bind_eq_ok.1 h
    obtain ⟨owner, member, howner, hmember, he⟩ := hop_some_eq_ok he
    obtain ⟨ms, hms⟩ := ih h
    rw [Expr.type_mkNavigate he, TypeTable.membersAlong?_orNull] at hms
    exact ⟨member :: ms, by rw [TypeTable.membersAlong?_cons howner hmember, hms]; rfl⟩

end Binding

/-! ## What sources denote -/

namespace Machine

open Binding

variable {m : Machine} {scope : Scope} {s : Store} {fits : List Value → Prop} {t : TypeTable}
  {source : TypeId}

/-- Following names denotes what the members that they lead over lead to. -/
theorem Denotes.follow (ht : t.Extends m.types) (hm : m.types.Declared) (hs : s.WellTyped m.types)
    {path : String} {names : List String} {ms : List MemberRef} {from_ e : Expr} {v : Value}
    (hd : m.Denotes scope s fits from_ v) (hlive : s.Live v)
    (hms : t.membersAlong? from_.type names = some ms) (hslots : MemberRef.SlotStored ms)
    (h : follow t source path (some from_) names = .ok (some e)) :
    e.type = MemberRef.typeAlong from_.type ms ∧
      ∃ x, s.along? v ms = some x ∧ s.Live x ∧ m.Denotes scope s fits e x := by
  induction names generalizing from_ v ms with
  | nil =>
    cases h
    cases hms
    exact ⟨rfl, v, by rw [Store.along?], hlive, hd⟩
  | cons name rest ih =>
    obtain ⟨e₁, he₁, h⟩ := bind_eq_ok.1 h
    obtain ⟨owner, member, howner, hmember, he₁⟩ := hop_some_eq_ok he₁
    rw [TypeTable.membersAlong?_cons howner hmember] at hms
    obtain ⟨ms', hms', rfl⟩ := Option.map_eq_some_iff.1 hms
    have hslot := hslots member (List.mem_cons_self ..)
    have hslots' : MemberRef.SlotStored ms' := fun a ha => hslots a (List.mem_cons_of_mem _ ha)
    have hread := hd.navigate ht hm hs (TypeTable.findMember?_spec hmember).1 hslot hlive he₁
    have htype := Expr.type_mkNavigate he₁
    rw [← TypeTable.membersAlong?_orNull, ← htype] at hms'
    have hfold : MemberRef.typeAlong from_.type (member :: ms') = MemberRef.typeAlong e₁.type ms' := by
      rw [htype]
      rfl
    rw [hfold]
    rcases hread with ⟨rfl, hnull⟩ | ⟨ref, w, rfl, hreads⟩
    · obtain ⟨htype', x, hx, hrest⟩ := ih hnull (Store.live_null s) hms' hslots' h
      refine ⟨htype', x, ?_, hrest⟩
      -- null stays null along all members
      cases ms' <;> exact hx
    · obtain ⟨htype', x, hx, hrest⟩ := ih hreads.denotes hreads.live hms' hslots' h
      refine ⟨htype', x, ?_, hrest⟩
      rw [Store.along?, hreads.held]
      exact hx

/-- The bound expression of a path denotes what its members lead to from the source object. -/
theorem denotes_pathExpr (ht : t.Extends m.types) (hm : m.types.Declared)
    (hs : s.WellTyped m.types) {ref : ObjectRef}
    (hobject : m.Denotes scope s fits (sourceObject source) (.object ref))
    (hlive : s.Live (.object ref)) {path : String} {e : Expr} (h : pathExpr t source path = .ok e)
    (hslots : ∀ ms, t.membersAlong? (.object source) (path.splitOn ".") = some ms →
      MemberRef.SlotStored ms) :
    ∃ first ms, t.membersAlong? (.object source) (path.splitOn ".") = some (first :: ms) ∧
      e.type = MemberRef.typeAlong first.type ms ∧
      ∃ x, s.along? (.object ref) (first :: ms) = some x ∧ s.Live x ∧
        m.Denotes scope s fits e x := by
  obtain ⟨e?, h, hsome⟩ := bind_eq_ok.1 h
  cases e? with
  | none => cases hsome
  | some e' =>
    cases hsome
    cases hnames : path.splitOn "." with
    | nil =>
      rw [hnames] at h
      cases h
    | cons name rest =>
      rw [hnames] at h hslots
      obtain ⟨e₁, he₁, h⟩ := bind_eq_ok.1 h
      obtain ⟨member, hmember, he₁⟩ := hop_none_eq_ok he₁
      have hfound := TypeTable.findMember?_spec hmember
      have htype := type_readMember ht hm hfound.1 he₁
      have hcons : t.membersAlong? (.object source) (name :: rest) = _ :=
        TypeTable.membersAlong?_cons rfl hmember rest
      obtain ⟨ms, hms⟩ := exists_membersAlong? h
      rw [← htype, hms, Option.map_some] at hcons
      have hslots := hslots _ hcons
      have hslot := hslots member (List.mem_cons_self ..)
      -- a member with an instance slot is not static, so the source object is read
      have hstatic : member.isStatic = false := MemberRef.isStatic_of_backingSlot? hslot
      rw [hstatic] at he₁
      obtain ⟨v, hreads⟩ := hobject.readMember ht hm hs hfound.1 hslot hlive he₁
      obtain ⟨hfold, x, hx, hrest⟩ := hreads.denotes.follow ht hm hs hreads.live hms
        (fun a ha => hslots a (List.mem_cons_of_mem _ ha)) h
      rw [htype] at hfold
      refine ⟨member, ms, hcons, hfold, x, ?_, hrest⟩
      rw [Store.along?, hreads.held]
      exact hx

/-- The bound expression of an inferred source denotes the one member that matches. -/
theorem denotes_inferredExpr (ht : t.Extends m.types) (hm : m.types.Declared)
    (hs : s.WellTyped m.types) {ref : ObjectRef}
    (hobject : m.Denotes scope s fits (sourceObject source) (.object ref))
    (hlive : s.Live (.object ref)) {strategy : NameStrategy} {wanted : Wanted} {e : Expr}
    (h : inferredExpr t source strategy wanted = .ok e)
    (hslots : ∀ member, candidates t source strategy wanted = [member] →
      member.backingSlot?.isSome = true) :
    ∃ member, candidates t source strategy wanted = [member] ∧ e.type = member.type ∧
      ∃ x, s.held? ref member = some x ∧ s.Live x ∧ m.Denotes scope s fits e x := by
  unfold inferredExpr at h
  split at h
  · rename_i member hone
    have hmem : member ∈ candidates t source strategy wanted := by
      rw [hone]
      exact List.mem_singleton_self member
    have hreadable : member ∈ readable t source := by
      cases wanted <;> exact (List.mem_filter.1 hmem).1
    have hfound := TypeTable.mem_members_spec (List.mem_filter.1 hreadable).1
    obtain ⟨v, hreads⟩ := hobject.readMember ht hm hs hfound.1 (hslots member hone) hlive h
    exact ⟨member, hone, type_readMember ht hm hfound.1 h, v, hreads.held, hreads.live, hreads.denotes⟩
  · cases h
  · cases h

end Machine

namespace Build

theorem run_ofExcept_eq_ok {α : Type} {x : Except Error α} {v : α} {n n' : LocalId}
    (h : (ofExcept x).run.run n = (.ok v, n')) : x = .ok v := by
  cases x with
  | ok v' =>
    cases h
    rfl
  | error e => cases h

end Build

/-- What is bound in a context is bound without it. -/
theorem Binding.run_within_eq_ok {α : Type} {context : ErrorContext} {a : Build α} {v : α}
    {n n' : LocalId} (h : (within context a).run.run n = (.ok v, n')) :
    a.run.run n = (.ok v, n') := by
  have hrun : (within context a).run.run n = match a.run.run n with
      | (.ok v, n') => (.ok v, n')
      | (.error e, n') => (.error (.inContext context e), n') := by
    simp only [within, tryCatch, tryCatchThe, MonadExceptOf.tryCatch, ExceptT.tryCatch, ExceptT.mk,
      ExceptT.run, StateT.run, bind, StateT.bind]
    cases a n with
    | mk result n' => cases result <;> rfl
  rw [hrun] at h
  split at h
  · rename_i hv
    cases h
    exact hv
  · cases h

/-- **A source denotes the value that is read over its members.** -/
theorem Reader.denotes_sourceExpr {m : Machine} {scope : Scope} {s : Store}
    {fits : List Value → Prop} (b : Reader) (ht : b.types.Extends m.types)
    (hm : m.types.Declared) (hs : s.WellTyped m.types) {ref : ObjectRef}
    (hobject : m.Denotes scope s fits (Binding.sourceObject b.source) (.object ref))
    (hlive : s.Live (.object ref)) {wanted : Binding.Wanted} {source : Source}
    (hslots : b.SlotStored wanted source) (hsupplied : b.Supplied s source) {e : Expr}
    {n n' : LocalId}
    (h : (Binding.sourceExpr b.types b.source b.strategy wanted source).run.run n = (.ok e, n')) :
    e.type = b.type wanted source ∧
      ∃ x, b.value? wanted s ref source = some x ∧ s.Live x ∧ m.Denotes scope s fits e x := by
  cases source with
  | constant v =>
    cases h
    refine ⟨rfl, v, rfl, hsupplied.2, Machine.denotes_constant ?_⟩
    cases htype : b.types.naturalType? v with
    | some type => exact TypeTable.conforms_mono ht (TypeTable.conforms_naturalType? hsupplied.1 htype)
    | none => rfl
  | path path =>
    obtain ⟨first, ms, hms, htype, x, hx, hrest⟩ :=
      Machine.denotes_pathExpr ht hm hs hobject hlive (Build.run_ofExcept_eq_ok h) hslots
    have hmembers : b.members? wanted (.path path) = some (first :: ms) := hms
    exact ⟨htype.trans (Reader.type_of_members? hmembers).symm, x,
      (Reader.value?_of_members? hmembers s ref).trans hx, hrest⟩
  | inferred =>
    have hmembers : ∀ member, Binding.candidates b.types b.source b.strategy wanted = [member] →
        b.members? wanted .inferred = some [member] := by
      intro member hone
      rw [Reader.members?, hone]
    obtain ⟨member, hone, htype, x, hx, hrest⟩ :=
      Machine.denotes_inferredExpr ht hm hs hobject hlive (Build.run_ofExcept_eq_ok h)
        fun member hone => hslots _ (hmembers member hone) member (List.mem_singleton_self _)
    refine ⟨htype.trans (Reader.type_of_members? (hmembers member hone)).symm, x, ?_, hrest⟩
    rw [Reader.value?_of_members? (hmembers member hone), Store.along?, hx]
    rfl
  | expression e => exact hslots.elim
  | lambda l => exact hslots.elim

end Reshape
