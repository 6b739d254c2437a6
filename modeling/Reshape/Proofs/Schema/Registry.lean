import Reshape.Proofs.Schema.History
import Reshape.Workspace

/-!
# The registry and the module of an engine

`Engine.synthesize_answer` says once what a synthesis call can do: refuse the descriptor, refuse to replace
the registered definition, give that one back, or emit a new one.  Emission itself never fails, since an
accepted descriptor is well-formed.

A run of requests to a workspace is followed by what each request made one engine emit
(`Workspace.emissions`).  The engine is at every moment what that log says (`Engine.Records`): the module is
the log, the registry has the last entry of every name, and each handle is of the type that its descriptor was
emitted as.  One request keeps this (`Engine.Records.request`), because the handle of a new definition is the
size of the table and so larger than all before it; a run keeps it by induction.
-/

namespace Reshape

/-! ## One call -/

namespace Engine

/-- What a synthesis call can do. -/
inductive Answer (e : Engine) (t : TypeTable) (d : Descriptor) :
    Except Error (TypeTable × Engine × TypeId) → Prop
  /-- The descriptor is not accepted. -/
  | invalid {error : Error} (hv : t.validate e.options d = .error error) : Answer e t d (.error error)
  /-- The name is registered for another signature and may not be synthesized again. -/
  | forbidden {r : Registration} (hv : t.validate e.options d = .ok ())
      (hr : e.registered? d.name = some r) (hsig : r.signature ≠ d.signature)
      (hallow : e.options.allowResynthesis = false) :
      Answer e t d (.error (.resynthesisDisabled d.name (t.fingerprint r.signature)))
  /-- The registered definition comes back. -/
  | known {r : Registration} (hv : t.validate e.options d = .ok ())
      (hr : e.registered? d.name = some r) (hsig : r.signature = d.signature) :
      Answer e t d (.ok (t, e, r.handle))
  /-- A new definition is made and registered. -/
  | emitted {m : TypeModel} (hv : t.validate e.options d = .ok ())
      (hnew : ∀ r, e.registered? d.name = some r →
        r.signature ≠ d.signature ∧ e.options.allowResynthesis = true)
      (hm : t.build (d.declaration t) = .ok m) :
      Answer e t d (.ok (t.push m, e.register d.name ⟨d.signature, t.size⟩, t.size))

theorem synthesize_answer (e : Engine) (t : TypeTable) (d : Descriptor) :
    e.Answer t d (e.synthesize t d) := by
  cases hv : t.validate e.options d with
  | error error =>
    rw [show e.synthesize t d = .error error by rw [synthesize, hv]; rfl]
    exact .invalid hv
  | ok =>
    obtain ⟨m, hm⟩ := (TypeTable.wellformed_of_validate hv).exists_build
    simp only [synthesize, hv, bind, Except.bind]
    split
    · rename_i previous hr
      split
      · rename_i hsig
        exact .known hv hr hsig
      · rename_i hsig
        split
        · rename_i hallow
          rw [emit_of_build hm]
          refine .emitted hv (fun r h => ?_) hm
          rw [hr] at h
          cases h
          exact ⟨hsig, hallow⟩
        · rename_i hallow
          exact .forbidden hv hr hsig (Bool.eq_false_iff.2 hallow)
    · rename_i hnone
      rw [emit_of_build hm]
      refine .emitted hv (fun r h => ?_) hm
      rw [hnone] at h
      cases h

end Engine

/-! ## Requests -/

namespace Work

/-- Run some work on a workspace. -/
def perform {α : Type} (a : Work α) (w : Workspace) : Except Report α × Workspace :=
  a.run.run w

theorem perform_ofExcept_bind {α β : Type} (x : Except Error α) (f : α → Work β) (w : Workspace) :
    Work.perform (Work.ofExcept x >>= f) w = match x with
      | .ok a => (f a).perform w
      | .error e => (.error (w.world.report e), w) := by
  cases x <;> rfl

theorem perform_declare (w : Workspace) (d : Declaration) : (Work.declare d).perform w =
    match w.types.declare d with
    | .ok (t, id) => (.ok id, { w with types := t })
    | .error e => (.error (w.world.report e), w) := by
  have h := perform_ofExcept_bind (w.types.declare d)
    (fun made => do modify ({ · with types := made.1 }); pure made.2) w
  refine Eq.trans (Eq.trans rfl h) ?_
  cases w.types.declare d <;> rfl

theorem perform_synthesize (w : Workspace) (n : Nat) (d : Descriptor) :
    (Work.synthesize n d).perform w =
      match (w.engine n).synthesize w.types d with
      | .ok (t, e, id) => (.ok id, { w with types := t, engines := w.engines.setIfInBounds n e })
      | .error e => (.error (w.world.report e), w) := by
  have h := perform_ofExcept_bind ((w.engine n).synthesize w.types d)
    (fun made => do
      set { w with types := made.1, engines := w.engines.setIfInBounds n made.2.1 }
      pure made.2.2) w
  refine Eq.trans (Eq.trans rfl h) ?_
  cases (w.engine n).synthesize w.types d <;> rfl

end Work

/-- What is asked of a workspace that makes types. -/
inductive TypeRequest where
  /-- Declare a type. -/
  | declare (d : Declaration)
  /-- Synthesize the type of a descriptor with an engine. -/
  | synthesize (engine : Nat) (d : Descriptor)

/-- Do what is asked. -/
def TypeRequest.work : TypeRequest → Work TypeId
  | declare d => Work.declare d
  | synthesize engine d => Work.synthesize engine d

namespace Workspace

/-- The workspace after a request, whether it failed or not. -/
def afterOne (w : Workspace) (r : TypeRequest) : Workspace :=
  (r.work.perform w).2

/-- The workspace after some requests. -/
def after (w : Workspace) (rs : List TypeRequest) : Workspace :=
  rs.foldl afterOne w

/-- What a request makes an engine emit: the descriptor, if the module is longer afterwards. -/
def emitted (w : Workspace) (n : Nat) : TypeRequest → List Engine.Emission
  | .declare _ => []
  | .synthesize k d =>
    if ((w.afterOne (.synthesize k d)).engine n).definitions = (w.engine n).definitions then []
    else [⟨w.types, d⟩]

/-- What some requests make an engine emit, in order. -/
def emissions (n : Nat) : Workspace → List TypeRequest → List Engine.Emission
  | _, [] => []
  | w, r :: rs => w.emitted n r ++ emissions n (w.afterOne r) rs

variable {w w' : Workspace} {n : Nat}

theorem engine_of_getElem? {e : Engine} (h : w.engines[n]? = some e) : w.engine n = e := by
  rw [engine, h, Option.getD_some]

theorem setIfInBounds_engine (w : Workspace) (n : Nat) :
    w.engines.setIfInBounds n (w.engine n) = w.engines := by
  refine Array.ext (by simp) fun i h h' => ?_
  rw [Array.getElem_setIfInBounds]
  split
  · rename_i hi
    subst hi
    exact engine_of_getElem? (Array.getElem?_eq_getElem h')
  · rfl

theorem engine_setIfInBounds {k : Nat} {t : TypeTable} {e : Engine} (hn : n < w.engines.size) :
    engine { w with types := t, engines := w.engines.setIfInBounds k e } n =
      if k = n then e else w.engine n := by
  rw [engine, Array.getElem?_setIfInBounds]
  split
  · rename_i hk
    subst hk
    rw [if_pos hn, Option.getD_some]
  · rfl

/-- What a request does to one engine, and what it makes it emit. -/
inductive Step (n : Nat) (w w' : Workspace) : List Engine.Emission → Prop
  /-- Nothing; other types may have been made. -/
  | other (he : w'.engine n = w.engine n) (ht : w.types.Extends w'.types) : Step n w w' []
  /-- It has emitted a descriptor. -/
  | emitted {d : Descriptor} {m : TypeModel}
      (hnew : ∀ r, (w.engine n).registered? d.name = some r →
        r.signature ≠ d.signature ∧ (w.engine n).options.allowResynthesis = true)
      (hm : w.types.build (d.declaration w.types) = .ok m)
      (he : w'.engine n = (w.engine n).register d.name ⟨d.signature, w.types.size⟩)
      (ht : w'.types = w.types.push m) : Step n w w' [⟨w.types, d⟩]

theorem afterOne_declare (w : Workspace) (d : Declaration) :
    (w.afterOne (.declare d) = w) ∨ ∃ m, w.afterOne (.declare d) = { w with types := w.types.push m } := by
  rw [afterOne, TypeRequest.work, Work.perform_declare]
  cases hd : w.types.declare d with
  | error e => exact .inl rfl
  | ok made =>
    obtain ⟨m, -, hd⟩ := bind_eq_ok.1 hd
    cases hd
    exact .inr ⟨m, rfl⟩

theorem afterOne_synthesize (w : Workspace) (k : Nat) (d : Descriptor) :
    w.afterOne (.synthesize k d) = match (w.engine k).synthesize w.types d with
      | .ok (t, e, _) => { w with types := t, engines := w.engines.setIfInBounds k e }
      | .error _ => w := by
  rw [afterOne, TypeRequest.work, Work.perform_synthesize]
  cases (w.engine k).synthesize w.types d <;> rfl

@[simp] theorem size_engines_afterOne (w : Workspace) (r : TypeRequest) :
    (w.afterOne r).engines.size = w.engines.size := by
  cases r with
  | declare d => rcases afterOne_declare w d with h | ⟨m, h⟩ <;> rw [h]
  | synthesize k d =>
    rw [afterOne_synthesize]
    cases (w.engine k).synthesize w.types d <;> simp

@[simp] theorem size_engines_after (w : Workspace) (rs : List TypeRequest) :
    (w.after rs).engines.size = w.engines.size := by
  induction rs generalizing w with
  | nil => rfl
  | cons r rs ih => exact (ih (w.afterOne r)).trans (size_engines_afterOne w r)

/-- Each request is a step of each engine. -/
theorem step_afterOne (hn : n < w.engines.size) (r : TypeRequest) :
    Step n w (w.afterOne r) (w.emitted n r) := by
  cases r with
  | declare d =>
    rcases afterOne_declare w d with h | ⟨m, h⟩ <;> rw [h, emitted]
    · exact .other rfl (.refl _)
    · exact .other rfl (TypeTable.extends_push _ m)
  | synthesize k d =>
    have hquiet : (w.afterOne (.synthesize k d)).engine n = w.engine n →
        w.types.Extends (w.afterOne (.synthesize k d)).types →
        Step n w (w.afterOne (.synthesize k d)) (w.emitted n (.synthesize k d)) := by
      intro he ht
      rw [emitted, if_pos (congrArg Engine.definitions he)]
      exact .other he ht
    have hanswer := (w.engine k).synthesize_answer w.types d
    have hafter := afterOne_synthesize w k d
    generalize (w.engine k).synthesize w.types d = answer at hanswer hafter
    cases hanswer with
    | invalid | forbidden =>
      rw [show w.afterOne (.synthesize k d) = w from hafter] at hquiet ⊢
      exact hquiet rfl (.refl _)
    | known =>
      simp only [setIfInBounds_engine] at hafter
      rw [hafter] at hquiet ⊢
      exact hquiet rfl (.refl _)
    | @emitted m _ hnew hm =>
      have he : (w.afterOne (.synthesize k d)).engine n =
          if k = n then (w.engine k).register d.name ⟨d.signature, w.types.size⟩ else w.engine n := by
        rw [hafter]
        exact engine_setIfInBounds hn
      by_cases hk : k = n
      · subst hk
        rw [if_pos rfl] at he
        have hlonger : ((w.afterOne (.synthesize k d)).engine k).definitions ≠
            (w.engine k).definitions := by
          simp [he, Engine.register]
        rw [emitted, if_neg hlonger]
        exact .emitted hnew hm he (by rw [hafter])
      · rw [if_neg hk] at he
        exact hquiet he (by rw [hafter]; exact TypeTable.extends_push _ m)

end Workspace

/-! ## What an engine records -/

namespace Engine

/-- The handle of what was emitted: the place that was free in the table. -/
def Emission.handle (x : Emission) : TypeId := x.types.size

/-- What is registered for an emission. -/
def Emission.registration (x : Emission) : Registration := ⟨x.descriptor.signature, x.handle⟩

/-- The last emission for a name. -/
def latest? (log : List Emission) (name : String) : Option Emission :=
  log.reverse.find? (·.descriptor.name == name)

theorem latest?_append (log : List Emission) (x : Emission) (name : String) :
    latest? (log ++ [x]) name = if name = x.descriptor.name then some x else latest? log name := by
  rw [latest?, List.reverse_append, List.reverse_singleton, List.singleton_append, List.find?_cons]
  by_cases h : name = x.descriptor.name
  · simp [h]
  · rw [if_neg h, beq_eq_false_iff_ne.2 (Ne.symm h)]
    rfl

/-- The registry and the module of an engine are what a log of its emissions says. -/
structure Records (e : Engine) (t : TypeTable) (log : List Emission) : Prop where
  /-- The module has the handles, in order. -/
  module : e.definitions = log.map (·.handle)
  /-- The registry has the last emission of each name, with the signature of its descriptor. -/
  latest : ∀ name, e.registered? name = (latest? log name).map (·.registration)
  /-- No name is registered twice. -/
  names : (e.registry.map (·.1)).Nodup
  /-- There are no more names than definitions. -/
  count : e.registry.length ≤ e.definitions.length
  /-- No handle is used twice: each is larger than those before it. -/
  increasing : e.definitions.Pairwise (· < ·)
  /-- Each handle is of a type, which is what its descriptor was emitted as. -/
  made : ∀ x ∈ log, x.handle < t.size ∧ x.descriptor.Realised x.types (t.model x.handle)

theorem records_new (o : SynthesisOptions) (t : TypeTable) : (Engine.new o).Records t [] :=
  ⟨rfl, fun _ => rfl, List.nodup_nil, Nat.le_refl _, .nil, fun _ h => (by cases h)⟩

variable {e e' : Engine} {t t' : TypeTable} {log : List Emission}

/-- What is registered is in the module. -/
theorem Records.registered_mem (h : e.Records t log) {name : String} {r : Registration}
    (hr : e.registered? name = some r) : r.handle ∈ e.definitions := by
  rw [h.latest] at hr
  obtain ⟨x, hx, rfl⟩ := Option.map_eq_some_iff.1 hr
  rw [h.module]
  exact List.mem_map_of_mem (List.mem_reverse.1 (List.mem_of_find?_eq_some hx))

/-- The module is in the table. -/
theorem Records.lt_size (h : e.Records t log) {id : TypeId} (hid : id ∈ e.definitions) : id < t.size := by
  rw [h.module] at hid
  obtain ⟨x, hx, rfl⟩ := List.mem_map.1 hid
  exact (h.made x hx).1

theorem Records.mono (h : e.Records t log) (ht : t.Extends t') : e.Records t' log := by
  refine ⟨h.module, h.latest, h.names, h.count, h.increasing, fun x hx => ?_⟩
  obtain ⟨hlt, hrealised⟩ := h.made x hx
  rw [ht.model_eq hlt]
  exact ⟨Nat.lt_of_lt_of_le hlt ht.size_le, hrealised⟩

/-- What is emitted next is recorded. -/
theorem Records.register (h : e.Records t log) {d : Descriptor} {m : TypeModel}
    (hm : t.build (d.declaration t) = .ok m) :
    (e.register d.name ⟨d.signature, t.size⟩).Records (t.push m) (log ++ [⟨t, d⟩]) := by
  refine ⟨?_, fun name => ?_, ?_, ?_, ?_, fun x hx => ?_⟩
  · simp [Engine.register, h.module, Emission.handle]
  · rw [registered?_register, latest?_append, h.latest]
    split <;> rfl
  · refine List.nodup_cons.2 ⟨?_, h.names.sublist (List.filter_sublist.map _)⟩
    simp [List.mem_filter]
  · have hcount := h.count
    have hfilter := List.length_filter_le (fun entry : String × Registration => entry.1 != d.name) e.registry
    simp only [Engine.register, List.length_cons, List.length_append, List.length_nil]
    omega
  · refine List.pairwise_append.2 ⟨h.increasing, List.pairwise_singleton .., fun id hid next hnext => ?_⟩
    rw [List.mem_singleton.1 hnext]
    exact h.lt_size hid
  · rcases List.mem_append.1 hx with hx | hx
    · exact (h.mono (TypeTable.extends_push t m)).made x hx
    · rw [List.mem_singleton.1 hx]
      refine ⟨Nat.lt_succ_self _, ?_⟩
      rw [show Emission.handle ⟨t, d⟩ = t.size from rfl, TypeTable.model_push_size]
      exact Descriptor.realised_of_build hm

/-- What later calls leave of an engine: its module grows, and if names are not synthesized again then they
keep what is registered. -/
structure Precedes (e e' : Engine) : Prop where
  /-- The options are the same. -/
  options : e'.options = e.options
  /-- The module grows. -/
  module : e.definitions <+: e'.definitions
  /-- Names may keep what is registered. -/
  kept : e.options.allowResynthesis = false → ∀ name r, e.registered? name = some r →
    e'.registered? name = some r

theorem Precedes.refl (e : Engine) : e.Precedes e := ⟨rfl, List.prefix_rfl, fun _ _ _ h => h⟩

theorem Precedes.trans {e₁ e₂ e₃ : Engine} (h : e₁.Precedes e₂) (h' : e₂.Precedes e₃) :
    e₁.Precedes e₃ :=
  ⟨h'.options.trans h.options, h.module.trans h'.module, fun hallow name r hr =>
    h'.kept (h.options ▸ hallow) name r (h.kept hallow name r hr)⟩

end Engine

namespace Workspace

variable {w w' : Workspace} {n : Nat} {new : List Engine.Emission}

/-- A step is recorded. -/
theorem Step.records (h : Step n w w' new) {log : List Engine.Emission}
    (hr : (w.engine n).Records w.types log) : (w'.engine n).Records w'.types (log ++ new) := by
  cases h with
  | other he ht =>
    rw [he, List.append_nil]
    exact hr.mono ht
  | emitted _ hm he ht =>
    rw [he, ht]
    exact hr.register hm

theorem Step.precedes (h : Step n w w' new) : (w.engine n).Precedes (w'.engine n) := by
  cases h with
  | other he _ =>
    rw [he]
    exact .refl _
  | @emitted d m hnew _ he _ =>
    rw [he]
    refine ⟨rfl, List.prefix_append .., fun hallow name r hr => ?_⟩
    rw [Engine.registered?_register, if_neg]
    · exact hr
    · rintro rfl
      exact Bool.false_ne_true (hallow.symm.trans (hnew r hr).2)

theorem records_after {log : List Engine.Emission} (hn : n < w.engines.size)
    (h : (w.engine n).Records w.types log) (rs : List TypeRequest) :
    ((w.after rs).engine n).Records (w.after rs).types (log ++ emissions n w rs) := by
  induction rs generalizing w log with
  | nil => simpa [after, emissions] using h
  | cons r rs ih =>
    have hstep := (step_afterOne hn r).records h
    have hrest := ih (by rwa [size_engines_afterOne]) hstep
    rwa [List.append_assoc] at hrest

theorem precedes_after (hn : n < w.engines.size) (rs : List TypeRequest) :
    (w.engine n).Precedes ((w.after rs).engine n) := by
  induction rs generalizing w with
  | nil => exact .refl _
  | cons r rs ih => exact (step_afterOne hn r).precedes.trans (ih (by rwa [size_engines_afterOne]))

/-! ## The history of an engine -/

/-- What a synthesis call with an engine answers, and the workspace after it. -/
inductive Answers (w : Workspace) (n : Nat) (d : Descriptor) : Except Report TypeId × Workspace → Prop
  /-- The descriptor is not accepted, or its name must not be synthesized again; nothing changes. -/
  | refused {error : Error}
      (hcause : w.types.validate (w.engine n).options d = .error error ∨
        ∃ r, (w.engine n).registered? d.name = some r ∧ r.signature ≠ d.signature ∧
          (w.engine n).options.allowResynthesis = false ∧
          error = .resynthesisDisabled d.name (w.types.fingerprint r.signature)) :
      Answers w n d (.error (w.world.report error), w)
  /-- The registered type has the signature of the descriptor; it comes back and nothing changes. -/
  | known {r : Registration} (hr : (w.engine n).registered? d.name = some r)
      (hsig : r.signature = d.signature) : Answers w n d (.ok r.handle, w)
  /-- One definition is added to the types and to the module and is registered under its name. -/
  | emitted {w' : Workspace} (hfresh : w.types.size ∉ (w.engine n).definitions)
      (htypes : ∃ m, w'.types = w.types.push m)
      (hmodule : (w'.engine n).definitions = (w.engine n).definitions ++ [w.types.size])
      (hregistered : ∀ name, (w'.engine n).registered? name =
        if name = d.name then some ⟨d.signature, w.types.size⟩ else (w.engine n).registered? name) :
      Answers w n d (.ok w.types.size, w')

theorem answers_perform (hn : n < w.engines.size) {log : List Engine.Emission}
    (h : (w.engine n).Records w.types log) (d : Descriptor) :
    w.Answers n d ((Work.synthesize n d).perform w) := by
  have hanswer := (w.engine n).synthesize_answer w.types d
  rw [Work.perform_synthesize]
  generalize (w.engine n).synthesize w.types d = answer at hanswer
  cases hanswer with
  | invalid hv => exact .refused (.inl hv)
  | @forbidden r _ hr hsig hallow => exact .refused (.inr ⟨r, hr, hsig, hallow, rfl⟩)
  | @known r _ hr hsig =>
    simp only [setIfInBounds_engine]
    exact .known hr hsig
  | @emitted m _ hnew hm =>
    have he := (engine_setIfInBounds (k := n) (t := w.types.push m)
      (e := (w.engine n).register d.name ⟨d.signature, w.types.size⟩) hn).trans (if_pos rfl)
    refine .emitted (fun hmem => Nat.lt_irrefl _ (h.lt_size hmem)) ⟨m, rfl⟩ ?_ fun name => ?_
    · rw [he]
      rfl
    · rw [he, Engine.registered?_register]

/-- **The registry and the module of an engine after any requests.**  They are what the log of emissions says;
the next call is refused and changes nothing, gives back the registered type and changes nothing, or makes
and registers one new type; and later requests add to the module and, where names are not synthesized again,
keep what is registered. -/
theorem registry_history {o : SynthesisOptions} {w₀ : Workspace} {n : Nat}
    (h : w₀.engines[n]? = some (.new o)) (rs more : List TypeRequest) (d : Descriptor) :
    let w := w₀.after rs
    let e := w.engine n
    e.options = o ∧
    e.Records w.types (emissions n w₀ rs) ∧
    (∀ name r, e.registered? name = some r → r.handle ∈ e.definitions) ∧
    w.Answers n d ((Work.synthesize n d).perform w) ∧
    e.Precedes ((w.after more).engine n) := by
  intro w e
  obtain ⟨hn, -⟩ := Array.getElem?_eq_some_iff.1 h
  have hsize : n < w.engines.size := by rwa [size_engines_after]
  have hnew : (w₀.engine n).Records w₀.types [] := by
    rw [engine_of_getElem? h]
    exact Engine.records_new o w₀.types
  have hrecords : e.Records w.types (emissions n w₀ rs) := records_after hn hnew rs
  have hoptions : e.options = o := by
    rw [(precedes_after hn rs).options, engine_of_getElem? h]
    rfl
  exact ⟨hoptions, hrecords, fun _ _ => hrecords.registered_mem, answers_perform hsize hrecords d,
    precedes_after hsize more⟩

/-- Two points of one signature, and the first again. -/
theorem registry_history_points :
    let plain : TypeRequest := .synthesize 0 (Engine.point .none none)
    let bound : TypeRequest := .synthesize 0 (Engine.point .required (some "x"))
    let w := Workspace.new.after [plain, bound]
    Workspace.new.engines[0]? = some (.new .default) ∧
    (w.engine 0).Records w.types (emissions 0 .new [plain, bound]) ∧
    w.Answers 0 (Engine.point .none none) (plain.work.perform w) := by
  intro plain bound w
  obtain ⟨-, hrecords, -, hanswers, -⟩ :=
    @registry_history .default .new 0 rfl [plain, bound] [] (Engine.point .none none)
  exact ⟨rfl, hrecords, hanswers⟩

end Workspace
end Reshape
