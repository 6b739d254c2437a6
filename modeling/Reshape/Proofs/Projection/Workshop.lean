import Reshape.Projection.Compilation
import Reshape.Proofs.Schema.History

/-!
# What compilation changes

Compilation draws numbers for local bindings and fills the accessor cache, and leaves the type
definitions and the engine alone, but for one step: the synthesis of the target.  So a compilation
that fails leaves the engine as it was, or as the synthesis of its target leaves it
(`Compilation.engine_of_failure`).  The second does happen (`Compilation.exists_failure_registers`).
-/

namespace Reshape
namespace Compilation

/-! ## Steps that leave types and engine alone -/

/-- The step leaves the type definitions and the engine as they are. -/
def Neutral {α : Type} (a : Compilation α) : Prop :=
  ∀ w, (a.run.run w).2.types = w.types ∧ (a.run.run w).2.engine = w.engine

section Neutral

variable {α β : Type}

theorem Neutral.pure (v : α) : Neutral (pure v) := fun _ => ⟨rfl, rfl⟩

theorem Neutral.throw (e : Error) : Neutral (throw e : Compilation α) := fun _ => ⟨rfl, rfl⟩

theorem Neutral.bind {a : Compilation α} {f : α → Compilation β} (ha : Neutral a)
    (hf : ∀ v, Neutral (f v)) : Neutral (a >>= f) := by
  intro w
  rw [run_bind]
  have hw := ha w
  split
  · rename_i v w₁ h
    rw [h] at hw
    obtain ⟨htypes, hengine⟩ := hf v w₁
    exact ⟨htypes.trans hw.1, hengine.trans hw.2⟩
  · rename_i e w₁ h
    rw [h] at hw
    exact hw

theorem Neutral.ofExcept (x : Except Error α) : Neutral (ofExcept x) := by
  cases x with
  | ok v => exact .pure v
  | error e => exact .throw e

theorem neutral_types : Neutral types := fun _ => ⟨rfl, rfl⟩

theorem Neutral.ofBuild (a : Build α) : Neutral (ofBuild a) := by
  intro w
  rw [Compilation.ofBuild]
  exact Neutral.ofExcept (a.run.run w.supply).1 { w with supply := (a.run.run w.supply).2 }

theorem Neutral.ofSynthesis (a : Synthesis α) : Neutral (ofSynthesis a) := by
  intro w
  rw [Compilation.ofSynthesis]
  exact Neutral.ofExcept (a.run.run w.cache).1 { w with cache := (a.run.run w.cache).2 }

end Neutral

theorem neutral_bindSources (strategy : NameStrategy) (source : TypeId)
    (members : List MemberTarget) : Neutral (bindSources strategy source members) := by
  induction members with
  | nil => exact .pure _
  | cons m rest ih =>
    refine neutral_types.bind fun t => (Neutral.ofBuild _).bind fun e => ih.bind fun es => ?_
    exact .pure _

theorem neutral_bindArgument (strategy : NameStrategy) (source : TypeId) (p : Parameter)
    (fed : Option Fed) : Neutral (bindArgument strategy source p fed) := by
  refine neutral_types.bind fun t => (Neutral.ofExcept _).bind fun fallback => ?_
  match fed with
  | some (.member m e) => exact (Neutral.ofBuild _).bind fun value => .pure _
  | some (.parameter target) =>
    exact (Neutral.ofBuild _).bind fun raw => (Neutral.ofBuild _).bind fun value => .pure _
  | none =>
    cases fallback with
    | some e => exact .pure _
    | none => exact (Neutral.ofExcept _).bind fun e => .pure _

theorem neutral_bindArguments (strategy : NameStrategy) (source : TypeId)
    (fed : List (Parameter × Option Fed)) : Neutral (bindArguments strategy source fed) := by
  induction fed with
  | nil => exact .pure _
  | cons entry rest ih =>
    refine (neutral_bindArgument strategy source entry.1 entry.2).bind fun arg => ih.bind fun _ => ?_
    exact .pure _

theorem neutral_bindAssignment (target : TypeId) (m : MemberTarget) (source : Expr) :
    Neutral (bindAssignment target m source) := by
  refine neutral_types.bind fun t => (Neutral.ofExcept _).bind fun member => ?_
  exact (Neutral.ofBuild _).bind fun value => (Neutral.ofSynthesis _).bind fun _ => .pure _

theorem neutral_bindAssignments (target : TypeId) (members : List (MemberTarget × Expr)) :
    Neutral (bindAssignments target members) := by
  induction members with
  | nil => exact .pure _
  | cons entry rest ih =>
    refine (neutral_bindAssignment target entry.1 entry.2).bind fun a => ih.bind fun _ => ?_
    exact .pure _

/-! ## After the target -/

/-- What is bound once the sources and the target are: the constructor, its arguments and the
assignments. -/
def bindRest (strategy : NameStrategy) (c : Configuration) (sources : List Expr)
    (target : TypeId) : Compilation CompiledProjection := do
  let t ← types
  let (r, feeds) ← ofExcept (Fitting.resolve t target c strategy)
  let args ← bindArguments strategy c.source
    (r.constructor.parameters.zip (feeds.map (fed? c sources)))
  let assignments ← bindAssignments target (leftOver c sources feeds)
  ofExcept (CompiledProjection.make t c.source r args assignments)

theorem compile_eq (strategy : NameStrategy) (c : Configuration) :
    compile strategy c = (do
      let sources ← bindSources (c.strategy?.getD strategy) c.source c.members
      let target ← bindTarget c sources
      bindRest (c.strategy?.getD strategy) c sources target) :=
  rfl

theorem neutral_bindRest (strategy : NameStrategy) (c : Configuration) (sources : List Expr)
    (target : TypeId) : Neutral (bindRest strategy c sources target) := by
  refine neutral_types.bind fun t => (Neutral.ofExcept _).bind fun bound => ?_
  refine (neutral_bindArguments _ _ _).bind fun args => ?_
  exact (neutral_bindAssignments _ _).bind fun assignments => .ofExcept _

/-! ## The target -/

theorem run_get_bind {α : Type} (f : Workshop → Compilation α) (w : Workshop) :
    (get >>= f).run.run w = (f w).run.run w :=
  rfl

theorem run_ofExcept_bind {α β : Type} (x : Except Error α) (f : α → Compilation β)
    (w : Workshop) : (ofExcept x >>= f).run.run w = match x with
      | .ok v => (f v).run.run w
      | .error e => (.error e, w) := by
  cases x <;> rfl

theorem run_synthesizeTarget {c : Configuration} (h : isExplicit c = false) (name : String)
    (sources : List Expr) (w : Workshop) : (synthesizeTarget name c sources).run.run w =
      match inferredDescriptor w.types name (c.members.zip sources) with
      | .error e => (.error e, w)
      | .ok d =>
        match w.engine.synthesize w.types d with
        | .error e => (.error e, w)
        | .ok (t, engine, id) => (.ok id, { w with types := t, engine := engine }) := by
  simp only [synthesizeTarget, h, Bool.false_eq_true, if_false]
  rw [run_get_bind, run_ofExcept_bind]
  cases inferredDescriptor w.types name (c.members.zip sources) with
  | error e => rfl
  | ok d =>
    simp only
    rw [run_ofExcept_bind]
    cases w.engine.synthesize w.types d with
    | error e => rfl
    | ok made => rfl

/-- The inferred target of a configuration was synthesized, which made the table and the engine what
they are afterwards. -/
structure Synthesized (w : Workshop) (c : Configuration) (sources : List Expr) (t : TypeTable)
    (engine : Engine) (id : TypeId) (d : Descriptor) : Prop where
  /-- The target is inferred. -/
  target : c.target = .synthesized d.name
  /-- No constructor and no parameter is named. -/
  inferred : isExplicit c = false
  /-- The descriptor is inferred from the sources. -/
  descriptor : inferredDescriptor w.types d.name (c.members.zip sources) = .ok d
  /-- The engine accepted it. -/
  synthesize : w.engine.synthesize w.types d = .ok (t, engine, id)

theorem name_of_inferredDescriptor {t : TypeTable} {name : String}
    {members : List (MemberTarget × Expr)} {d : Descriptor}
    (h : inferredDescriptor t name members = .ok d) : d.name = name := by
  obtain ⟨properties, -, h⟩ := bind_eq_ok.1 h
  cases h
  rfl

/-- Binding the target changes nothing, or the synthesis of an inferred target succeeds and changes
what that call of the engine does. -/
theorem bindTarget_cases (c : Configuration) (sources : List Expr) (w : Workshop) :
    ((bindTarget c sources).run.run w).2 = w ∨
      ∃ t engine id d, Synthesized w c sources t engine id d ∧
        (bindTarget c sources).run.run w = (.ok id, { w with types := t, engine := engine }) := by
  cases htarget : c.target with
  | declared type =>
    left
    rw [bindTarget, htarget]
    rfl
  | synthesized name =>
    rw [bindTarget, htarget]
    cases hexplicit : isExplicit c with
    | true =>
      left
      simp only [synthesizeTarget, hexplicit, if_true]
      rfl
    | false =>
      simp only [run_synthesizeTarget hexplicit]
      cases hd : inferredDescriptor w.types name (c.members.zip sources) with
      | error e => exact .inl rfl
      | ok d =>
        cases hs : w.engine.synthesize w.types d with
        | error e =>
          left
          simp only [hs]
        | ok made =>
          obtain ⟨t, engine, id⟩ := made
          simp only [hs]
          have hname := name_of_inferredDescriptor hd
          subst hname
          exact .inr ⟨t, engine, id, d, ⟨htarget, hexplicit, hd, hs⟩, rfl⟩

/-- What a whole run does to types and engine: nothing, or what the synthesis of its target does. -/
theorem run_compile_cases (strategy : NameStrategy) (c : Configuration) (w : Workshop) :
    (((compile strategy c).run.run w).2.types = w.types ∧
        ((compile strategy c).run.run w).2.engine = w.engine) ∨
      ∃ sources w₁ t engine id d,
        (bindSources (c.strategy?.getD strategy) c.source c.members).run.run w =
          (.ok sources, w₁) ∧
        Synthesized w c sources t engine id d ∧
        ((compile strategy c).run.run w).2.types = t ∧
        ((compile strategy c).run.run w).2.engine = engine := by
  have hsources := neutral_bindSources (c.strategy?.getD strategy) c.source c.members w
  rw [compile_eq, run_bind]
  split
  · rename_i sources w₁ hrun
    rw [hrun] at hsources
    obtain ⟨htypes, hengine⟩ := hsources
    rw [run_bind]
    rcases bindTarget_cases c sources w₁ with hsame | ⟨t, engine, id, d, hd, htarget⟩
    · left
      split
      · rename_i id w₂ htarget
        rw [htarget] at hsame
        subst hsame
        obtain ⟨h₁, h₂⟩ := neutral_bindRest (c.strategy?.getD strategy) c sources id w₂
        exact ⟨h₁.trans htypes, h₂.trans hengine⟩
      · rename_i e w₂ htarget
        rw [htarget] at hsame
        subst hsame
        exact ⟨htypes, hengine⟩
    · right
      rw [htarget]
      refine ⟨sources, w₁, t, engine, id, d, hrun, ?_, ?_⟩
      · exact ⟨hd.target, hd.inferred, htypes ▸ hd.descriptor, htypes ▸ hengine ▸ hd.synthesize⟩
      · exact neutral_bindRest (c.strategy?.getD strategy) c sources id _
  · rename_i e w₁ hrun
    rw [hrun] at hsources
    exact .inl hsources

/-! ## Failures -/

/-- **A compilation that fails leaves the engine as it was, unless its inferred target was
synthesized.**  Then all sources were bound, the engine is what the one call for the inferred
descriptor leaves, other names keep their registration, and at most the definition of the target was
added. -/
theorem engine_of_failure {strategy : NameStrategy} {c : Configuration} {w w' : Workshop} {e : Error}
    (h : (compile strategy c).run.run w = (.error e, w')) :
    (w'.types = w.types ∧ w'.engine = w.engine) ∨
      ∃ sources w₁ id d,
        (bindSources (c.strategy?.getD strategy) c.source c.members).run.run w =
          (.ok sources, w₁) ∧
        Synthesized w c sources w'.types w'.engine id d ∧
        (∀ other, other ≠ d.name →
          w'.engine.registered? other = w.engine.registered? other) ∧
        (w'.engine = w.engine ∨
          w'.engine.definitions = w.engine.definitions ++ [w.types.size]) := by
  have hcases := run_compile_cases strategy c w
  rw [h] at hcases
  rcases hcases with hsame | ⟨sources, w₁, t, engine, id, d, hrun, hd, rfl, rfl⟩
  · exact .inl hsame
  · refine .inr ⟨sources, w₁, id, d, hrun, hd, ?_⟩
    obtain ⟨-, ⟨r, -, -, -, hengine, -⟩ | ⟨-, m, -, -, -, hengine⟩⟩ :=
      Engine.synthesize_eq_ok hd.synthesize
    · exact ⟨fun other _ => by rw [hengine], .inl hengine⟩
    · refine ⟨fun other hother => ?_, .inr ?_⟩
      · rw [hengine, Engine.registered?_register, if_neg hother]
      · rw [hengine]
        rfl

/-! ## A failure that registers -/

/-- A field that is a number. -/
def codeField : Field := ⟨"Code", .int32, .open, false, false, 0⟩

/-- A table with one type, which has the field. -/
def people : TypeTable :=
  .push .empty ⟨"Person", .declared, none, [], [], [codeField], [], [],
    [⟨[], .open, .assign []⟩], [.int32], []⟩

/-- The field by its name, with a value map whose key is a text. -/
def coded : Configuration :=
  ⟨0, .synthesized "Coded",
    [⟨.name "Code", .inferred, .auto, some ⟨[(.text "a", .int32 1)], .zero⟩, none⟩], [], none, none⟩

/-- A workshop in which nothing was synthesized. -/
def untouched : Workshop := ⟨people, .new .default, .empty, 0⟩

/-- The source of the number. -/
def codedSource : Expr := .fieldGet ⟨0, 0, codeField⟩ (some (.parameter 0 (.object 0)))

/-- The descriptor that is inferred for the number. -/
def codedDescriptor : Descriptor :=
  ⟨"Coded", none, [], [], [⟨"Code", .int32, false, .open, .open, .none, none⟩], []⟩

/-- What the descriptor is emitted as. -/
def codedModel : TypeModel where
  name := "Coded"
  origin := .synthesized
  base? := none
  interfaces := []
  attributes := []
  fields := []
  properties := [⟨"Code", .int32, .open, .open, false, some 0, some 0, some 1⟩]
  methods := [⟨"get_Code", [], some .int32, false, .open, .loadSlot 0⟩,
    ⟨"set_Code", [⟨"value", .int32, none⟩], none, false, .open, .storeSlot 0⟩]
  constructors := [⟨[], .open, .assign []⟩]
  slotTypes := [.int32]
  staticTypes := []

/-- The workshop once the target is registered. -/
def registered (supply : LocalId) : Workshop :=
  ⟨people.push codedModel, (Engine.new .default).register "Coded" ⟨codedDescriptor.signature, 1⟩,
    .empty, supply⟩

theorem run_bindTarget_coded :
    (bindTarget coded [codedSource]).run.run untouched = (.ok 1, registered 0) := by
  have hvalid : people.validate .default codedDescriptor = .ok () :=
    TypeTable.validate_of_checks rfl rfl
  have hs : untouched.engine.synthesize people codedDescriptor =
      .ok ((registered 0).types, (registered 0).engine, 1) :=
    Engine.synthesize_new (m := codedModel) hvalid rfl
  have hd : inferredDescriptor untouched.types "Coded" (coded.members.zip [codedSource]) =
      .ok codedDescriptor := rfl
  refine (run_synthesizeTarget (c := coded) rfl "Coded" [codedSource] untouched).trans ?_
  rw [hd]
  simp only
  rw [show untouched.types = people from rfl, hs]
  rfl

/-- The key is refused only after the target was registered. -/
theorem run_coded : ∃ e, (compile .exact coded).run.run untouched =
    (.error e, registered 1) := by
  have hsources : (bindSources .exact 0 coded.members).run.run untouched =
      (.ok [codedSource], untouched) := rfl
  have hrest : ∃ e, (bindRest .exact coded [codedSource] 1).run.run (registered 0) =
      (.error e, registered 1) := ⟨_, rfl⟩
  obtain ⟨e, hrest⟩ := hrest
  refine ⟨e, ?_⟩
  rw [compile_eq, run_bind_eq_error]
  refine .inr ⟨[codedSource], untouched, hsources, ?_⟩
  rw [run_bind_eq_error]
  exact .inr ⟨1, registered 0, run_bindTarget_coded, hrest⟩

/-- A failure that takes the synthesized target along. -/
theorem engine_of_failure_at_coded : ∃ e,
    (compile .exact coded).run.run untouched = (.error e, registered 1) ∧
    (((registered 1).types = untouched.types ∧ (registered 1).engine = untouched.engine) ∨
      ∃ sources w₁ id d,
        (bindSources (coded.strategy?.getD .exact) coded.source coded.members).run.run untouched =
          (.ok sources, w₁) ∧
        Synthesized untouched coded sources (registered 1).types (registered 1).engine id d ∧
        (∀ other, other ≠ d.name →
          (registered 1).engine.registered? other = untouched.engine.registered? other) ∧
        ((registered 1).engine = untouched.engine ∨
          (registered 1).engine.definitions = untouched.engine.definitions ++ [untouched.types.size])) := by
  obtain ⟨e, h⟩ := run_coded
  exact ⟨e, h, engine_of_failure h⟩

/-- **A compilation that fails need not leave the engine as it was.** -/
theorem exists_failure_registers : ¬∀ (strategy : NameStrategy) (c : Configuration)
    (w w' : Workshop) (e : Error), (compile strategy c).run.run w = (.error e, w') →
    w'.engine.registry = w.engine.registry ∧ w'.engine.definitions = w.engine.definitions := by
  intro hall
  obtain ⟨e, h⟩ := run_coded
  obtain ⟨hregistry, -⟩ := hall _ _ _ _ _ h
  exact absurd (congrArg List.length hregistry) (by decide)

end Compilation
end Reshape
