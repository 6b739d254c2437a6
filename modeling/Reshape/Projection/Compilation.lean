import Reshape.Projection.Binding
import Reshape.Projection.Compiled
import Reshape.Projection.Fitting
import Reshape.Schema.Engine

/-!
# Compiling projections

Compilation binds a configuration: the sources of its members, the target type (which is synthesized
from the sources if none is declared), the constructor with one argument for each parameter, and an
assignment for each member that the constructor does not take.  It works on the type definitions, a
synthesis engine and an accessor cache; what it changed there before it failed stays changed.
-/

namespace Reshape

/-- What compilation works on. -/
structure Workshop where
  /-- Type definitions. -/
  types : TypeTable
  /-- The engine that synthesizes targets. -/
  engine : Engine
  /-- The accessor cache, for write primitives. -/
  cache : AccessorCache
  /-- The next number of a local binding. -/
  supply : LocalId
deriving Inhabited

/-- Compilation: it may fail, and it works on a workshop. -/
abbrev Compilation := ExceptT Error (StateM Workshop)

namespace Compilation

/-- The outcome of a check, as a step of compilation. -/
def ofExcept {α : Type} : Except Error α → Compilation α
  | .ok a => pure a
  | .error e => throw e

/-- A step that builds expressions. -/
def ofBuild {α : Type} (a : Build α) : Compilation α := do
  let w ← get
  let (result, supply) := a.run.run w.supply
  set { w with supply := supply }
  ofExcept result

/-- A step of accessor synthesis. -/
def ofSynthesis {α : Type} (a : Synthesis α) : Compilation α := do
  let w ← get
  let (result, cache) := a.run.run w.cache
  set { w with cache := cache }
  ofExcept result

/-- The type definitions as they are now. -/
def types : Compilation TypeTable := do
  pure (← get).types

/-! ## Sources -/

/-- The sources of the members, in order. -/
def bindSources (strategy : NameStrategy) (source : TypeId) :
    List MemberTarget → Compilation (List Expr)
  | [] => pure []
  | m :: rest => do
    let t ← types
    let e ← ofBuild <| Binding.within (.member m.name) <|
      Binding.sourceExpr t source strategy (.member m.name) m.source
    pure (e :: (← bindSources strategy source rest))

/-! ## Targets -/

/-- Whether a configuration names constructors or their parameters. -/
def isExplicit (c : Configuration) : Bool :=
  c.constructor?.isSome || !c.parameters.isEmpty ||
    c.members.any fun m => m.parameter?.isSome || m.placement == .parameter

/-- The property of a synthesized target for a member with its source. -/
def inferredProperty (t : TypeTable) (target : String) (m : MemberTarget) (source : Expr) :
    Except Error PropertyDescriptor :=
  match m.member with
  | .declared r => .error (.declaredMember r.owner r.name target)
  | .name name =>
    let type := (m.map?.bind (·.mappedType? t)).getD source.type
    .ok ⟨name, type.underlying, type.isNullable, .open, .open, .none, none⟩

/-- The descriptor of a synthesized target: a property for each member, typed by its source. -/
def inferredDescriptor (t : TypeTable) (target : String) (members : List (MemberTarget × Expr)) :
    Except Error Descriptor := do
  let properties ← members.mapM fun (m, source) => inferredProperty t target m source
  pure ⟨target, none, [], [], properties, []⟩

/-- Synthesize the target of a configuration. -/
def synthesizeTarget (target : String) (c : Configuration) (sources : List Expr) :
    Compilation TypeId := do
  if isExplicit c then throw (.explicitBindings target)
  let w ← get
  let d ← ofExcept (inferredDescriptor w.types target (c.members.zip sources))
  let (t, engine, id) ← ofExcept (w.engine.synthesize w.types d)
  set { w with types := t, engine := engine }
  pure id

/-- The target type of a configuration. -/
def bindTarget (c : Configuration) (sources : List Expr) : Compilation TypeId :=
  match c.target with
  | .declared type => pure type
  | .synthesized name => synthesizeTarget name c sources

/-! ## Constructor arguments -/

/-- The default of a parameter as a literal. -/
def defaultLiteral (t : TypeTable) (p : Parameter) : Except Error (Option Expr) :=
  match p.default? with
  | none => .ok none
  | some v => (Expr.typedLiteral t v p.type).map some

/-- What feeds a parameter: a configured member with its source, or a configured parameter. -/
inductive Fed where
  /-- A configured member. -/
  | member (m : MemberTarget) (source : Expr)
  /-- A configured parameter. -/
  | parameter (p : ParameterTarget)
deriving Inhabited

/-- What a feed refers to. -/
def fed? (c : Configuration) (sources : List Expr) : Option Feed → Option Fed
  | some (.member place) => (c.members.zip sources)[place]?.map fun (m, source) => .member m source
  | some (.parameter place) => c.parameters[place]?.map .parameter
  | none => none

/-- The argument for a parameter. -/
def bindArgument (strategy : NameStrategy) (source : TypeId) (p : Parameter) (fed : Option Fed) :
    Compilation ConstructorArgument := do
  let t ← types
  let fallback ← ofExcept (defaultLiteral t p)
  match fed with
  | some (.member m e) =>
    let value ← ofBuild (Binding.within (.member m.name) (Binding.finish t e m.map? p.type))
    pure ⟨p.name, .member m.name, value, fallback⟩
  | some (.parameter target) =>
    let raw ← ofBuild (Binding.sourceExpr t source strategy (.parameter p.name) target.source)
    let value ← ofBuild <| Binding.within (.parameter p.name) <|
      Binding.finish t raw target.map? p.type
    pure ⟨p.name, .parameter, value, fallback⟩
  | none =>
    match fallback with
    | some e => pure ⟨p.name, .default, e, some e⟩
    | none =>
      let e ← ofExcept (Expr.typedLiteral t .null p.type)
      pure ⟨p.name, .default, e, none⟩

/-- The arguments for all parameters, in order. -/
def bindArguments (strategy : NameStrategy) (source : TypeId) :
    List (Parameter × Option Fed) → Compilation (List ConstructorArgument)
  | [] => pure []
  | (p, fed) :: rest => do
    let arg ← bindArgument strategy source p fed
    pure (arg :: (← bindArguments strategy source rest))

/-! ## Assignments -/

/-- The member of the target that a configured member stands for. -/
def targetMember (t : TypeTable) (target : TypeId) (member : ProjectedMember) :
    Except Error MemberRef := do
  let m ← match member with
    | .declared m =>
      if t.isSubtype target m.owner then pure m
      else throw (.foreignTargetMember m.owner m.name target)
    | .name name =>
      match t.findMember? target name with
      | some m => pure m
      | none => throw (.noTargetMember target name)
  if m.isStatic then throw (.staticTargetMember m.owner m.name)
  pure m

/-- The assignment of a configured member. -/
def bindAssignment (target : TypeId) (m : MemberTarget) (source : Expr) :
    Compilation MemberAssignment := do
  let t ← types
  let member ← ofExcept (targetMember t target m.member)
  let value ← ofBuild <| Binding.within (.member m.name) <|
    Binding.finish t source m.map? member.type
  let assigned ← ofSynthesis (Accessor.assignTarget member)
  pure ⟨m.name, member, assigned, value⟩

/-- The assignments of several configured members, in order. -/
def bindAssignments (target : TypeId) :
    List (MemberTarget × Expr) → Compilation (List MemberAssignment)
  | [] => pure []
  | (m, source) :: rest => do
    let assignment ← bindAssignment target m source
    pure (assignment :: (← bindAssignments target rest))

/-- The configured members that no parameter takes, with their sources. -/
def leftOver (c : Configuration) (sources : List Expr) (feeds : Feeds) :
    List (MemberTarget × Expr) :=
  (((c.members.zip sources).zipIdx).filter fun (_, place) => !feeds.uses place).map (·.1)

/-! ## The whole -/

/-- Compile a configuration; names are compared by its own strategy if it has one. -/
def compile (strategy : NameStrategy) (c : Configuration) : Compilation CompiledProjection := do
  let strategy := c.strategy?.getD strategy
  let sources ← bindSources strategy c.source c.members
  let target ← bindTarget c sources
  let t ← types
  let (r, feeds) ← ofExcept (Fitting.resolve t target c strategy)
  let args ← bindArguments strategy c.source
    (r.constructor.parameters.zip (feeds.map (fed? c sources)))
  let assignments ← bindAssignments target (leftOver c sources feeds)
  ofExcept (CompiledProjection.make t c.source r args assignments)

end Compilation

/-! ## Compiling once -/

/-- A configuration with what its first compilation gave. -/
structure MemoizedConfiguration where
  /-- The configuration. -/
  configuration : Configuration
  /-- The outcome of its compilation, once it was compiled. -/
  outcome? : Option (Except Report CompiledProjection)
deriving Inhabited

namespace MemoizedConfiguration

/-- Whether the configuration was compiled. -/
def isCompiled (c : MemoizedConfiguration) : Bool :=
  c.outcome?.isSome

/-- Compile a configuration unless it was compiled before; the first outcome holds for good, failures
included. -/
def compiled (c : MemoizedConfiguration) (strategy : NameStrategy) (store : Store) :
    StateM Workshop (MemoizedConfiguration × Except Report CompiledProjection) := do
  match c.outcome? with
  | some outcome => pure (c, outcome)
  | none =>
    let result ← (Compilation.compile strategy c.configuration).run
    let world : World := ⟨(← get).types, store⟩
    let outcome := result.mapError world.report
    pure ({ c with outcome? := some outcome }, outcome)

end MemoizedConfiguration
end Reshape
