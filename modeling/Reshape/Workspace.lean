import Reshape.Projection.Compilation
import Reshape.Projection.Query
import Reshape.Store.Access

/-!
# Workspaces

A workspace holds all that changes while a program uses the library: type definitions, objects,
accessor caches, synthesis engines, and the numbers of local bindings.  The parts of the library work
on one of these each; a `Work` works on the whole.  Errors are reported when they arise, over the
objects as they are then.
-/

namespace Reshape

/-! ## Supplied bodies -/

/-- The method and constructor bodies that a program supplies.  Each is handed the machine that it
may use in turn. -/
structure Supplied where
  /-- The method bodies. -/
  method : NativeId → Machine → Option ObjectRef → List Value → Action Value
  /-- The constructor bodies. -/
  constructor : NativeId → Machine → ObjectRef → List Value → Action Unit

namespace Supplied

/-- A body that would run below the deepest level. -/
def tooDeep {α : Type} : Action α :=
  throw (.native .internal .model "supplied bodies use one another too deeply")

/-- The machine whose bodies use one another down to a level. -/
def machine (b : Supplied) (t : TypeTable) : Nat → Machine
  | 0 => ⟨t, fun _ _ _ => tooDeep, fun _ _ _ => tooDeep⟩
  | depth + 1 =>
    ⟨t, fun id receiver args => b.method id (machine b t depth) receiver args,
      fun id ref args => b.constructor id (machine b t depth) ref args⟩

/-- How deep supplied bodies may use one another. -/
def deepest : Nat := 1000

end Supplied

/-! ## Workspaces -/

/-- All that changes while the library is used. -/
structure Workspace where
  /-- Type definitions. -/
  types : TypeTable
  /-- Objects and static slots. -/
  store : Store
  /-- The next number of a local binding. -/
  supply : LocalId
  /-- Accessor caches, by number. -/
  caches : Array AccessorCache
  /-- Synthesis engines, by number. -/
  engines : Array Engine
deriving Inhabited

/-- What a projection compiler works with. -/
structure Compiler where
  /-- Number of the engine that synthesizes targets. -/
  engine : Nat
  /-- Number of the cache that keeps write primitives. -/
  cache : Nat
  /-- How names are compared. -/
  strategy : NameStrategy
deriving Inhabited

namespace Workspace

/-- No types and no objects; the first cache and the first engine are there. -/
def new : Workspace :=
  ⟨.empty, .empty, 0, #[.empty], #[.new .default]⟩

/-- The cache of a number. -/
def cache (w : Workspace) (number : Nat) : AccessorCache :=
  w.caches[number]?.getD .empty

/-- The engine of a number. -/
def engine (w : Workspace) (number : Nat) : Engine :=
  w.engines[number]?.getD (.new .default)

/-- Types and objects as they are now. -/
def world (w : Workspace) : World :=
  ⟨w.types, w.store⟩

end Workspace

/-- Something that works on a workspace and may fail.  What it changed before it failed stays
changed. -/
abbrev Work := ExceptT Report (StateM Workspace)

namespace Work

/-- Types and objects as they are now. -/
def world : Work World := do
  pure (← get).world

/-- Types as they are now. -/
def types : Work TypeTable := do
  pure (← get).types

/-- The outcome of a check; an error is reported. -/
def ofExcept {α : Type} : Except Error α → Work α
  | .ok a => pure a
  | .error e => do throw ((← world).report e)

/-- Run over the store, with supplied bodies. -/
def ofAction {α : Type} (b : Supplied) (a : Machine → Action α) : Work α := do
  let w ← get
  let (result, store) := (a (b.machine w.types Supplied.deepest)).perform w.store
  set { w with store := store }
  ofExcept result

/-- Build an expression. -/
def ofBuild {α : Type} (a : TypeTable → Build α) : Work α := do
  let w ← get
  let (result, supply) := (a w.types).run.run w.supply
  set { w with supply := supply }
  ofExcept result

/-- Work on an accessor cache. -/
def ofSynthesis {α : Type} (cache : Nat) (a : TypeTable → Synthesis α) : Work α := do
  let w ← get
  let (result, c) := (a w.types).run.run (w.cache cache)
  set { w with caches := w.caches.setIfInBounds cache c }
  ofExcept result

/-- Add an accessor cache; its number. -/
def addCache : Work Nat := do
  let w ← get
  set { w with caches := w.caches.push .empty }
  pure w.caches.size

/-- Add a synthesis engine; its number. -/
def addEngine (options : SynthesisOptions) : Work Nat := do
  let w ← get
  set { w with engines := w.engines.push (.new options) }
  pure w.engines.size

/-- Declare a type. -/
def declare (d : Declaration) : Work TypeId := do
  let (t, id) ← ofExcept ((← types).declare d)
  modify ({ · with types := t })
  pure id

/-- Synthesize the type of a descriptor. -/
def synthesize (engine : Nat) (d : Descriptor) : Work TypeId := do
  let w ← get
  let (t, e, id) ← ofExcept ((w.engine engine).synthesize w.types d)
  set { w with types := t, engines := w.engines.setIfInBounds engine e }
  pure id

/-- Compile a configuration, unless it was compiled before. -/
def compile (c : Compiler) (m : MemoizedConfiguration) :
    StateM Workspace (MemoizedConfiguration × Except Report CompiledProjection) := do
  let w ← get
  let shop : Workshop := ⟨w.types, w.engine c.engine, w.cache c.cache, w.supply⟩
  let (result, shop) := (m.compiled c.strategy w.store).run shop
  set { w with
    types := shop.types
    supply := shop.supply
    engines := w.engines.setIfInBounds c.engine shop.engine
    caches := w.caches.setIfInBounds c.cache shop.cache }
  pure result

/-- Project one row after the other; each result comes with the objects as they are then. -/
def rows (b : Supplied) (p : Projection) (rows : List Value) :
    Work (List (Except Report Value × World)) := do
  let w ← get
  let results := Query.rows (b.machine w.types Supplied.deepest) p rows w.store
  set { w with store := (results.getLast?.map Prod.snd).getD w.store }
  pure <| results.map fun (result, store) =>
    let world : World := ⟨w.types, store⟩
    (result.mapError world.report, world)

end Work
end Reshape
