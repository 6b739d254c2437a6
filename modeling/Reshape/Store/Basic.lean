import Reshape.Error.Basic

/-!
# The store

Objects and static slots.  An object is a list of slots and the type that it was made from; a static
slot that was never written holds the zero value of its type.  What runs over the store is an
`Action`: it may fail, and what it wrote before it failed stays written.
-/

namespace Reshape

/-- An object: its type and its slots, those of the base first. -/
structure Record where
  /-- The type that the object was made from. -/
  type : TypeId
  /-- Contents of the slots. -/
  slots : List Value
deriving DecidableEq, Inhabited

/-- The identity of a static slot. -/
structure StaticSlot where
  /-- The type that the slot belongs to. -/
  owner : TypeId
  /-- Its place there. -/
  slot : Nat
deriving DecidableEq, Repr, Inhabited

/-- All objects, and the static slots that were written. -/
structure Store where
  /-- The objects, by address. -/
  heap : Array Record
  /-- The written static slots. -/
  statics : List (StaticSlot × Value)
deriving DecidableEq, Inhabited

namespace Store

/-- Nothing made, nothing written. -/
def empty : Store := ⟨#[], []⟩

/-- The object at an address. -/
def record? (s : Store) (address : Nat) : Option Record :=
  s.heap[address]?

/-- The slots of an object. -/
def slots (s : Store) (ref : ObjectRef) : List Value :=
  match s.record? ref.address with
  | some r => r.slots
  | none => []

/-- Add an object. -/
def push (s : Store) (r : Record) : Store :=
  { s with heap := s.heap.push r }

/-- Replace one slot of an object. -/
def setSlot (s : Store) (address slot : Nat) (v : Value) : Store :=
  { s with heap := s.heap.modify address fun r => { r with slots := r.slots.set slot v } }

/-- The value written to a static slot. -/
def static? (s : Store) (key : StaticSlot) : Option Value :=
  (s.statics.find? (·.1 == key)).map (·.2)

/-- Write a static slot. -/
def setStatic (s : Store) (key : StaticSlot) (v : Value) : Store :=
  { s with statics := (key, v) :: s.statics.filter (·.1 != key) }

end Store

/-- Something that runs over the store and may fail. -/
abbrev Action := ExceptT Error (StateM Store)

namespace Action

/-- Run an action: what it yields, and the store afterwards, whether it fails or not. -/
def perform {α : Type} (a : Action α) (s : Store) : Except Error α × Store :=
  a.run.run s

/-- The outcome of a conversion, as an action. -/
def ofCast {α : Type} : Except CastError α → Action α
  | .ok v => pure v
  | .error e => throw (.cast e)

end Action

/-- Type definitions together with the objects made from them: all that a rendering looks at. -/
structure World where
  /-- Type definitions. -/
  types : TypeTable
  /-- Objects and static slots. -/
  store : Store
deriving Inhabited

end Reshape
