import Reshape.Accessor.Request
import Reshape.Expr.Lambda

/-!
# The accessor cache

Accessors are made once for each key and then shared; a shared accessor is known by its place in the
cache, which never changes.  The cache also remembers for which write-once fields a write primitive
exists, and counts how often it could answer.
-/

namespace Reshape

/-- An accessor: its identity, and the lambda that performs it. -/
structure Accessor where
  /-- Identity. -/
  key : AccessorKey
  /-- What is run. -/
  lambda : Lambda
deriving Inhabited

/-- The accessors and write primitives made so far, with counters. -/
structure AccessorCache where
  /-- The accessors, by place. -/
  entries : Array Accessor
  /-- The write-once fields that have a write primitive. -/
  primitives : List MemberId
  /-- Requests answered from the cache. -/
  hits : Nat
  /-- Requests for which an accessor was made. -/
  misses : Nat
deriving Inhabited

/-- Accessor synthesis: it may fail, and it works on a cache. -/
abbrev Synthesis := ExceptT Error (StateM AccessorCache)

namespace AccessorCache

/-- A cache without accessors. -/
def empty : AccessorCache := ⟨#[], [], 0, 0⟩

/-- The place of the accessor with a key. -/
def find? (c : AccessorCache) (key : AccessorKey) : Option Nat :=
  c.entries.findIdx? (·.key == key)

/-- Remember the write primitive of a field. -/
def addPrimitive (c : AccessorCache) (field : MemberId) : AccessorCache :=
  if c.primitives.contains field then c else { c with primitives := field :: c.primitives }

/-- The place of the accessor with a key, which is made if there is none.  If that fails the cache
stays as it is. -/
def getOrBuild (key : AccessorKey) (lambda : Except Error Lambda) : Synthesis Nat := do
  let c ← get
  match c.find? key with
  | some place =>
    set { c with hits := c.hits + 1 }
    pure place
  | none =>
    match lambda with
    | .error e => throw e
    | .ok l =>
      set { c with entries := c.entries.push ⟨key, l⟩, misses := c.misses + 1 }
      pure c.entries.size

end AccessorCache
end Reshape
