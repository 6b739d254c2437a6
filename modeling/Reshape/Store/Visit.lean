/-!
# Walks over objects

Objects may contain themselves, so a walk over them keeps a stack of the visits that it is inside of and
stops where it meets one of them again.  All walks of a thread share one stack: a comparison, a
rendering and a serialization each recognise their own visits only.  A visit is left when what it
was entered for has an outcome, be it a failure.
-/

namespace Reshape

/-- An object, or a pair of objects, that is being walked, by address. -/
inductive Visit where
  /-- Two objects are being compared. -/
  | compare (left right : Nat)
  /-- An object is being written in a message. -/
  | print (address : Nat)
  /-- An object is being written as a document. -/
  | serialize (address : Nat)
deriving DecidableEq, Repr, Inhabited

/-- A walk runs on the stack of active visits, the last one first.  It has no outcome if it goes deeper
than it may. -/
abbrev Walk := StateT (List Visit) Option

namespace Walk

variable {α : Type}

/-- The walk is deeper than it may be. -/
def tooDeep : Walk α :=
  fun _ => none

/-- Walk inside a visit, and leave the visit afterwards.  A visit that is already active is not entered
again and has an outcome of its own. -/
def guarded (visit : Visit) (onActive : α) (walk : Walk α) : Walk α := do
  if (← get).contains visit then
    return onActive
  modify (visit :: ·)
  let outcome ← walk
  modify (·.erase visit)
  return outcome

/-- The outcome of a walk when no visit is active. -/
def outcome? (walk : Walk α) : Option α :=
  (walk.run []).map (·.1)

end Walk
end Reshape
