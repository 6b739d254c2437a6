/-!
# Sets of code points

A set of code points is kept as an inversion list: the code points at which membership changes, in
increasing order.  A code point belongs to the set iff an odd number of changes lie at or below it.
-/

namespace Reshape
namespace Text

/-- A set of code points as an inversion list. -/
structure CodePointSet where
  /-- The code points at which membership changes, in increasing order. -/
  flips : Array Nat

namespace CodePointSet

/-- A character is in the set iff an odd number of changes lie at or below it. -/
def contains (s : CodePointSet) (c : Char) : Bool :=
  (s.flips.foldl (fun n flip => if flip ≤ c.toNat then n + 1 else n) 0) % 2 == 1

end CodePointSet
end Text
end Reshape
