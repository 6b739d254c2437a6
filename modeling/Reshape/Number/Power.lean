/-!
# Powers of two and ten

The scales of binary and of decimal numbers, as natural numbers.
-/

namespace Reshape
namespace Number

/-- A power of two. -/
def twoTo (n : Nat) : Nat := Nat.pow 2 n

/-- A power of ten. -/
def tenTo (n : Nat) : Nat := Nat.pow 10 n

end Number
end Reshape
