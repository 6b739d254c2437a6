import Reshape.Number.Power

/-!
# Binary floating point, exactly

A floating-point number of either width is, apart from its sign, a natural number times a power of
two.  `decode` reads that pair off the bits and `encode?` finds the bits again if the number is one
of the format.  The conversions between widths, and from integers, go through the pair, so that a
conversion succeeds exactly when nothing is lost.
-/

namespace Reshape
namespace Number

/-- A binary interchange format. -/
structure Format where
  /-- Bits of the stored fraction. -/
  fraction : Nat
  /-- Bits of the exponent field. -/
  exponent : Nat

/-- The 32-bit format. -/
def binary32 : Format := ⟨23, 8⟩

/-- The 64-bit format. -/
def binary64 : Format := ⟨52, 11⟩

namespace Format

/-- The exponent of the last place of the smallest numbers. -/
def least (f : Format) : Int :=
  2 - twoTo (f.exponent - 1) - f.fraction

/-- The exponent field of infinities and NaNs. -/
def top (f : Format) : Nat :=
  twoTo f.exponent - 1

end Format

/-- What the bits of a floating-point number say. -/
inductive Binary where
  /-- Not a number. -/
  | nan
  /-- An infinity. -/
  | infinite (negative : Bool)
  /-- The number `significand * 2 ^ exponent`, with a sign that zero has too. -/
  | finite (negative : Bool) (significand : Nat) (exponent : Int)
deriving DecidableEq, Repr

namespace Binary

/-- Read the bits of a format. -/
def decode (f : Format) (bits : Nat) : Binary :=
  let fraction := bits % twoTo f.fraction
  let field := bits / twoTo f.fraction % twoTo f.exponent
  let negative := bits / twoTo (f.fraction + f.exponent) % 2 == 1
  if field = f.top then
    if fraction = 0 then .infinite negative else .nan
  else if field = 0 then .finite negative fraction f.least
  else .finite negative (twoTo f.fraction + fraction) (f.least + field - 1)

/-- The sign bit of a format. -/
def signBit (f : Format) (negative : Bool) : Nat :=
  if negative then twoTo (f.fraction + f.exponent) else 0

/-- The bits of a number, if the format has it. -/
def encode? (f : Format) : Binary → Option Nat
  | .nan => some (f.top * twoTo f.fraction + twoTo (f.fraction - 1))
  | .infinite negative => some (signBit f negative + f.top * twoTo f.fraction)
  | .finite negative significand exponent =>
    if significand = 0 then some (signBit f negative)
    else
      let place := max f.least (exponent + significand.log2 - f.fraction)
      let scaled := significand * twoTo (exponent - place).toNat
      let drop := twoTo (place - exponent).toNat
      let whole := scaled / drop
      let field := if whole < twoTo f.fraction then 0 else (place - f.least + 1).toNat
      if scaled % drop = 0 ∧ field < f.top then
        some (signBit f negative + field * twoTo f.fraction + whole % twoTo f.fraction)
      else none

end Binary

/-! ## Conversions that lose nothing -/

/-- A 32-bit number in 64 bits. -/
def widen (x : Float32) : Float :=
  Float.ofBits (((Binary.encode? binary64 (Binary.decode binary32 x.toBits.toNat)).getD 0).toUInt64)

/-- A 64-bit number in 32 bits, if they can hold it. -/
def narrow? (x : Float) : Option Float32 :=
  (Binary.encode? binary32 (Binary.decode binary64 x.toBits.toNat)).map
    fun bits => Float32.ofBits bits.toUInt32

/-- An integer as a 32-bit number, if it is one. -/
def float32OfInt? (n : Int) : Option Float32 :=
  (Binary.encode? binary32 (.finite (n < 0) n.natAbs 0)).map fun bits => Float32.ofBits bits.toUInt32

/-- An integer as a 64-bit number, if it is one. -/
def float64OfInt? (n : Int) : Option Float :=
  (Binary.encode? binary64 (.finite (n < 0) n.natAbs 0)).map fun bits => Float.ofBits bits.toUInt64

end Number
end Reshape
