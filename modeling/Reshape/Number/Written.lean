import Reshape.Number.Shortest

/-!
# How floating-point numbers are written

Numbers are written with their shortest digits, always with a point or an exponent: positionally
from `0.0001` up to but excluding `10 ^ 16`, and with an exponent outside that range.
-/

namespace Reshape
namespace Number

/-- Decimal digits of a number. -/
def digitText (n : Nat) : String :=
  String.ofList (Nat.toDigits 10 n)

/-- The text of an integer. -/
def intText (n : Int) : String :=
  if n < 0 then "-" ++ digitText n.natAbs else digitText n.natAbs

/-- A decimal with an exponent: one digit, the others after a point, and the power of ten. -/
def Decimal.scientific (d : Decimal) : String :=
  let digits := Nat.toDigits 10 d.digits
  let power := intText (d.exponent + digits.length - 1)
  match digits with
  | [] => ""
  | [lead] => lead.toString ++ "e" ++ power
  | lead :: more => lead.toString ++ "." ++ String.ofList more ++ "e" ++ power

/-- A decimal without exponent, with at least one digit on each side of the point. -/
def Decimal.positional (d : Decimal) : String :=
  let digits := Nat.toDigits 10 d.digits
  if 0 ≤ d.exponent then
    String.ofList (digits ++ List.replicate d.exponent.toNat '0') ++ ".0"
  else
    let places := (-d.exponent).toNat
    let padded := List.replicate (places + 1 - digits.length) '0' ++ digits
    let whole := padded.length - places
    String.ofList (padded.take whole) ++ "." ++ String.ofList (padded.drop whole)

/-- A decimal as it is written: positional from `10 ^ -4` up to but excluding `10 ^ 16`. -/
def Decimal.written (d : Decimal) : String :=
  let magnitude : Int := d.exponent + (Nat.toDigits 10 d.digits).length - 1
  if magnitude < -4 ∨ 16 ≤ magnitude then d.scientific else d.positional

/-- A floating-point number of a format as it is written. -/
def Binary.written (f : Format) : Binary → String
  | .nan => "NaN"
  | .infinite negative => if negative then "-inf" else "inf"
  | .finite negative significand exponent =>
    (if negative then "-" else "") ++
      if significand = 0 then "0.0" else (shortest f significand exponent).written

/-- A 32-bit number as it is written. -/
def float32Text (x : Float32) : String :=
  (Binary.decode binary32 x.toBits.toNat).written binary32

/-- A 64-bit number as it is written. -/
def float64Text (x : Float) : String :=
  (Binary.decode binary64 x.toBits.toNat).written binary64

end Number
end Reshape
