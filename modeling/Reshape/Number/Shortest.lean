import Reshape.Number.Binary

/-!
# Shortest decimals

Among the decimals that round back to a floating-point number the shortest is the one on the
coarsest decimal grid; of two on that grid the nearer is taken, and the upper one if both are
equally near.  Everything is done in exact natural-number arithmetic on `significand * 2 ^ exponent`.
-/

namespace Reshape
namespace Number

/-- The positive decimal `digits * 10 ^ exponent`. -/
structure Decimal where
  /-- The digits, as one number. -/
  digits : Nat
  /-- The power of ten of the last digit. -/
  exponent : Int
deriving DecidableEq, Repr

/-- The numbers that round to a given one, in quarters of `2 ^ exponent`. -/
structure Interval where
  /-- Lower end. -/
  low : Nat
  /-- The number itself. -/
  centre : Nat
  /-- Upper end. -/
  high : Nat
  /-- Whether the ends belong to the interval. -/
  closed : Bool
  /-- Power of two of a whole unit; the ends count quarters of it. -/
  exponent : Int
deriving Repr

/-- The interval around `significand * 2 ^ exponent`.  Below a power of two the neighbours lie twice
as close, and of two equally near numbers rounding takes the even one. -/
def Interval.around (f : Format) (significand : Nat) (exponent : Int) : Interval where
  low := if significand = twoTo f.fraction ∧ f.least < exponent then 4 * significand - 1
    else 4 * significand - 2
  centre := 4 * significand
  high := 4 * significand + 2
  closed := significand % 2 == 0
  exponent := exponent

/-- The best point of the grid of multiples of `10 ^ place` inside an interval. -/
def Interval.onGrid? (i : Interval) (place : Int) : Option Nat :=
  let unit := twoTo i.exponent.toNat * tenTo (-place).toNat
  let cell := 4 * twoTo (-i.exponent).toNat * tenTo place.toNat
  let inside (n : Nat) : Bool :=
    if i.closed then i.low * unit ≤ n * cell && n * cell ≤ i.high * unit
    else i.low * unit < n * cell && n * cell < i.high * unit
  let below := i.centre * unit / cell
  let above := below + 1
  if inside below then
    if inside above && above * cell - i.centre * unit ≤ i.centre * unit - below * cell then
      some above
    else some below
  else if inside above then some above
  else none

/-- Search the grids from the coarsest down. -/
def Interval.search (i : Interval) : Nat → Int → Option Decimal
  | 0, _ => none
  | fuel + 1, place =>
    match i.onGrid? place with
    | some digits => some ⟨digits, place⟩
    | none => i.search fuel (place - 1)

/-- The shortest decimal that rounds to a positive number of a format. -/
def shortest (f : Format) (significand : Nat) (exponent : Int) : Decimal :=
  let bits : Int := exponent + significand.log2 + 1
  let top := Int.fdiv (bits * 30103) 100000 + 2
  ((Interval.around f significand exponent).search 24 top).getD ⟨significand, exponent⟩

end Number
end Reshape
