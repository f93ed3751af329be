import Switchboard.Decimal.Binary64

/-!
The shortest decimal that reads back to a binary number.

`Vicinity.ofNumber` gives the interval of reals that round to a finite number, in
units of a power of two. `Vicinity.onGrid` looks for a decimal with a given
count of digits inside that interval: of the two grid points around the value
the one that lies inside, or the nearer of both. The first count of digits that
has one gives the shortest decimal; seventeen digits always suffice.
-/

namespace Switchboard

/-- A positive decimal `0.d₁d₂… × 10^point`, with `d₁` and the last digit not zero. -/
structure Decimal where
  digits : List Char
  point : Int
deriving DecidableEq, Repr

/-- `coefficient × 10^exponent`. -/
def Decimal.ofScaled (coefficient : Nat) (exponent : Int) : Decimal :=
  let digits := Nat.toDigits 10 coefficient
  { digits := (digits.reverse.dropWhile (· = '0')).reverse
    point := exponent + digits.length }

/-! ### The reals that round to a number -/

/-- A value with the ends of the interval that rounds to it, all three in units of
`2^exponent`; the ends belong to the interval when it is closed. -/
structure Vicinity where
  lower : Nat
  value : Nat
  upper : Nat
  exponent : Int
  closed : Bool
deriving DecidableEq, Repr

/-- The vicinity of a finite number's magnitude. Half of the way to each neighbour belongs to
it; below a power of two the neighbour is twice as near. Even significands take the ends. -/
def Vicinity.ofNumber (x : Binary64) : Vicinity :=
  let biased := x.magnitude / Nat.pow 2 52
  let fraction := x.magnitude % Nat.pow 2 52
  let significand := if biased = 0 then fraction else Nat.pow 2 52 + fraction
  { lower := 4 * significand - (if fraction = 0 ∧ 1 < biased then 1 else 2)
    value := 4 * significand
    upper := 4 * significand + 2
    exponent := (max biased 1 : Nat) - 1077
    closed := significand % 2 = 0 }

namespace Vicinity

/-- The numerator that a count of units contributes; `denominator` is common to all counts. -/
def numerator (v : Vicinity) (units : Nat) : Nat :=
  units * Nat.pow 2 v.exponent.toNat

def denominator (v : Vicinity) : Nat :=
  Nat.pow 2 (-v.exponent).toNat

/-- The position `p` with `10^(p-1) ≤ value < 10^p`. -/
def point (v : Vicinity) : Int :=
  let numerator := v.numerator v.value
  if v.denominator ≤ numerator then
    (Nat.toDigits 10 (numerator / v.denominator)).length
  else
    1 - ((Nat.toDigits 10 ((v.denominator - 1) / numerator)).length : Int)

/-! ### Search by count of digits -/

/-- The multiple of `10^step` that stands for the value, if the vicinity holds one. An exact tie
between the two candidates goes up. -/
def onGrid (v : Vicinity) (step : Int) : Option Nat :=
  let cell := Nat.pow 10 step.toNat * v.denominator
  let scaled := fun units => v.numerator units * Nat.pow 10 (-step).toNat
  let inside := fun multiple : Nat =>
    if v.closed then
      scaled v.lower ≤ multiple * cell && multiple * cell ≤ scaled v.upper
    else
      scaled v.lower < multiple * cell && multiple * cell < scaled v.upper
  let below := scaled v.value / cell
  let rest := scaled v.value % cell
  if inside below && (!inside (below + 1) || 2 * rest < cell) then some below
  else if inside (below + 1) then some (below + 1)
  else none

/-- The decimal with the given count of digits that stands for the value. -/
def withDigits (v : Vicinity) (count : Nat) : Option Decimal :=
  let step := v.point - count
  (v.onGrid step).map fun multiple => .ofScaled multiple step

/-- The decimal of the fewest digits that stands for the value. -/
def shortest (v : Vicinity) : Decimal :=
  ((List.range' 1 17).findSome? v.withDigits).getD (.ofScaled 0 0)

end Vicinity

/-- The shortest decimal that reads back to the magnitude of a finite number other than zero. -/
def Binary64.shortest (x : Binary64) : Decimal :=
  (Vicinity.ofNumber x).shortest

end Switchboard
