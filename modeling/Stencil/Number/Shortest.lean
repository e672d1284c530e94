/-
Module: Stencil.Number.Shortest
Purpose: The fewest decimal digits that identify a double-precision number.
Main exports: Decimal, Double.ofDecimal, Double.shortest
-/
import Stencil.Number.Double

namespace Stencil

/-- A decimal magnitude: an integer times ten to a power. -/
structure Decimal where
  coefficient : Nat
  exponent : Int
deriving DecidableEq, Repr, Inhabited

namespace Double

/-- Ten to an integer power as a ratio. -/
def powerOfTen (exponent : Int) : Nat × Nat :=
  if 0 ≤ exponent then (Nat.pow 10 exponent.toNat, 1) else (1, Nat.pow 10 (-exponent).toNat)

/-- How many decimal digits a positive integer has; none for zero. -/
def digitCount (value : Nat) : Nat :=
  if value = 0 then 0 else (Nat.toDigits 10 value).length

/-- The number nearest to a decimal.  Decimals far beyond the finite range, on either side, are
decided by their count of digits alone. -/
def ofDecimal (negative : Bool) (decimal : Decimal) : Double :=
  let order : Int := digitCount decimal.coefficient + decimal.exponent
  if decimal.coefficient = 0 || order < -400 then ofMagnitude negative 0
  else if 400 < order then signedInfinity negative
  else
    let (up, down) := powerOfTen decimal.exponent
    ofRatio negative (decimal.coefficient * up) down

/-- The exponent of ten that puts the first digit of a positive ratio before the point. -/
def decimalOrder (numerator denominator : Nat) : Int :=
  let guess : Int := Int.ofNat (digitCount numerator) - Int.ofNat (digitCount denominator)
  let (up, down) := powerOfTen guess
  if denominator * up ≤ numerator * down then guess else guess - 1

/-- The nearest decimal to a positive ratio on the grid with the given exponent that reads back as
the given number: the neighbour below or above, the nearer one if both do, and of two equally near
ones the even one. -/
def gridHit (target : Double) (numerator denominator : Nat) (exponent : Int) : Option Decimal :=
  let (up, down) := powerOfTen exponent
  let scaled := numerator * down
  let step := denominator * up
  let below := scaled / step
  let twice := 2 * (scaled % step)
  let hits (coefficient : Nat) : Bool := ofDecimal false ⟨coefficient, exponent⟩ == target
  let low := if below ≠ 0 && hits below then some (Decimal.mk below exponent) else none
  let high := if hits (below + 1) then some (Decimal.mk (below + 1) exponent) else none
  match low, high with
  | some lower, some upper =>
      if step < twice || (twice == step && below % 2 == 1) then some upper else some lower
  | some lower, none => some lower
  | none, found => found

/-- Search grids of growing fineness. -/
def firstHit (target : Double) (numerator denominator : Nat) (order : Int) :
    Nat → Nat → Option Decimal
  | 0, _ => none
  | grids + 1, digits =>
      match gridHit target numerator denominator (order - digits) with
      | some decimal => some decimal
      | none => firstHit target numerator denominator order grids (digits + 1)

/-- The exact value of a finite number as a decimal. -/
def exactDecimal (x : Double) : Decimal :=
  ⟨x.units * Nat.pow 5 1074, -1074⟩

/-- The decimal with the fewest digits that reads back as the magnitude of a finite number, nearest
to it among those.  Seventeen digits always suffice; the exact value stands in for completeness. -/
def shortest (x : Double) : Decimal :=
  if x.isZero then ⟨0, 0⟩
  else
    let target := ofMagnitude false x.magnitudeCode
    let numerator := x.units
    (firstHit target numerator unitsOfOne (decimalOrder numerator unitsOfOne) 17 0).getD
      x.exactDecimal

end Double

end Stencil
