/-
Module: Stencil.Number.Double
Purpose: Double-precision numbers as bit patterns, their parts, and exact rounding into them.
Main exports: Double, Double.ofRatio, Double.add, Double.multiply, Double.divide, Double.modulo
-/
namespace Stencil

/-- A double-precision number, given by its IEEE 754 binary64 pattern.  All operations produce the
one quiet pattern for "not a number". -/
structure Double where
  bits : UInt64
deriving DecidableEq, Repr, Inhabited

namespace Double

/-- The first pattern beyond the finite positive numbers: positive infinity. -/
def infinityCode : Nat := 0x7ff0000000000000

/-- The weight of the sign bit. -/
def signWeight : Nat := 0x8000000000000000

/-- The weight of the exponent in a pattern; below it stands the fraction. -/
def exponentWeight : Nat := 0x10000000000000

/-- How many of the smallest positive numbers make up one. -/
def unitsOfOne : Nat := Nat.pow 2 1074

def nan : Double := ⟨0x7ff8000000000000⟩

def infinity : Double := ⟨0x7ff0000000000000⟩

def zero : Double := ⟨0⟩

/-- Whether the sign bit is set. -/
def isNegative (x : Double) : Bool := signWeight ≤ x.bits.toNat

/-- The pattern without its sign bit. -/
def magnitudeCode (x : Double) : Nat := x.bits.toNat % signWeight

def isNaN (x : Double) : Bool := infinityCode < x.magnitudeCode

def isInfinite (x : Double) : Bool := x.magnitudeCode == infinityCode

def isFinite (x : Double) : Bool := x.magnitudeCode < infinityCode

def isZero (x : Double) : Bool := x.magnitudeCode == 0

/-- The number with the given sign and the given pattern of its magnitude. -/
def ofMagnitude (negative : Bool) (code : Nat) : Double :=
  ⟨UInt64.ofNat (if negative then signWeight + code else code)⟩

/-- The infinity of the given sign. -/
def signedInfinity (negative : Bool) : Double := ofMagnitude negative infinityCode

/-- Exchange the sign; "not a number" has none. -/
def negate (x : Double) : Double :=
  if x.isNaN then x else ofMagnitude (!x.isNegative) x.magnitudeCode

/-- The significand of a finite number: its magnitude is the significand times two to the power
`scale - 1074`. -/
def significand (x : Double) : Nat :=
  let fraction := x.magnitudeCode % exponentWeight
  if x.magnitudeCode / exponentWeight = 0 then fraction else exponentWeight + fraction

/-- The binary exponent of a finite number above the smallest one. -/
def scale (x : Double) : Nat :=
  x.magnitudeCode / exponentWeight - 1

/-- The magnitude of a finite number in units of the smallest positive one, 2^-1074. -/
def units (x : Double) : Nat :=
  x.significand * Nat.pow 2 x.scale

/-- Divide and round to the nearest integer, a half going to the even neighbour. -/
def divideToEven (numerator denominator : Nat) : Nat :=
  let quotient := numerator / denominator
  let twice := 2 * (numerator % denominator)
  if denominator < twice || (twice == denominator && quotient % 2 == 1) then quotient + 1
  else quotient

/-- Two to an integer power as a ratio. -/
def powerOfTwo (exponent : Int) : Nat × Nat :=
  if 0 ≤ exponent then (Nat.pow 2 exponent.toNat, 1) else (1, Nat.pow 2 (-exponent).toNat)

/-- The largest integer exponent of two that does not exceed a positive ratio. -/
def binaryExponent (numerator denominator : Nat) : Int :=
  let guess : Int := Int.ofNat numerator.log2 - Int.ofNat denominator.log2
  let (up, down) := powerOfTwo guess
  if denominator * up ≤ numerator * down then guess else guess - 1

/-- The number nearest to a ratio, of two equally near ones the one with the even pattern.  Ratios
beyond the largest finite number by half a step or more become infinite. -/
def ofRatio (negative : Bool) (numerator denominator : Nat) : Double :=
  if numerator = 0 then ofMagnitude negative 0
  else
    let exponent := max (binaryExponent numerator denominator - 52) (-1074)
    let (up, down) := powerOfTwo exponent
    let rounded := divideToEven (numerator * down) (denominator * up)
    ofMagnitude negative (min infinityCode ((exponent + 1074).toNat * exponentWeight + rounded))

/-- The number nearest to an integer. -/
def ofInteger (value : Int) : Double :=
  ofRatio (value < 0) value.natAbs 1

/-- The machine number with the same pattern. -/
def toMachine (x : Double) : Float := Float.ofBits x.bits

/-- The pattern of a machine number. -/
def ofMachine (x : Float) : Double :=
  if x.isNaN then nan else ⟨x.toBits⟩

def add (left right : Double) : Double := ofMachine (left.toMachine + right.toMachine)

def subtract (left right : Double) : Double := ofMachine (left.toMachine - right.toMachine)

def multiply (left right : Double) : Double := ofMachine (left.toMachine * right.toMachine)

/-- Division: a number over a zero is an infinity with the sign of the quotient, zero over zero is
"not a number". -/
def divide (left right : Double) : Double :=
  if right.isZero then
    if left.isZero || left.isNaN then nan
    else signedInfinity (left.isNegative != right.isNegative)
  else ofMachine (left.toMachine / right.toMachine)

/-- The remainder of the division rounded toward zero, with the sign of the dividend.  There is
none for an infinite dividend or a zero divisor. -/
def modulo (left right : Double) : Double :=
  if left.isNaN || right.isNaN || left.isInfinite || right.isZero then nan
  else if right.isInfinite then left
  else ofRatio left.isNegative (left.units % right.units) unitsOfOne

/-- Equality of numbers: the two zeros are equal, and "not a number" equals nothing. -/
def equals (left right : Double) : Bool := left.toMachine == right.toMachine

def lessThan (left right : Double) : Bool := left.toMachine < right.toMachine

def atMost (left right : Double) : Bool := left.toMachine ≤ right.toMachine

end Double

end Stencil
