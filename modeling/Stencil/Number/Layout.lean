/-
Module: Stencil.Number.Layout
Purpose: The written form of integers and of double-precision numbers.
Main exports: integerText, DoubleNotation, Double.text
-/
import Stencil.Number.Shortest

namespace Stencil

/-- The decimal digits of a natural number, without leading zeros. -/
def naturalDigits (value : Nat) : List Char :=
  Nat.toDigits 10 value

/-- The written form of an integer: a minus sign if it is negative, then its digits. -/
def integerText (value : Int) : String :=
  String.ofList ((if value < 0 then ['-'] else []) ++ naturalDigits value.natAbs)

/-- Decisions of a written form for double-precision numbers: which decimal exponents are written
without an exponent mark, whether a whole number keeps a point and a zero, and how many digits an
exponent has at least. -/
structure DoubleNotation where
  lowestPositional : Int
  highestPositional : Int
  keepsPointZero : Bool
  exponentWidth : Nat
deriving DecidableEq, Repr

/-- Numbers are written without an exponent from 1e-4 up to below 1e16; whole numbers keep `.0`;
exponents have a sign and at least two digits. -/
def plainNotation : DoubleNotation where
  lowestPositional := -4
  highestPositional := 15
  keepsPointZero := true
  exponentWidth := 2

/-- As `plainNotation`, but whole numbers are written as integers. -/
def bareNotation : DoubleNotation :=
  { plainNotation with keepsPointZero := false }

/-- Put zeros in front up to a width. -/
def padZeros (width : Nat) (digits : List Char) : List Char :=
  List.replicate (width - digits.length) '0' ++ digits

/-- Drop trailing zeros, but keep a first digit. -/
def dropTrailingZeros (digits : List Char) : List Char :=
  match (digits.reverse.dropWhile (· == '0')).reverse with
  | [] => ['0']
  | kept => kept

/-- Digits with a decimal point after the given number of them. -/
def positionalText (keepsPointZero : Bool) (digits : List Char) (point : Int) : List Char :=
  if point ≤ 0 then
    '0' :: '.' :: (List.replicate (-point).toNat '0' ++ digits)
  else
    let whole := point.toNat
    if digits.length ≤ whole then
      digits ++ List.replicate (whole - digits.length) '0'
        ++ (if keepsPointZero then ['.', '0'] else [])
    else digits.take whole ++ '.' :: digits.drop whole

/-- Digits with one of them before the point, and an exponent of ten. -/
def exponentText (width : Nat) (digits : List Char) (exponent : Int) : List Char :=
  let fraction := digits.drop 1
  digits.take 1 ++ (if fraction.isEmpty then [] else '.' :: fraction)
    ++ 'e' :: (if exponent < 0 then '-' else '+') :: padZeros width (naturalDigits exponent.natAbs)

/-- The written form of a decimal magnitude. -/
def decimalText (form : DoubleNotation) (decimal : Decimal) : List Char :=
  let written := naturalDigits decimal.coefficient
  let digits := dropTrailingZeros written
  if decimal.coefficient = 0 then positionalText form.keepsPointZero ['0'] 1
  else
    let point : Int := written.length + decimal.exponent
    let exponent := point - 1
    if form.lowestPositional ≤ exponent ∧ exponent ≤ form.highestPositional then
      positionalText form.keepsPointZero digits point
    else exponentText form.exponentWidth digits exponent

/-- The written form of a number in a given notation. -/
def Double.textIn (form : DoubleNotation) (x : Double) : String :=
  if x.isNaN then "nan"
  else
    let magnitude := if x.isInfinite then ['i', 'n', 'f'] else decimalText form x.shortest
    String.ofList (if x.isNegative then '-' :: magnitude else magnitude)

/-- The written form of a number: the fewest digits that read back, `inf`, `-inf` or `nan`. -/
def Double.text (x : Double) : String :=
  x.textIn plainNotation

end Stencil
