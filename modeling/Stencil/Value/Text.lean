/-
Module: Stencil.Value.Text
Purpose: The written forms of numbers that are no double-precision ones, of dates, and of the values
  of the expression language.
Main exports: writtenInteger, Value.toText
-/
import Stencil.Model.World
import Stencil.Number.Layout
import Stencil.Text.Quoted

namespace Stencil

/-- The written form of an integer.  It cannot have more digits than the limit. -/
def writtenInteger (value : Int) : Except Raised String :=
  if IsWritable value then .ok (integerText value) else .error DigitFault.writing.raised

/-- A decimal number with its digits as given.  An exponent appears only if the exponent is
positive or the number would start with more than five zeros behind the point. -/
def signedDecimalText (negative : Bool) (magnitude : Decimal) : String :=
  let digits := naturalDigits magnitude.coefficient
  let point : Int := digits.length + magnitude.exponent
  let positional := decide (magnitude.exponent ≤ 0 ∧ -6 < point)
  let place := if positional then point else 1
  let body :=
    if place ≤ 0 then '0' :: '.' :: (List.replicate (-place).toNat '0' ++ digits)
    else if digits.length ≤ place.toNat then
      digits ++ List.replicate (place.toNat - digits.length) '0'
    else digits.take place.toNat ++ '.' :: digits.drop place.toNat
  let exponent := point - place
  let mark :=
    if point = place then []
    else 'E' :: (if exponent < 0 then '-' else '+') :: naturalDigits exponent.natAbs
  String.ofList ((if negative then ['-'] else []) ++ body ++ mark)

/-- A fraction, or the integer that it is. -/
def fractionText (numerator : Int) (denominator : Nat) : Except Raised String := do
  let above ← writtenInteger numerator
  if denominator = 1 then pure above
  else
    let below ← writtenInteger denominator
    pure (above ++ "/" ++ below)

/-- A complex number: the imaginary part alone if the real one is a positive zero. -/
def complexText (real imaginary : Double) : String :=
  let imaginaryText := imaginary.textIn bareNotation ++ "j"
  if real = Double.zero then imaginaryText
  else
    let sign := if imaginary.isNaN || !imaginary.isNegative then "+" else ""
    "(" ++ real.textIn bareNotation ++ sign ++ imaginaryText ++ ")"

/-- A date as year, month and day. -/
def dateText (year month day : Nat) : String :=
  String.ofList (padZeros 4 (naturalDigits year) ++ '-' :: padZeros 2 (naturalDigits month)
    ++ '-' :: padZeros 2 (naturalDigits day))

/-- The text of a value of the expression language; no other value has one of its own.  Integers of 64
bits have few enough digits. -/
def Value.toText : Value → String
  | null => "null"
  | boolean flag => if flag then "true" else "false"
  | integer value => integerText value
  | double value => value.text
  | text characters => characters
  | _ => ""

end Stencil
