/-
Module: Stencil.Number.DigitLimit
Purpose: The number of digits up to which integers are read from text and written as text.
Main exports: digitLimit, DigitFault, DigitFault.message, IsReadable, IsWritable
-/
import Stencil.Number.Layout

namespace Stencil

/-- The greatest number of digits of an integer that is read from text or written as text. -/
def digitLimit : Nat := 4300

/-- An integer has too many digits.  Nothing that reads or writes integers expects this: it is an
error of its own kind, which passes through expressions and templates as it is. -/
inductive DigitFault where
  /-- This many digits were to be read. -/
  | reading (count : Nat)
  /-- The digits were to be written. -/
  | writing
deriving Repr, Inhabited, DecidableEq

/-- The text of the fault. -/
def DigitFault.message (fault : DigitFault) : String :=
  let count := match fault with
    | reading count => ": value has " ++ integerText count ++ " digits"
    | writing => ""
  "Exceeds the limit (" ++ integerText digitLimit ++ " digits) for integer string conversion"
    ++ count ++ "; use sys.set_int_max_str_digits() to increase the limit"

/-- Digits are few enough to be read. -/
def IsReadable (digits : List Char) : Prop :=
  digits.length ≤ digitLimit

/-- An integer has few enough digits to be written. -/
def IsWritable (value : Int) : Prop :=
  (naturalDigits value.natAbs).length ≤ digitLimit

instance (digits : List Char) : Decidable (IsReadable digits) :=
  inferInstanceAs (Decidable (digits.length ≤ digitLimit))

instance (value : Int) : Decidable (IsWritable value) :=
  inferInstanceAs (Decidable ((naturalDigits value.natAbs).length ≤ digitLimit))

end Stencil
