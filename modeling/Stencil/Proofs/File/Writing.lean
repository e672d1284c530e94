/-
Module: Stencil.Proofs.File.Writing
Purpose: What is read from a place that bytes were put at.
Main exports: node_put_of_directory, read_put
-/
import Stencil.File.Tree

namespace Stencil.File.Tree

variable {tree : Tree} {place : Place} {octets : List UInt8}

/-- The bytes at a place are those that were put there; at other places nothing changes. -/
theorem lookup_put (tree : Tree) (place other : Place) (octets : List UInt8) :
    (tree.put place octets).files.lookup other =
      if other = place then some octets else tree.files.lookup other := by
  have kept : ∀ files : List (Place × List UInt8),
      (files.filter (·.1 != place)).lookup other =
        if other = place then none else files.lookup other := by
    intro files
    induction files with
    | nil => simp
    | cons file rest ih =>
        obtain ⟨here, held⟩ := file
        by_cases same : here = place
        · rw [List.filter_cons_of_neg (by simp [same]), ih]
          split
          · rfl
          · rename_i elsewhere
            rw [List.lookup_cons, beq_eq_false_iff_ne.mpr (same ▸ elsewhere)]
        · rw [List.filter_cons_of_pos (by simp [same]), List.lookup_cons, List.lookup_cons, ih]
          by_cases found : other = here
          · simp [found, same]
          · simp [beq_eq_false_iff_ne.mpr found]
  rw [put, List.lookup_append, kept]
  by_cases same : other = place
  · simp [same]
  · simp [same, List.lookup_cons, beq_eq_false_iff_ne.mpr same]

theorem node_put (tree : Tree) (place : Place) (octets : List UInt8) :
    (tree.put place octets).node place = .file octets := by
  rw [node, lookup_put, if_pos rfl]

/-- A directory is no file, and is given or lies on the way to a directory or to a file. -/
theorem node_eq_directory_iff {other : Place} :
    tree.node other = .directory ↔ tree.files.lookup other = none ∧
      ((other.isTop = true ∨ ∃ directory ∈ tree.directories, other <+: directory) ∨
        ∃ file ∈ tree.files, other <+: file.1) := by
  unfold node
  cases tree.files.lookup other with
  | some held => simp
  | none =>
      simp only [true_and]
      split
      · rename_i holds
        simpa only [Bool.or_eq_true, List.any_eq_true, List.isPrefixOf_iff_prefix, true_iff]
          using holds
      · rename_i fails
        simpa only [Bool.or_eq_true, List.any_eq_true, List.isPrefixOf_iff_prefix, reduceCtorEq,
          false_iff] using fails

/-- Directories stay directories, but at the place itself. -/
theorem node_put_of_directory {other : Place} (directory : tree.node other = .directory)
    (elsewhere : other ≠ place) : (tree.put place octets).node other = .directory := by
  rw [node_eq_directory_iff] at directory ⊢
  obtain ⟨noFile, given | ⟨file, member, before⟩⟩ := directory
  · exact ⟨by rw [lookup_put, if_neg elsewhere, noFile], .inl given⟩
  · refine ⟨by rw [lookup_put, if_neg elsewhere, noFile], .inr ?_⟩
    by_cases same : file.1 = place
    · exact ⟨(place, octets), List.mem_append_right _ List.mem_cons_self, same ▸ before⟩
    · refine ⟨file, List.mem_append_left _ ?_, before⟩
      exact List.mem_filter.mpr ⟨member, by simp [same]⟩

/-- A way that does not lead through the place is still there. -/
theorem follow_put (noDirectory : tree.node place ≠ .directory) {start goal : Place}
    {names : List String} (leads : tree.follow start names = .ok goal) :
    (tree.put place octets).follow start names = .ok goal := by
  induction names generalizing start with
  | nil => exact leads
  | cons name rest ih =>
      unfold follow at leads
      cases here : tree.node start with
      | file held =>
          rw [here] at leads
          cases leads
      | missing =>
          rw [here] at leads
          cases leads
      | directory =>
          have elsewhere : start ≠ place := by
            rintro rfl
            exact noDirectory here
          rw [here] at leads
          unfold follow
          rw [node_put_of_directory here elsewhere]
          simp only at leads ⊢
          split
          · rename_i tooLong
            rw [if_pos tooLong] at leads
            cases leads
          · rename_i fits
            rw [if_neg fits] at leads
            exact ih leads

/-- A place that can be opened is the one that the path leads to, and no directory. -/
theorem of_openPlace {path : Path} (opened : tree.openPlace path = .ok place) :
    tree.place path = .ok place ∧ tree.node place ≠ .directory := by
  unfold openPlace at opened
  cases found : tree.place path with
  | error fault =>
      rw [found] at opened
      cases opened
  | ok goal =>
      simp only [found, bind, Except.bind] at opened
      split at opened
      · cases opened
      · rename_i noDirectory
        cases opened
        exact ⟨rfl, noDirectory⟩

/-- What is put at the place that was opened is what is read at the path. -/
theorem read_put {path : Path} (opened : tree.openPlace path = .ok place) (octets : List UInt8) :
    (tree.put place octets).read path = .ok octets := by
  obtain ⟨leads, noDirectory⟩ := of_openPlace opened
  have still : (tree.put place octets).place path = .ok place := by
    unfold Tree.place at leads ⊢
    split at leads
    · cases leads
    · split at leads
      · cases leads
      · rename_i noNull fits
        rw [if_neg noNull, if_neg fits]
        exact follow_put noDirectory leads
  unfold read
  simp only [still, bind, Except.bind, node_put]
  rfl

end Stencil.File.Tree
