/-
Module: Stencil.Proofs.Config.Keys
Purpose: Which keys can be put into order, and which settings fail because theirs cannot.
Main exports: Ordered, orderKeys_of_ordered, Settings.load_unordered_iff
-/
import Stencil.Config.Settings
import Stencil.Proofs.Property.Lockstep

namespace Stencil.Config

/-! ### The order of keys -/

/-- Every two of the keys, in their places, have an order. -/
def Ordered (keys : List Value) : Prop :=
  keys.Pairwise fun left right => clash? left right = none

theorem firstClash?_eq_none_iff {keys : List Value} : firstClash? keys = none ↔ Ordered keys := by
  induction keys with
  | nil => exact iff_of_true rfl .nil
  | cons first rest ih =>
      rw [firstClash?, Option.or_eq_none_iff, List.findSome?_eq_none_iff, ih]
      unfold Ordered
      rw [List.pairwise_cons]

theorem orderKeys_of_ordered {keys : List Value} (ordered : Ordered keys) :
    ∃ sorted, orderKeys keys = .ok sorted := by
  unfold orderKeys
  rw [firstClash?_eq_none_iff.mpr ordered]
  exact ⟨_, rfl⟩

theorem orderKeys_of_unordered {keys : List Value} (unordered : ¬ Ordered keys) :
    ∃ left right, orderKeys keys = .error (.unorderedKeys left right) := by
  unfold orderKeys
  split
  · rename_i noClash
    exact absurd (firstClash?_eq_none_iff.mp noClash) unordered
  · exact ⟨_, _, rfl⟩
  · exact ⟨_, _, rfl⟩

/-! ### Settings -/

/-- A text or a boolean, loaded by itself. -/
def Shape.IsScalar (shape : Shape) : Prop :=
  shape = .text ∨ shape = .boolean

/-- The names of the settings. -/
def settingNames : List String :=
  ["line_terminator", "encoding", "accept_if_strings"]

/-- The keys of a mapping that are no settings are put into order if there are any. -/
theorem load_map (refuse : Refusal) (entries : List (Value × Value)) :
    settingsShape.loadWith refuse "$" (.map entries) =
      (if (unknownKeys settingNames entries).isEmpty then do
        let fields := [("line_terminator", Shape.text, some (Value.text "\n")),
          ("encoding", Shape.text, some (Value.text "utf-8")),
          ("accept_if_strings", Shape.boolean, some (Value.boolean true))]
        let loaded ← loadFields refuse "$" entries fields
        let stored ← applyRule (.terminatorField "line_terminator") (givenFields entries fields) loaded
        pure (.record "EngineConfig" stored)
      else do
        let sorted ← orderKeys (unknownKeys settingNames entries)
        throw (refuse "$" (.unknownKeys sorted))) := by
  unfold settingsShape Shape.loadWith
  rfl

section Allowed

variable {refuse : Refusal} {E : LoadError → Prop} (refuses : ∀ path fault, E (refuse path fault))

include refuses

theorem Shape.IsScalar.load_ends {shape : Shape} (scalar : shape.IsScalar) (path : String)
    (value : Value) : Ends (fun _ => True) E (shape.loadWith refuse path value) := by
  rcases scalar with rfl | rfl
  all_goals
    unfold Shape.loadWith requireClass
    split
    · trivial
    · exact refuses _ _

/-- Without records in records, keys of fields are never put into order. -/
theorem loadFields_ends {path : String} {entries : List (Value × Value)}
    {fields : List (String × Shape × Option Value)}
    (scalars : ∀ field ∈ fields, field.2.1.IsScalar) :
    Ends (fun _ => True) E (loadFields refuse path entries fields) := by
  induction fields with
  | nil => trivial
  | cons field rest ih =>
      obtain ⟨name, shape, default?⟩ := field
      obtain ⟨scalar, later⟩ := List.forall_mem_cons.mp scalars
      have others : Ends (fun _ => True) E (loadFields refuse path entries rest) := ih later
      unfold loadFields
      split
      · refine Ends.bind (scalar.load_ends refuses _ _) fun loaded _ => ?_
        exact others.bind fun _ _ => trivial
      · exact others.bind fun _ _ => trivial
      · exact refuses _ _

omit refuses in
theorem terminatorField_ends (terminators : ∀ refused, E (.terminator refused)) (name : String)
    (given : List String) (fields : List (String × Loaded)) :
    Ends (fun _ => True) E (applyRule (.terminatorField name) given fields) := by
  refine Ends.mono (Ends.mapM (Q := fun _ => True) fun field _ => ?_) (fun _ _ => trivial)
    fun _ => id
  split
  · split
    · split
      · trivial
      · exact terminators _
    · trivial
  · trivial

/-- Settings are refused by a mismatch, by a line terminator, or for the order of their keys. -/
theorem Settings.load_ends (terminators : ∀ refused, E (.terminator refused)) (value : Value)
    (order : ∀ entries, value = .map entries → ¬ Ordered (unknownKeys settingNames entries) →
      ∀ left right, E (.unorderedKeys left right)) :
    Ends (fun _ => True) E (settingsShape.loadWith refuse "$" value) := by
  cases value with
  | map entries =>
      rw [load_map]
      split
      · refine Ends.bind (loadFields_ends refuses ?_) fun loaded _ => ?_
        · simp [Shape.IsScalar]
        · exact (terminatorField_ends terminators _ _ _).bind fun _ _ => trivial
      · by_cases ordered : Ordered (unknownKeys settingNames entries)
        · obtain ⟨sorted, done⟩ := orderKeys_of_ordered ordered
          rw [done]
          exact refuses _ _
        · obtain ⟨left, right, failed⟩ := orderKeys_of_unordered ordered
          rw [failed]
          exact order entries rfl ordered left right
  | _ =>
      unfold settingsShape Shape.loadWith
      exact refuses _ _

end Allowed

end Stencil.Config
