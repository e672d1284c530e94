/-
Module: Stencil.Proofs.Config.Loading
Purpose: How the loading of a value by a shape can fail other than by a mismatch, and which
  alternative of a union decides.
Main exports: loadAny_eq, Refusal.Sound, refusal_sound, Comes, Shape.Breaks, Shape.exists_breaks,
  load_fails_otherwise_iff
-/
import Mathlib
import Stencil.Proofs.Config.Keys
import Stencil.Proofs.Property.Texts

namespace Stencil.Config

/-- Loading ends with an error that lets no other alternative be tried. -/
def FailsOtherwise {α : Type} (result : Except LoadError α) : Prop :=
  ∃ error, result = .error error ∧ error.givesWay = false

section Failing

variable {α β : Type}

theorem not_failsOtherwise_ok (value : α) : ¬ FailsOtherwise (.ok value) := by
  rintro ⟨error, impossible, -⟩
  cases impossible

theorem failsOtherwise_error_iff {error : LoadError} :
    FailsOtherwise (.error error : Except LoadError α) ↔ error.givesWay = false := by
  constructor
  · rintro ⟨_, same, stays⟩
    cases same
    exact stays
  · exact fun stays => ⟨error, rfl, stays⟩

theorem failsOtherwise_bind_iff {first : Except LoadError α} {next : α → Except LoadError β} :
    FailsOtherwise (first >>= next) ↔
      FailsOtherwise first ∨ ∃ value, first = .ok value ∧ FailsOtherwise (next value) := by
  cases first with
  | ok value => simp [bind, Except.bind, not_failsOtherwise_ok]
  | error error => simp [bind, Except.bind, FailsOtherwise]

end Failing

/-- Shapes are made of the shapes of alternatives and of fields. -/
theorem Shape.induction {P : Shape → Prop}
    (union : ∀ alternatives, (∀ shape ∈ alternatives, P shape) → P (.union alternatives))
    (record : ∀ name fields rule, (∀ field ∈ fields, P field.2.1) → P (.record name fields rule))
    (single : ∀ shape : Shape, (∀ alternatives, shape ≠ .union alternatives) →
      (∀ name fields rule, shape ≠ .record name fields rule) → P shape) :
    ∀ shape, P shape
  | .union alternatives =>
      union alternatives fun shape _ => Shape.induction union record single shape
  | .record name fields rule =>
      record name fields rule fun field _ => Shape.induction union record single field.2.1
  | .text | .integer | .double | .boolean | .anything | .null | .unsupported _ | .literal _ =>
      single _ (fun _ => nofun) fun _ _ _ => nofun
termination_by shape => sizeOf shape
decreasing_by
  · have smaller := List.sizeOf_lt_of_mem ‹shape ∈ alternatives›
    simp only [Shape.union.sizeOf_spec]
    omega
  · have smaller := List.sizeOf_lt_of_mem ‹field ∈ fields›
    obtain ⟨fieldName, shape, default?⟩ := field
    simp only [Prod.mk.sizeOf_spec, Shape.record.sizeOf_spec] at smaller ⊢
    omega

/-! ### Unions -/

section Union

variable (refuse : Refusal) (path : String) (value : Value)

/-- What an alternative of a union makes of a value.  Null is an alternative for null only. -/
def Shape.offer : Shape → Except LoadError Loaded
  | .null =>
      if value.isNull then .ok (.plain .null)
      else .error (.mismatch path (.unsupportedClass "NoneType"))
  | shape => shape.loadWith refuse path value

/-- Whether the next alternative is tried. -/
def givesWay : Except LoadError Loaded → Bool
  | .error error => error.givesWay
  | .ok _ => false

/-- What an alternative that gives way says about the value; null says nothing. -/
def Shape.complaint : Shape → List LoadError
  | .null => []
  | shape =>
      match shape.loadWith refuse path value with
      | .error error => [error]
      | .ok _ => []

/-- A union ends as the first of its alternatives that does not give way; if all do, it is refused
with all that they say. -/
theorem loadAny_eq (failures : List LoadError) (alternatives : List Shape) :
    loadAny refuse path value failures alternatives =
      match (alternatives.map (Shape.offer refuse path value)).find? (!givesWay ·) with
      | some result => result
      | none => .error (refuse path (.noAlternative
          (failures ++ alternatives.flatMap (Shape.complaint refuse path value)))) := by
  induction alternatives generalizing failures with
  | nil =>
      unfold loadAny
      simp
  | cons shape rest ih =>
      by_cases isNull : shape = .null
      · subst isNull
        unfold loadAny
        cases null : value.isNull with
        | true => simp [Shape.offer, givesWay, null]
        | false =>
            simp [Shape.offer, Shape.complaint, givesWay, LoadError.givesWay, null, ih]
      · have offered : shape.offer refuse path value = shape.loadWith refuse path value := by
          unfold Shape.offer
          split
          · contradiction
          · rfl
        have complained : shape.complaint refuse path value =
            match shape.loadWith refuse path value with
            | .error error => [error]
            | .ok _ => [] := by
          unfold Shape.complaint
          split
          · contradiction
          · rfl
        rw [loadAny.eq_3 _ _ _ _ _ _ isNull, List.map_cons, List.flatMap_cons, offered, complained]
        cases shape.loadWith refuse path value with
        | ok loaded => simp [givesWay]
        | error error =>
            cases gives : error.givesWay with
            | true => simp [givesWay, gives, ih]
            | false => simp [givesWay, gives]

/-- A mismatch that is told by names alone. -/
def Mismatch.IsNamed : Mismatch → Prop
  | .wrongClass _ _ | .notMapping _ _ | .missingField | .unsupportedClass _ => True
  | _ => False

/-- Mismatches that are told by names, and the failures of all alternatives of a union, are raised as
they are. -/
structure Refusal.Sound (refuse : Refusal) : Prop where
  named : ∀ path (fault : Mismatch), fault.IsNamed → refuse path fault = .mismatch path fault
  collected : ∀ path value (alternatives : List Shape),
    refuse path (.noAlternative (alternatives.flatMap (Shape.complaint refuse path value))) =
      .mismatch path (.noAlternative (alternatives.flatMap (Shape.complaint refuse path value)))

variable {refuse} (sound : refuse.Sound)

include sound in
/-- The same for a whole union. -/
theorem load_union (alternatives : List Shape) :
    (Shape.union alternatives).loadWith refuse path value =
      match (alternatives.map (Shape.offer refuse path value)).find? (!givesWay ·) with
      | some result => result
      | none => .error (.mismatch path
          (.noAlternative (alternatives.flatMap (Shape.complaint refuse path value)))) := by
  unfold Shape.loadWith
  rw [loadAny_eq, List.nil_append, sound.collected]

variable {path value} {alternatives : List Shape}

/-- Null as an alternative fails by a mismatch, if at all. -/
theorem offer_fails_iff (sound : refuse.Sound) {shape : Shape} :
    FailsOtherwise (shape.offer refuse path value) ↔
      FailsOtherwise (shape.loadWith refuse path value) := by
  unfold Shape.offer
  split
  · refine iff_of_false ?_ ?_
    · split
      · exact not_failsOtherwise_ok _
      · exact fun fails => nomatch failsOtherwise_error_iff.mp fails
    · unfold Shape.loadWith
      rw [sound.named path (.unsupportedClass "NoneType") trivial]
      exact fun fails => nomatch failsOtherwise_error_iff.mp fails
  · exact Iff.rfl

include sound in
/-- A union ends without giving way as the first alternative that does not give way. -/
theorem load_union_eq_iff {result : Except LoadError Loaded} (stays : givesWay result = false) :
    (Shape.union alternatives).loadWith refuse path value = result ↔
      ∃ before shape after, alternatives = before ++ shape :: after ∧
        (∀ earlier ∈ before, givesWay (earlier.offer refuse path value) = true) ∧
        shape.offer refuse path value = result := by
  rw [load_union _ _ sound]
  constructor
  · intro loaded
    cases found : (alternatives.map (Shape.offer refuse path value)).find? (!givesWay ·) with
    | none =>
        rw [found] at loaded
        subst loaded
        cases stays
    | some first =>
        rw [found] at loaded
        obtain rfl : first = result := loaded
        obtain ⟨-, offersBefore, offersAfter, split, earlier⟩ :=
          List.find?_eq_some_iff_append.mp found
        obtain ⟨before, rest, rfl, rfl, split'⟩ := List.map_eq_append_iff.mp split
        obtain ⟨shape, after, rfl, rfl, -⟩ := List.map_eq_cons_iff.mp split'
        refine ⟨before, shape, after, rfl, ?_, rfl⟩
        intro other member
        simpa using earlier _ (List.mem_map_of_mem member)
  · rintro ⟨before, shape, after, rfl, earlier, rfl⟩
    have skipped : (before.map (Shape.offer refuse path value)).find? (!givesWay ·) = none := by
      rw [List.find?_eq_none]
      intro offered member
      obtain ⟨other, isBefore, rfl⟩ := List.mem_map.mp member
      simp [earlier other isBefore]
    rw [List.map_append, List.find?_append, skipped, List.map_cons, List.find?_cons, stays]
    rfl

include sound in
/-- A union that gives way does so at its own path, and all its alternatives do. -/
theorem load_union_gives_way {error : LoadError}
    (refused : (Shape.union alternatives).loadWith refuse path value = .error error)
    (gives : error.givesWay = true) :
    (∃ fault, error = .mismatch path fault) ∧
      ∀ shape ∈ alternatives, givesWay (shape.offer refuse path value) = true := by
  rw [load_union _ _ sound] at refused
  cases found : (alternatives.map (Shape.offer refuse path value)).find? (!givesWay ·) with
  | none =>
      rw [found] at refused
      cases refused
      refine ⟨⟨_, rfl⟩, fun shape member => ?_⟩
      simpa using List.find?_eq_none.mp found _ (List.mem_map_of_mem member)
  | some first =>
      rw [found] at refused
      obtain rfl : first = .error error := refused
      have stays := List.find?_some found
      simp [givesWay, gives] at stays

include sound in
/-- A union fails otherwise than by a mismatch if the first alternative that does not give way
does. -/
theorem load_union_fails_iff :
    FailsOtherwise ((Shape.union alternatives).loadWith refuse path value) ↔
      ∃ before shape after, alternatives = before ++ shape :: after ∧
        (∀ earlier ∈ before, givesWay (earlier.offer refuse path value) = true) ∧
        FailsOtherwise (shape.loadWith refuse path value) := by
  constructor
  · rintro ⟨error, failed, stays⟩
    have last : givesWay (.error error) = false := stays
    obtain ⟨before, shape, after, split, earlier, offered⟩ :=
      (load_union_eq_iff sound last).mp failed
    exact ⟨before, shape, after, split, earlier,
      (offer_fails_iff sound).mp ⟨error, offered, stays⟩⟩
  · rintro ⟨before, shape, after, split, earlier, fails⟩
    obtain ⟨error, offered, stays⟩ := (offer_fails_iff sound).mpr fails
    have last : givesWay (.error error) = false := stays
    refine ⟨error, (load_union_eq_iff sound last).mpr ?_, stays⟩
    exact ⟨before, shape, after, split, earlier, offered⟩

end Union

/-! ### Records -/

/-- Load one field of a record. -/
def loadField (refuse : Refusal) (path : String) (entries : List (Value × Value)) :
    String × Shape × Option Value → Except LoadError (String × Loaded)
  | (name, shape, default?) =>
      match Value.get? entries name, default? with
      | some value, _ =>
          (shape.loadWith refuse (path ++ "." ++ name) value).map fun loaded => (name, loaded)
      | none, some value => .ok (name, .plain value)
      | none, none => .error (refuse (path ++ "." ++ name) .missingField)

/-- Fields are loaded one after another. -/
theorem loadFields_eq_mapM (refuse : Refusal) (path : String) (entries : List (Value × Value))
    (fields : List (String × Shape × Option Value)) :
    loadFields refuse path entries fields = fields.mapM (loadField refuse path entries) := by
  induction fields with
  | nil =>
      unfold loadFields
      rfl
  | cons field rest ih =>
      obtain ⟨name, shape, default?⟩ := field
      rw [List.mapM_cons, ← ih]
      conv_lhs => unfold loadFields
      simp only [loadField]
      cases Value.get? entries name with
      | some value =>
          simp only
          cases shape.loadWith refuse (path ++ "." ++ name) value <;> rfl
      | none => cases default? <;> rfl

section Field

variable {refuse : Refusal} {path name : String} {entries : List (Value × Value)} {shape : Shape}
  {default? : Option Value}

theorem loadField_present {value : Value} (given : Value.get? entries name = some value) :
    loadField refuse path entries (name, shape, default?) =
      (shape.loadWith refuse (path ++ "." ++ name) value).map fun loaded => (name, loaded) := by
  simp only [loadField, given]

theorem loadField_default {value : Value} (absent : Value.get? entries name = none) :
    loadField refuse path entries (name, shape, some value) = .ok (name, .plain value) := by
  simp only [loadField, absent]

theorem loadField_missing (absent : Value.get? entries name = none) :
    loadField refuse path entries (name, shape, none) =
      .error (refuse (path ++ "." ++ name) .missingField) := by
  simp only [loadField, absent]

/-- A field ends as the loading of its value does, or for being absent. -/
theorem loadField_ends {E : LoadError → Prop}
    (loads : ∀ value, Value.get? entries name = some value →
      Ends (fun _ => True) E (shape.loadWith refuse (path ++ "." ++ name) value))
    (missing : E (refuse (path ++ "." ++ name) .missingField)) :
    Ends (fun _ => True) E (loadField refuse path entries (name, shape, default?)) := by
  cases given : Value.get? entries name with
  | some value =>
      rw [loadField_present given]
      cases result : shape.loadWith refuse (path ++ "." ++ name) value with
      | ok loaded => trivial
      | error error => exact (loads value given).error result
  | none =>
      cases default? with
      | some value =>
          rw [loadField_default given]
          trivial
      | none =>
          rw [loadField_missing given]
          exact missing

/-- A field fails otherwise than by a mismatch if it is present and its value does. -/
theorem loadField_fails (sound : refuse.Sound)
    (fails : FailsOtherwise (loadField refuse path entries (name, shape, default?))) :
    ∃ value, Value.get? entries name = some value ∧
      FailsOtherwise (shape.loadWith refuse (path ++ "." ++ name) value) := by
  cases given : Value.get? entries name with
  | some value =>
      rw [loadField_present given] at fails
      refine ⟨value, rfl, ?_⟩
      cases loaded : shape.loadWith refuse (path ++ "." ++ name) value with
      | ok result =>
          rw [loaded] at fails
          exact absurd fails (not_failsOtherwise_ok _)
      | error error =>
          rw [loaded] at fails
          exact failsOtherwise_error_iff.mpr (failsOtherwise_error_iff.mp fails)
  | none =>
      cases default? with
      | some value =>
          rw [loadField_default given] at fails
          exact absurd fails (not_failsOtherwise_ok _)
      | none =>
          rw [loadField_missing given, sound.named _ .missingField trivial] at fails
          cases failsOtherwise_error_iff.mp fails

end Field

/-- The terminator field is stored by its characters, and all other fields as they are. -/
def storeField (name : String) (field : String × Loaded) : Except LoadError (String × Loaded) :=
  match field with
  | (fieldName, .plain (.text written)) =>
      if fieldName = name then
        match LineTerminator.read written with
        | .ok terminator => .ok (fieldName, .plain (.text terminator.text))
        | .error refused => .error (.terminator refused)
      else .ok field
  | _ => .ok field

theorem storeField_eq_error_iff {name : String} {field : String × Loaded} {error : LoadError} :
    storeField name field = .error error ↔
      ∃ written refused, field = (name, .plain (.text written)) ∧
        LineTerminator.read written = .error refused ∧ error = .terminator refused := by
  constructor
  · intro failed
    unfold storeField at failed
    split at failed
    · split at failed
      · rename_i written same
        subst same
        split at failed
        · cases failed
        · rename_i refused unknown
          cases failed
          exact ⟨written, refused, rfl, unknown, rfl⟩
      · cases failed
    · cases failed
  · rintro ⟨written, refused, rfl, unknown, rfl⟩
    simp [storeField, unknown]

/-- What a record with this rule cannot hold: a line terminator with an unknown name, or fields for
which its class raises anything but an error of its own about settings. -/
def RecordRule.Refuses : RecordRule → List String → List (String × Loaded) → Prop
  | .free, _, _ => False
  | .terminatorField name, _, loaded =>
      ∃ written refused, (name, .plain (.text written)) ∈ loaded ∧
        LineTerminator.read written = .error refused
  | .constructed constructor, given, loaded =>
      ∃ error, constructor.run given loaded = .error error ∧ error.isA "ConfigLoadError" = false

/-- A rule fails on the fields that it refuses. -/
theorem applyRule_fails_iff {rule : RecordRule} {given : List String}
    {loaded : List (String × Loaded)} :
    FailsOtherwise (applyRule rule given loaded) ↔ rule.Refuses given loaded := by
  cases rule with
  | free => simp [FailsOtherwise, applyRule, RecordRule.Refuses]
  | terminatorField name =>
      have stored : applyRule (.terminatorField name) given loaded =
          loaded.mapM (storeField name) := rfl
      rw [stored]
      constructor
      · rintro ⟨error, failed, -⟩
        obtain ⟨before, field, after, rfl, -, failed⟩ := exists_first_of_mapM failed
        obtain ⟨written, refused, rfl, unknown, -⟩ := storeField_eq_error_iff.mp failed
        exact ⟨written, refused, by simp, unknown⟩
      · rintro ⟨written, refused, member, unknown⟩
        cases result : loaded.mapM (storeField name) with
        | error error =>
            obtain ⟨_, _, _, -, -, failed⟩ := exists_first_of_mapM result
            obtain ⟨_, _, -, -, rfl⟩ := storeField_eq_error_iff.mp failed
            exact failsOtherwise_error_iff.mpr rfl
        | ok fields =>
            have failed : storeField name (name, .plain (.text written)) = .error _ :=
              storeField_eq_error_iff.mpr ⟨written, refused, rfl, unknown, rfl⟩
            obtain ⟨stored, here⟩ := each_of_mapM result _ member
            cases failed.symm.trans here
  | constructed constructor =>
      unfold applyRule
      simp only
      cases ran : constructor.run given loaded with
      | ok fields => simp [RecordRule.Refuses, ran, not_failsOtherwise_ok]
      | error raised =>
          simp [RecordRule.Refuses, ran, failsOtherwise_error_iff, LoadError.givesWay]

/-- A value that is looked into by key has entries. -/
theorem exists_entries {value : Value} (isMap : value.isMap = true) :
    ∃ entries, value = .map entries := by
  cases value with
  | map entries => exact ⟨entries, rfl⟩
  | _ => cases isMap

section Record

variable {refuse : Refusal} {path name : String} {fields : List (String × Shape × Option Value)}
  {rule : RecordRule} {entries : List (Value × Value)}

/-- A mapping is loaded as a record field by field if all its keys are fields. -/
theorem load_record_of_known (known : unknownKeys (fields.map (·.1)) entries = []) :
    (Shape.record name fields rule).loadWith refuse path (.map entries) =
      loadFields refuse path entries fields >>= fun loaded =>
        applyRule rule (givenFields entries fields) loaded >>= fun stored =>
          pure (.record name stored) := by
  unfold Shape.loadWith
  simp only [known, List.isEmpty_nil, if_true]

/-- Otherwise the other keys are put into order and named. -/
theorem load_record_of_unknown (unknown : unknownKeys (fields.map (·.1)) entries ≠ []) :
    (Shape.record name fields rule).loadWith refuse path (.map entries) =
      orderKeys (unknownKeys (fields.map (·.1)) entries) >>= fun keys =>
        .error (refuse path (.unknownKeys keys)) := by
  unfold Shape.loadWith
  simp only [List.isEmpty_eq_false_iff.mpr unknown, Bool.false_eq_true, if_false]

/-- Nothing but a mapping is loaded as a record. -/
theorem load_record_of_noMap {value : Value} (noMap : value.isMap = false) :
    (Shape.record name fields rule).loadWith refuse path value =
      .error (refuse path (.notMapping name value.typeName)) := by
  unfold Shape.loadWith
  split
  · cases noMap
  · rfl

end Record

/-- A shape without parts takes the value as it is, or refuses it where it stands. -/
theorem load_single (refuse : Refusal) {shape : Shape}
    (noUnion : ∀ alternatives, shape ≠ .union alternatives)
    (noRecord : ∀ name fields rule, shape ≠ .record name fields rule) (path : String)
    (value : Value) :
    shape.loadWith refuse path value = .ok (.plain value) ∨
      ∃ fault, shape.loadWith refuse path value = .error (refuse path fault) := by
  have byTest {test : Bool} {fault : Mismatch}
      (load : shape.loadWith refuse path value =
        if test then .ok (.plain value) else .error (refuse path fault)) :
      shape.loadWith refuse path value = .ok (.plain value) ∨
        ∃ fault, shape.loadWith refuse path value = .error (refuse path fault) := by
    rw [load]
    cases test with
    | true => exact .inl rfl
    | false => exact .inr ⟨fault, rfl⟩
  cases shape with
  | union alternatives => exact absurd rfl (noUnion alternatives)
  | record name fields rule => exact absurd rfl (noRecord name fields rule)
  | text | integer | double | boolean =>
      apply byTest
      unfold Shape.loadWith requireClass
      rfl
  | literal allowed =>
      apply byTest
      unfold Shape.loadWith requireAllowed
      rfl
  | anything =>
      left
      unfold Shape.loadWith
      rfl
  | null | unsupported name =>
      right
      unfold Shape.loadWith
      exact ⟨_, rfl⟩

/-! ### Texts of errors -/

section Texts

variable (classes : Classes) (objects : Objects)

/-- An error has a text. -/
def LoadError.HasText (error : LoadError) : Prop :=
  ∃ text, error.text classes objects = .ok text

/-- The text of a mismatch cannot be written, and what is raised instead lets no other alternative be
tried. -/
def Mismatch.Unwritable (fault : Mismatch) : Prop :=
  ∃ error, fault.text classes objects = .error error ∧ error.isA "ConfigLoadError" = false

variable {classes objects}

theorem mismatch_hasText {path text : String} {fault : Mismatch}
    (written : fault.text classes objects = .ok text) :
    (LoadError.mismatch path fault).HasText classes objects := by
  refine ⟨path ++ ": " ++ text, ?_⟩
  unfold LoadError.text
  rw [written]
  rfl

theorem raised_hasText (error : Raised) : (LoadError.raised error).HasText classes objects :=
  ⟨error.text, by unfold LoadError.text; rfl⟩

theorem refusal_hasText (path : String) (fault : Mismatch) :
    (refusal classes objects path fault).HasText classes objects := by
  unfold refusal
  split
  · rename_i written
    exact mismatch_hasText written
  · exact raised_hasText _

theorem refusal_of_text {path text : String} {fault : Mismatch}
    (written : fault.text classes objects = .ok text) :
    refusal classes objects path fault = .mismatch path fault := by
  unfold refusal
  rw [written]

/-- A refusal lets another alternative be tried, unless its text cannot be written. -/
theorem refusal_stays_iff {path : String} {fault : Mismatch} :
    (refusal classes objects path fault).givesWay = false ↔ fault.Unwritable classes objects := by
  unfold refusal Mismatch.Unwritable
  cases fault.text classes objects with
  | ok text => simp [LoadError.givesWay]
  | error error => simp [LoadError.givesWay]

mutual

/-- The text of a mismatch raises only what the values in it do. -/
theorem Mismatch.text_writes {E : Raised → Prop}
    (writing : classes.Writing objects (fun _ => True) E) :
    ∀ fault : Mismatch, Writes E (fault.text classes objects)
  | .notAllowed allowed found => by
      unfold Mismatch.text
      refine (writing.display (.list allowed) trivial).bind fun _ _ => ?_
      exact (writing.display found trivial).bind fun _ _ => trivial
  | .noAlternative failures => by
      unfold Mismatch.text
      exact (LoadError.texts_write writing failures).bind fun _ _ => trivial
  | .unknownKeys keys => by
      unfold Mismatch.text
      exact (writing.display (.list keys) trivial).bind fun _ _ => trivial
  | .wrongClass _ _ | .notMapping _ _ | .missingField | .unsupportedClass _ => by
      unfold Mismatch.text
      trivial

theorem LoadError.text_writes {E : Raised → Prop}
    (writing : classes.Writing objects (fun _ => True) E) :
    ∀ error : LoadError, Writes E (error.text classes objects)
  | .mismatch path fault => by
      unfold LoadError.text
      exact (Mismatch.text_writes writing fault).bind fun _ _ => trivial
  | .terminator _ | .unorderedKeys _ _ | .raised _ => by
      unfold LoadError.text
      trivial

theorem LoadError.texts_write {E : Raised → Prop}
    (writing : classes.Writing objects (fun _ => True) E) :
    ∀ errors : List LoadError, Writes E (LoadError.texts classes objects errors)
  | [] => by
      unfold LoadError.texts
      trivial
  | error :: rest => by
      unfold LoadError.texts
      refine (LoadError.text_writes writing error).bind fun _ _ => ?_
      exact (LoadError.texts_write writing rest).bind fun _ _ => trivial

end

/-- Errors that have texts have them together. -/
theorem texts_of_hasText {failures : List LoadError}
    (each : ∀ error ∈ failures, error.HasText classes objects) :
    ∃ texts, LoadError.texts classes objects failures = .ok texts := by
  induction failures with
  | nil => exact ⟨[], by unfold LoadError.texts; rfl⟩
  | cons error rest ih =>
      obtain ⟨⟨text, here⟩, later⟩ := List.forall_mem_cons.mp each
      obtain ⟨texts, written⟩ := ih later
      refine ⟨text :: texts, ?_⟩
      unfold LoadError.texts
      rw [here, written]
      rfl

theorem applyRule_hasText (rule : RecordRule) (given : List String)
    (loaded : List (String × Loaded)) :
    Ends (fun _ => True) (LoadError.HasText classes objects) (applyRule rule given loaded) := by
  cases result : applyRule rule given loaded with
  | ok stored => trivial
  | error error =>
      cases rule with
      | free => cases result
      | terminatorField name =>
          obtain ⟨_, _, _, -, -, failed⟩ :=
            @exists_first_of_mapM _ _ _ (storeField name) loaded error result
          obtain ⟨_, refused, -, -, rfl⟩ := storeField_eq_error_iff.mp failed
          exact ⟨refused.message, by unfold LoadError.text; rfl⟩
      | constructed constructor =>
          unfold applyRule at result
          simp only at result
          split at result
          · cases result
          · cases result
            exact raised_hasText _

theorem orderKeys_hasText (keys : List Value) :
    Ends (fun _ => True) (LoadError.HasText classes objects) (orderKeys keys) := by
  unfold orderKeys
  split
  · trivial
  · exact ⟨_, by unfold LoadError.text; rfl⟩
  · exact ⟨_, by unfold LoadError.text; rfl⟩

/-- Every error that a load ends with has a text. -/
theorem loadWith_hasText (shape : Shape) (path : String) (value : Value) :
    Ends (fun _ => True) (LoadError.HasText classes objects)
      (shape.loadWith (refusal classes objects) path value) := by
  induction shape using Shape.induction generalizing path value with
  | union alternatives ih =>
      unfold Shape.loadWith
      rw [loadAny_eq]
      split
      · rename_i result found
        obtain ⟨shape, member, rfl⟩ := List.mem_map.mp (List.mem_of_find?_eq_some found)
        unfold Shape.offer
        split
        · split
          · trivial
          · exact mismatch_hasText (by unfold Mismatch.text; rfl)
        · exact ih _ member path value
      · exact refusal_hasText _ _
  | record name fields rule ih =>
      cases isMap : value.isMap with
      | false =>
          rw [load_record_of_noMap isMap]
          exact refusal_hasText _ _
      | true =>
          obtain ⟨entries, rfl⟩ := exists_entries isMap
          by_cases known : unknownKeys (fields.map (·.1)) entries = []
          · rw [load_record_of_known known, loadFields_eq_mapM]
            refine (Ends.mapM (Q := fun _ => True) fun field member => ?_).bind fun _ _ => ?_
            · exact loadField_ends (fun value _ => ih field member _ value) (refusal_hasText _ _)
            · exact (applyRule_hasText _ _ _).bind fun _ _ => trivial
          · rw [load_record_of_unknown known]
            refine (orderKeys_hasText _).bind fun keys _ => ?_
            exact refusal_hasText _ _
  | single shape noUnion noRecord =>
      rcases load_single (refusal classes objects) noUnion noRecord path value with
        loaded | ⟨fault, refused⟩
      · rw [loaded]
        trivial
      · rw [refused]
        exact refusal_hasText _ _

/-- Mismatches are raised as they are if they can be written: those that are told by names can, and so
can the failures of alternatives, each of which has been written before. -/
theorem refusal_sound (classes : Classes) (objects : Objects) : (refusal classes objects).Sound where
  named path fault named := by
    cases fault with
    | wrongClass | notMapping | missingField | unsupportedClass =>
        apply refusal_of_text
        unfold Mismatch.text
        rfl
    | notAllowed | noAlternative | unknownKeys => cases named
  collected path value alternatives := by
    have each : ∀ error ∈ alternatives.flatMap (Shape.complaint (refusal classes objects) path value),
        error.HasText classes objects := by
      intro error member
      obtain ⟨shape, -, complained⟩ := List.mem_flatMap.mp member
      unfold Shape.complaint at complained
      split at complained
      · cases complained
      · split at complained
        · rename_i failed
          obtain rfl := List.mem_singleton.mp complained
          exact (loadWith_hasText _ _ _).error failed
        · cases complained
    obtain ⟨texts, written⟩ := texts_of_hasText each
    apply refusal_of_text
    unfold Mismatch.text
    rw [written]
    rfl

end Texts

/-! ### What loading comes to -/

/-- Loading a value by a shape comes to loading a part of it by a part of the shape: to the
alternatives of a union as long as the earlier ones give way, and to the fields of a record that are
present, if there are no other keys, as long as the earlier ones are loaded. -/
inductive Comes (refuse : Refusal) : String → Value → Shape → String → Value → Shape → Prop where
  | here (path : String) (value : Value) (shape : Shape) :
      Comes refuse path value shape path value shape
  | alternative {path place : String} {value found : Value} {before after : List Shape}
      {shape inner : Shape}
      (earlier : ∀ other ∈ before, givesWay (other.offer refuse path value) = true)
      (later : Comes refuse path value shape place found inner) :
      Comes refuse path value (.union (before ++ shape :: after)) place found inner
  | field {path name fieldName place : String} {entries : List (Value × Value)}
      {value found : Value} {before after : List (String × Shape × Option Value)}
      {shape inner : Shape} {default? : Option Value} {rule : RecordRule}
      (known : unknownKeys ((before ++ (fieldName, shape, default?) :: after).map (·.1)) entries = [])
      (earlier : ∀ other ∈ before, ∃ loaded, loadField refuse path entries other = .ok loaded)
      (present : Value.get? entries fieldName = some value)
      (later : Comes refuse (path ++ "." ++ fieldName) value shape place found inner) :
      Comes refuse path (.map entries)
        (.record name (before ++ (fieldName, shape, default?) :: after) rule) place found inner

section Breaking

variable {classes : Classes} {objects : Objects}

/-- What stops the loading of a value other than by a mismatch: keys of a record that are no fields and
have no order, loaded fields that the rule of the record refuses, and keys or values that a message
would have to show and that cannot be written. -/
inductive Shape.Breaks (classes : Classes) (objects : Objects) : Shape → String → Value → Prop where
  | order {place name : String} {fields : List (String × Shape × Option Value)} {rule : RecordRule}
      {entries : List (Value × Value)}
      (unordered : ¬ Ordered (unknownKeys (fields.map (·.1)) entries)) :
      Breaks classes objects (.record name fields rule) place (.map entries)
  | rule {place name : String} {fields : List (String × Shape × Option Value)} {rule : RecordRule}
      {entries : List (Value × Value)} {loaded : List (String × Loaded)}
      (known : unknownKeys (fields.map (·.1)) entries = [])
      (done : loadFields (refusal classes objects) place entries fields = .ok loaded)
      (refused : rule.Refuses (givenFields entries fields) loaded) :
      Breaks classes objects (.record name fields rule) place (.map entries)
  | keys {place name : String} {fields : List (String × Shape × Option Value)} {rule : RecordRule}
      {entries : List (Value × Value)} {sorted : List Value}
      (unknown : unknownKeys (fields.map (·.1)) entries ≠ [])
      (ordered : orderKeys (unknownKeys (fields.map (·.1)) entries) = .ok sorted)
      (unwritable : (Mismatch.unknownKeys sorted).Unwritable classes objects) :
      Breaks classes objects (.record name fields rule) place (.map entries)
  | value {place : String} {found : Value} {allowed : List Value}
      (other : (allowed.any fun candidate => candidate.equals found) = false)
      (unwritable : (Mismatch.notAllowed allowed found).Unwritable classes objects) :
      Breaks classes objects (.literal allowed) place found

theorem Shape.Breaks.fails {shape : Shape} {place : String} {found : Value}
    (breaks : shape.Breaks classes objects place found) :
    FailsOtherwise (shape.loadWith (refusal classes objects) place found) := by
  cases breaks with
  | order unordered =>
      obtain ⟨left, right, failed⟩ := orderKeys_of_unordered unordered
      rw [load_record_of_unknown, failed]
      · exact failsOtherwise_error_iff.mpr rfl
      · intro empty
        rw [empty] at unordered
        exact unordered .nil
  | rule known done refused =>
      rw [load_record_of_known known, done]
      apply failsOtherwise_bind_iff.mpr
      refine .inr ⟨_, rfl, failsOtherwise_bind_iff.mpr (.inl ?_)⟩
      exact applyRule_fails_iff.mpr refused
  | keys unknown ordered unwritable =>
      rw [load_record_of_unknown unknown, ordered]
      apply failsOtherwise_error_iff.mpr
      exact refusal_stays_iff.mpr unwritable
  | value other unwritable =>
      unfold Shape.loadWith requireAllowed
      rw [other, if_neg Bool.false_ne_true]
      apply failsOtherwise_error_iff.mpr
      exact refusal_stays_iff.mpr unwritable

/-- What breaks stops the loading of everything that comes to it. -/
theorem Comes.fails {path place : String} {value found : Value} {shape inner : Shape}
    (comes : Comes (refusal classes objects) path value shape place found inner)
    (breaks : inner.Breaks classes objects place found) :
    FailsOtherwise (shape.loadWith (refusal classes objects) path value) := by
  induction comes with
  | here => exact breaks.fails
  | @alternative path place value found before after shape inner earlier later ih =>
      apply (load_union_fails_iff (refusal_sound classes objects)).mpr
      exact ⟨before, shape, after, rfl, earlier, ih breaks⟩
  | @field path name fieldName place entries value found before after shape inner default? rule
      known earlier present later ih =>
      obtain ⟨error, failed, stays⟩ := ih breaks
      have here : loadField (refusal classes objects) path entries (fieldName, shape, default?) =
          .error error := by
        rw [loadField_present present, failed]
        rfl
      rw [load_record_of_known known, loadFields_eq_mapM, mapM_of_first earlier here]
      exact failsOtherwise_error_iff.mpr stays

/-- A shape without parts stops only at a value that it does not allow and that cannot be written. -/
theorem Shape.breaks_of_single {shape : Shape}
    (noUnion : ∀ alternatives, shape ≠ .union alternatives)
    (noRecord : ∀ name fields rule, shape ≠ .record name fields rule) {path : String} {value : Value}
    (fails : FailsOtherwise (shape.loadWith (refusal classes objects) path value)) :
    shape.Breaks classes objects path value := by
  have named := (refusal_sound classes objects).named path
  cases shape with
  | union alternatives => exact absurd rfl (noUnion alternatives)
  | record name fields rule => exact absurd rfl (noRecord name fields rule)
  | anything =>
      unfold Shape.loadWith at fails
      exact absurd fails (not_failsOtherwise_ok _)
  | null | unsupported name =>
      unfold Shape.loadWith at fails
      rw [named (.unsupportedClass _) trivial] at fails
      cases failsOtherwise_error_iff.mp fails
  | text | integer | double | boolean =>
      unfold Shape.loadWith requireClass at fails
      split at fails
      · exact absurd fails (not_failsOtherwise_ok _)
      · rw [named (.wrongClass _ _) trivial] at fails
        cases failsOtherwise_error_iff.mp fails
  | literal allowed =>
      unfold Shape.loadWith requireAllowed at fails
      split at fails
      · exact absurd fails (not_failsOtherwise_ok _)
      · rename_i other
        apply Shape.Breaks.value (Bool.eq_false_iff.mpr other)
        exact refusal_stays_iff.mp (failsOtherwise_error_iff.mp fails)

/-- Loading that fails otherwise than by a mismatch has come to something that breaks. -/
theorem Shape.exists_breaks (shape : Shape) {path : String} {value : Value}
    (fails : FailsOtherwise (shape.loadWith (refusal classes objects) path value)) :
    ∃ place found inner, Comes (refusal classes objects) path value shape place found inner ∧
      inner.Breaks classes objects place found := by
  have sound := refusal_sound classes objects
  induction shape using Shape.induction generalizing path value with
  | union alternatives ih =>
      obtain ⟨before, shape, after, rfl, earlier, fails⟩ := (load_union_fails_iff sound).mp fails
      obtain ⟨place, found, inner, comes, breaks⟩ := ih shape (by simp) fails
      exact ⟨place, found, inner, .alternative earlier comes, breaks⟩
  | record name fields rule ih =>
      cases isMap : value.isMap with
      | false =>
          rw [load_record_of_noMap isMap, sound.named _ (.notMapping _ _) trivial] at fails
          cases failsOtherwise_error_iff.mp fails
      | true =>
          obtain ⟨entries, rfl⟩ := exists_entries isMap
          by_cases known : unknownKeys (fields.map (·.1)) entries = []
          · rw [load_record_of_known known, failsOtherwise_bind_iff] at fails
            rcases fails with ⟨error, failed, stays⟩ | ⟨loaded, done, fails⟩
            · rw [loadFields_eq_mapM] at failed
              obtain ⟨before, ⟨fieldName, shape, default?⟩, after, rfl, earlier, failed⟩ :=
                exists_first_of_mapM failed
              obtain ⟨value, present, fails⟩ := loadField_fails sound ⟨error, failed, stays⟩
              obtain ⟨place, found, inner, comes, breaks⟩ :=
                ih (fieldName, shape, default?) (by simp) fails
              exact ⟨place, found, inner, .field known earlier present comes, breaks⟩
            · rw [failsOtherwise_bind_iff] at fails
              rcases fails with fails | ⟨stored, -, impossible⟩
              · have refused := applyRule_fails_iff.mp fails
                exact ⟨path, .map entries, _, .here _ _ _, .rule known done refused⟩
              · exact absurd impossible (not_failsOtherwise_ok _)
          · rw [load_record_of_unknown known, failsOtherwise_bind_iff] at fails
            rcases fails with ⟨error, failed, -⟩ | ⟨sorted, done, fails⟩
            · refine ⟨path, .map entries, _, .here _ _ _, .order fun ordered => ?_⟩
              obtain ⟨sorted, done⟩ := orderKeys_of_ordered ordered
              cases done.symm.trans failed
            · refine ⟨path, .map entries, _, .here _ _ _, .keys known done ?_⟩
              exact refusal_stays_iff.mp (failsOtherwise_error_iff.mp fails)
  | single shape noUnion noRecord =>
      exact ⟨path, value, shape, .here _ _ _, Shape.breaks_of_single noUnion noRecord fails⟩

end Breaking

/-- A value is loaded, or refused by an error about its place, unless the loading comes to something
that breaks it.  A union ends as the first of its alternatives that does not give way, and they give
way by every error of that kind; if all do, the union says why. -/
theorem load_fails_otherwise_iff (classes : Classes) (objects : Objects) (path : String)
    (value : Value) :
    (∀ shape : Shape, FailsOtherwise (shape.loadWith (refusal classes objects) path value) ↔
      ∃ place found inner, Comes (refusal classes objects) path value shape place found inner ∧
        inner.Breaks classes objects place found) ∧
    ∀ alternatives : List Shape,
      (Shape.union alternatives).loadWith (refusal classes objects) path value =
        match (alternatives.map (Shape.offer (refusal classes objects) path value)).find?
          (!givesWay ·) with
        | some result => result
        | none => .error (.mismatch path (.noAlternative
            (alternatives.flatMap (Shape.complaint (refusal classes objects) path value)))) := by
  refine ⟨fun shape => ⟨shape.exists_breaks, ?_⟩, load_union path value (refusal_sound _ _)⟩
  rintro ⟨place, found, inner, comes, breaks⟩
  exact comes.fails breaks

/-- A point on a line. -/
def pointShape : Shape :=
  .record "Point" [("x", .integer, none)] .free

/-- Two keys without an order stop a union in front of an alternative that takes everything, and so
does a line terminator with an unknown name, for which no place is named. -/
theorem union_stops_early :
    (Shape.union [pointShape, .anything]).loadWith (refusal {} {}) "$"
        (.map [(.integer 0, .integer 1), (.text "b", .integer 2)]) =
      .error (.unorderedKeys "str" "int") ∧
    settingsShape.loadWith (refusal {} {}) "$" (.map [(.text "line_terminator", .text "tab")]) =
      .error (.terminator ⟨"tab"⟩) ∧
    (Shape.union [settingsShape, .anything]).loadWith (refusal {} {}) "$"
        (.map [(.text "line_terminator", .text "tab")]) = .error (.terminator ⟨"tab"⟩) := by
  refine ⟨?_, ?_, ?_⟩
  all_goals cbv

end Stencil.Config
