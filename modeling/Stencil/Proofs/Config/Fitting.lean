/-
Module: Stencil.Proofs.Config.Fitting
Purpose: Which values are loaded by a shape, what they are loaded as, and which place is named where
  one does not fit.
Main exports: Fits, LoadsAs, Offends, Shape.Exact, Shape.Unruled, Value.TextKeyed, load_exact
-/
import Stencil.Proofs.Config.Loading

namespace Stencil.Config

/-! ### What fits -/

/-- A value fits a shape.  Null is an alternative of unions only, and nothing fits a class of values
that cannot be loaded. -/
inductive Fits : Shape → Value → Prop where
  | text (characters : String) : Fits .text (.text characters)
  | integer (number : Int) : Fits .integer (.integer number)
  | double (number : Double) : Fits .double (.double number)
  | derivedDouble (className : String) (number : Double) :
      Fits .double (.derivedDouble className number)
  | boolean (flag : Bool) : Fits .boolean (.boolean flag)
  | anything (value : Value) : Fits .anything value
  | literal {allowed : List Value} {candidate value : Value} (member : candidate ∈ allowed)
      (same : candidate.equals value = true) : Fits (.literal allowed) value
  | alternative {alternatives : List Shape} {shape : Shape} {value : Value}
      (member : shape ∈ alternatives) (fits : Fits shape value) : Fits (.union alternatives) value
  | nothing {alternatives : List Shape} (member : Shape.null ∈ alternatives) :
      Fits (.union alternatives) .null
  | record {name : String} {fields : List (String × Shape × Option Value)} {rule : RecordRule}
      {entries : List (Value × Value)}
      (known : ∀ entry ∈ entries, ∃ field ∈ fields, entry.1 = .text field.1)
      (present : ∀ field ∈ fields, ∀ value, Value.get? entries field.1 = some value →
        Fits field.2.1 value)
      (absent : ∀ field ∈ fields, Value.get? entries field.1 = none →
        ∃ value, field.2.2 = some value) :
      Fits (.record name fields rule) (.map entries)

/-- An alternative of a union takes a value: the value fits it, or it is null and so is the value. -/
def Takes (value : Value) (shape : Shape) : Prop :=
  Fits shape value ∨ shape = .null ∧ value = .null

/-- What a value is loaded as: a value without fields as it is, by the first alternative that takes it,
and as a record with what its entries are loaded as and the defaults of the other fields. -/
inductive LoadsAs : Shape → Value → Loaded → Prop where
  | plain {shape : Shape} {value : Value} (noUnion : ∀ alternatives, shape ≠ .union alternatives)
      (noRecord : ∀ name fields rule, shape ≠ .record name fields rule) (fits : Fits shape value) :
      LoadsAs shape value (.plain value)
  | alternative {before after : List Shape} {shape : Shape} {value : Value} {loaded : Loaded}
      (earlier : ∀ other ∈ before, ¬ Takes value other) (first : LoadsAs shape value loaded) :
      LoadsAs (.union (before ++ shape :: after)) value loaded
  | nothing {before after : List Shape} (earlier : ∀ other ∈ before, ¬ Takes .null other) :
      LoadsAs (.union (before ++ .null :: after)) .null (.plain .null)
  | record {name : String} {fields : List (String × Shape × Option Value)} {rule : RecordRule}
      {entries : List (Value × Value)} (part : String × Shape × Option Value → Loaded)
      (known : ∀ entry ∈ entries, ∃ field ∈ fields, entry.1 = .text field.1)
      (present : ∀ field ∈ fields, ∀ value, Value.get? entries field.1 = some value →
        LoadsAs field.2.1 value (part field))
      (absent : ∀ field ∈ fields, Value.get? entries field.1 = none →
        ∃ value, field.2.2 = some value ∧ part field = .plain value) :
      LoadsAs (.record name fields rule) (.map entries)
        (.record name (fields.map fun field => (field.1, part field)))

/-- A field of a record is given a value that fits, or has a default instead. -/
structure FieldFits (entries : List (Value × Value)) (field : String × Shape × Option Value) :
    Prop where
  present : ∀ value, Value.get? entries field.1 = some value → Fits field.2.1 value
  absent : Value.get? entries field.1 = none → ∃ value, field.2.2 = some value

/-- The first place, from a path on, at which a value does not fit a shape: the value itself, or, where
a mapping has no keys but those of the fields of a record, the first of these fields in their order
that is absent without a default or whose value does not fit. -/
inductive Offends : String → Value → Shape → String → Prop where
  | whole {path : String} {value : Value} {shape : Shape}
      (noRecord : ∀ name fields rule, shape ≠ .record name fields rule)
      (misfit : ¬ Fits shape value) : Offends path value shape path
  | noMapping {path name : String} {value : Value} {fields : List (String × Shape × Option Value)}
      {rule : RecordRule} (noMap : value.isMap = false) :
      Offends path value (.record name fields rule) path
  | unknownKey {path name : String} {entries : List (Value × Value)} {entry : Value × Value}
      {fields : List (String × Shape × Option Value)} {rule : RecordRule}
      (member : entry ∈ entries) (unknown : ∀ field ∈ fields, entry.1 ≠ .text field.1) :
      Offends path (.map entries) (.record name fields rule) path
  | missing {path name fieldName : String} {entries : List (Value × Value)} {shape : Shape}
      {before after : List (String × Shape × Option Value)} {rule : RecordRule}
      (known : ∀ entry ∈ entries, ∃ field ∈ before ++ (fieldName, shape, none) :: after,
        entry.1 = .text field.1)
      (earlier : ∀ field ∈ before, FieldFits entries field)
      (absent : Value.get? entries fieldName = none) :
      Offends path (.map entries)
        (.record name (before ++ (fieldName, shape, none) :: after) rule)
        (path ++ "." ++ fieldName)
  | field {path name fieldName place : String} {entries : List (Value × Value)} {value : Value}
      {before after : List (String × Shape × Option Value)} {shape : Shape}
      {default? : Option Value} {rule : RecordRule}
      (known : ∀ entry ∈ entries, ∃ field ∈ before ++ (fieldName, shape, default?) :: after,
        entry.1 = .text field.1)
      (earlier : ∀ field ∈ before, FieldFits entries field)
      (present : Value.get? entries fieldName = some value)
      (later : Offends (path ++ "." ++ fieldName) value shape place) :
      Offends path (.map entries)
        (.record name (before ++ (fieldName, shape, default?) :: after) rule) place

/-- A failure that says where a value does not have its shape. -/
def LoadError.IsMismatch (error : LoadError) : Prop :=
  ∃ place fault, error = .mismatch place fault

/-- Loading a value by a shape ends as it fits, with what it is loaded as, or with a mismatch at the
first place that does not fit. -/
structure Shape.Exact (shape : Shape) (path : String) (value : Value) : Prop where
  ends : Ends (fun _ => True) LoadError.IsMismatch (shape.loadWith .mismatch path value)
  fits : (∃ loaded, shape.loadWith .mismatch path value = .ok loaded) ↔ Fits shape value
  loads : ∀ loaded, shape.loadWith .mismatch path value = .ok loaded ↔ LoadsAs shape value loaded
  offends : ∀ place, (∃ fault, shape.loadWith .mismatch path value = .error (.mismatch place fault)) ↔
    Offends path value shape place

/-- What ends with a mismatch, if not with a value. -/
theorem ok_or_mismatch {α : Type} {result : Except LoadError α}
    (ends : Ends (fun _ => True) LoadError.IsMismatch result) :
    (∃ value, result = .ok value) ∨ ∃ place fault, result = .error (.mismatch place fault) := by
  cases result with
  | ok value => exact .inl ⟨value, rfl⟩
  | error error =>
      obtain ⟨place, fault, rfl⟩ := ends
      exact .inr ⟨place, fault, rfl⟩

/-- Where every mismatch is raised as it is, unions are refused with the failures of all their
alternatives. -/
theorem mismatch_sound : Refusal.Sound LoadError.mismatch :=
  ⟨fun _ _ _ => rfl, fun _ _ _ => rfl⟩

/-! ### Shapes without parts -/

/-- A scalar fits the shape of its class only. -/
theorem isScalarOf_iff {shape : Shape} (scalar : shape ∈ [.text, .integer, .double, .boolean])
    {value : Value} : isScalarOf shape.name value = true ↔ Fits shape value := by
  simp only [List.mem_cons, List.not_mem_nil, or_false] at scalar
  rcases scalar with rfl | rfl | rfl | rfl
  all_goals
    constructor
    · intro ofClass
      cases value
      all_goals first | constructor | simp [isScalarOf, Shape.name] at ofClass
    · intro fits
      cases fits
      all_goals rfl

theorem literal_iff {allowed : List Value} {value : Value} :
    (allowed.any fun candidate => candidate.equals value) = true ↔
      Fits (.literal allowed) value := by
  rw [List.any_eq_true]
  constructor
  · rintro ⟨candidate, member, same⟩
    exact .literal member same
  · rintro ⟨⟩
    exact ⟨_, ‹_ ∈ allowed›, ‹_ = true›⟩

/-- A shape without parts takes the value as it is, or refuses it where it stands. -/
theorem load_single_iff {shape : Shape} (noUnion : ∀ alternatives, shape ≠ .union alternatives)
    (noRecord : ∀ name fields rule, shape ≠ .record name fields rule) (path : String)
    (value : Value) :
    shape.loadWith .mismatch path value = .ok (.plain value) ∧ Fits shape value ∨
      (∃ fault, shape.loadWith .mismatch path value = .error (.mismatch path fault)) ∧
        ¬ Fits shape value := by
  have fits : shape.loadWith .mismatch path value = .ok (.plain value) ↔ Fits shape value := by
    cases shape with
    | union alternatives => exact absurd rfl (noUnion alternatives)
    | record name fields rule => exact absurd rfl (noRecord name fields rule)
    | text | integer | double | boolean =>
        rw [← isScalarOf_iff (by simp)]
        unfold Shape.loadWith requireClass Shape.name
        split <;> simp_all
    | literal allowed =>
        rw [← literal_iff]
        unfold Shape.loadWith requireAllowed
        split <;> simp_all
    | anything =>
        unfold Shape.loadWith
        exact iff_of_true rfl (.anything value)
    | null | unsupported name =>
        unfold Shape.loadWith
        refine iff_of_false ?_ fun fits => ?_
        · intro loaded
          cases loaded
        · cases fits
  rcases load_single LoadError.mismatch noUnion noRecord path value with loaded | ⟨fault, refused⟩
  · exact .inl ⟨loaded, fits.mp loaded⟩
  · refine .inr ⟨⟨fault, refused⟩, fun fit => ?_⟩
    cases refused.symm.trans (fits.mpr fit)

theorem Shape.exact_single {shape : Shape} (noUnion : ∀ alternatives, shape ≠ .union alternatives)
    (noRecord : ∀ name fields rule, shape ≠ .record name fields rule) (path : String)
    (value : Value) : shape.Exact path value := by
  rcases load_single_iff noUnion noRecord path value with ⟨loaded, fits⟩ | ⟨⟨fault, refused⟩, misfit⟩
  · refine ⟨?_, iff_of_true ⟨_, loaded⟩ fits, fun result => ?_, fun place => ?_⟩
    · rw [loaded]
      trivial
    · rw [loaded]
      constructor
      · rintro ⟨⟩
        exact .plain noUnion noRecord fits
      · intro loads
        cases loads with
        | plain => rfl
        | alternative | nothing => exact absurd rfl (noUnion _)
        | record => exact absurd rfl (noRecord _ _ _)
    · rw [loaded]
      refine iff_of_false nofun fun offends => ?_
      cases offends with
      | whole _ misfit => exact misfit fits
      | noMapping | unknownKey | missing | field => exact absurd rfl (noRecord _ _ _)
  · refine ⟨?_, iff_of_false ?_ misfit, fun result => iff_of_false ?_ fun loads => ?_,
      fun place => ?_⟩
    · rw [refused]
      exact ⟨_, _, rfl⟩
    · rw [refused]
      nofun
    · rw [refused]
      nofun
    · cases loads with
      | plain _ _ fits => exact misfit fits
      | alternative | nothing => exact absurd rfl (noUnion _)
      | record => exact absurd rfl (noRecord _ _ _)
    · rw [refused]
      constructor
      · rintro ⟨_, same⟩
        cases same
        exact .whole noRecord misfit
      · intro offends
        cases offends with
        | whole => exact ⟨fault, rfl⟩
        | noMapping | unknownKey | missing | field => exact absurd rfl (noRecord _ _ _)

/-! ### Unions -/

section Union

variable {path : String} {value : Value} {alternatives : List Shape}

/-- An alternative gives way exactly if it does not take the value. -/
theorem givesWay_offer_iff {shape : Shape} (exact : shape.Exact path value) :
    givesWay (shape.offer .mismatch path value) = true ↔ ¬ Takes value shape := by
  by_cases isNull : shape = .null
  · subst isNull
    have never : ¬ Fits .null value := nofun
    cases value with
    | null => exact iff_of_false nofun fun refuses => refuses (.inr ⟨rfl, rfl⟩)
    | _ => exact iff_of_true rfl fun takes => takes.elim never fun both => nomatch both.2
  · have offered : shape.offer .mismatch path value = shape.loadWith .mismatch path value := by
      unfold Shape.offer
      split
      · contradiction
      · rfl
    have fits : Takes value shape ↔ Fits shape value :=
      or_iff_left fun both => isNull both.1
    rw [offered, fits, ← exact.fits]
    rcases ok_or_mismatch exact.ends with ⟨result, loaded⟩ | ⟨place, fault, refused⟩
    · rw [loaded]
      exact iff_of_false nofun fun refuses => refuses ⟨result, rfl⟩
    · rw [refused]
      exact iff_of_true rfl fun ⟨result, impossible⟩ => nomatch impossible

/-- An alternative ends as the loading by its shape does. -/
theorem offer_ends {shape : Shape} (exact : shape.Exact path value) :
    Ends (fun _ => True) LoadError.IsMismatch (shape.offer .mismatch path value) := by
  unfold Shape.offer
  split
  · split
    · trivial
    · exact ⟨_, _, rfl⟩
  · exact exact.ends

/-- What an alternative makes of a value that it takes. -/
theorem offer_ok_iff {shape : Shape} (exact : shape.Exact path value) {loaded : Loaded} :
    shape.offer .mismatch path value = .ok loaded ↔
      LoadsAs shape value loaded ∨ shape = .null ∧ value = .null ∧ loaded = .plain .null := by
  by_cases isNull : shape = .null
  · subst isNull
    have never : ¬ LoadsAs .null value loaded := by
      intro loads
      cases loads with
      | plain _ _ fits => cases fits
    rw [or_iff_right never]
    cases value with
    | null => simp [Shape.offer, Value.isNull, eq_comm]
    | _ => simp [Shape.offer, Value.isNull]
  · have offered : shape.offer .mismatch path value = shape.loadWith .mismatch path value := by
      unfold Shape.offer
      split
      · contradiction
      · rfl
    rw [offered, exact.loads, or_iff_left fun both => isNull both.1]

variable (each : ∀ shape ∈ alternatives, shape.Exact path value)

include each

theorem loadsAs_union_iff {loaded : Loaded} :
    (Shape.union alternatives).loadWith .mismatch path value = .ok loaded ↔
      LoadsAs (.union alternatives) value loaded := by
  rw [load_union_eq_iff mismatch_sound rfl]
  constructor
  · rintro ⟨before, shape, after, rfl, earlier, offered⟩
    have refuses : ∀ other ∈ before, ¬ Takes value other := fun other member =>
      (givesWay_offer_iff (each other (by simp [member]))).mp (earlier other member)
    rcases (offer_ok_iff (each shape (by simp))).mp offered with loads | ⟨rfl, rfl, rfl⟩
    · exact .alternative refuses loads
    · exact .nothing refuses
  · intro loads
    generalize isUnion : Shape.union alternatives = whole at loads
    cases loads with
    | plain noUnion => exact absurd isUnion.symm (noUnion alternatives)
    | record => cases isUnion
    | @alternative before after shape _ _ refuses loads =>
        cases isUnion
        refine ⟨before, shape, after, rfl, fun other member => ?_, ?_⟩
        · exact (givesWay_offer_iff (each other (by simp [member]))).mpr (refuses other member)
        · exact (offer_ok_iff (each shape (by simp))).mpr (.inl loads)
    | @nothing before after refuses =>
        cases isUnion
        refine ⟨before, .null, after, rfl, fun other member => ?_, rfl⟩
        exact (givesWay_offer_iff (each other (by simp [member]))).mpr (refuses other member)

omit each in
/-- A value fits a union if some alternative takes it. -/
theorem fits_union_iff :
    Fits (.union alternatives) value ↔ ∃ shape ∈ alternatives, Takes value shape := by
  constructor
  · rintro (_ | _)
    · exact ⟨_, ‹_ ∈ alternatives›, .inl ‹_›⟩
    · exact ⟨.null, ‹_ ∈ alternatives›, .inr ⟨rfl, rfl⟩⟩
  · rintro ⟨shape, member, fits | ⟨rfl, rfl⟩⟩
    · exact .alternative member fits
    · exact .nothing member

theorem Shape.exact_union : (Shape.union alternatives).Exact path value := by
  have ends : Ends (fun _ => True) LoadError.IsMismatch
      ((Shape.union alternatives).loadWith .mismatch path value) := by
    rw [load_union path value mismatch_sound]
    split
    · rename_i result found
      have stays := List.find?_some found
      obtain ⟨shape, member, rfl⟩ := List.mem_map.mp (List.mem_of_find?_eq_some found)
      cases offered : shape.offer .mismatch path value with
      | ok loaded => trivial
      | error error =>
          obtain ⟨place, fault, rfl⟩ := (offer_ends (each shape member)).error offered
          rw [offered] at stays
          cases stays
    · exact ⟨_, _, rfl⟩
  have refused : ∀ {place fault},
      (Shape.union alternatives).loadWith .mismatch path value = .error (.mismatch place fault) →
        place = path ∧ ∀ shape ∈ alternatives,
          givesWay (shape.offer .mismatch path value) = true := by
    intro place fault failed
    obtain ⟨⟨_, same⟩, all⟩ := load_union_gives_way mismatch_sound failed rfl
    cases same
    exact ⟨rfl, all⟩
  have fits : (∃ loaded, (Shape.union alternatives).loadWith .mismatch path value = .ok loaded) ↔
      Fits (.union alternatives) value := by
    rw [fits_union_iff]
    constructor
    · rintro ⟨loaded, ran⟩
      obtain ⟨before, shape, after, rfl, -, offered⟩ :=
        (load_union_eq_iff mismatch_sound rfl).mp ran
      have stays : ¬ givesWay (shape.offer .mismatch path value) = true := by
        simp [offered, givesWay]
      rw [givesWay_offer_iff (each shape (by simp)), not_not] at stays
      exact ⟨shape, by simp, stays⟩
    · rintro ⟨shape, member, takes⟩
      rcases ok_or_mismatch ends with loads | ⟨place, fault, failed⟩
      · exact loads
      · have gives := (refused failed).2 shape member
        exact absurd takes ((givesWay_offer_iff (each shape member)).mp gives)
  refine ⟨ends, fits, fun loaded => loadsAs_union_iff each, fun place => ?_⟩
  constructor
  · rintro ⟨fault, ran⟩
    obtain ⟨rfl, -⟩ := refused ran
    apply Offends.whole
    · intro name fields rule same
      cases same
    · intro fit
      obtain ⟨loaded, ran'⟩ := fits.mpr fit
      rw [ran] at ran'
      cases ran'
  · intro offends
    cases offends with
    | whole _ misfit =>
        rcases ok_or_mismatch ends with loads | ⟨place, fault, failed⟩
        · exact absurd (fits.mp loads) misfit
        · obtain ⟨rfl, -⟩ := refused failed
          exact ⟨fault, failed⟩

end Union

/-! ### Records -/

section Fields

variable {path name : String} {entries : List (Value × Value)} {shape : Shape}
  {default? : Option Value}

variable (exact : ∀ value, Value.get? entries name = some value →
  shape.Exact (path ++ "." ++ name) value)

include exact

/-- A field is loaded as its value is, or as its default. -/
theorem loadField_eq_ok_iff {stored : String × Loaded} :
    loadField .mismatch path entries (name, shape, default?) = .ok stored ↔
      stored.1 = name ∧
      (∀ value, Value.get? entries name = some value → LoadsAs shape value stored.2) ∧
      (Value.get? entries name = none → ∃ value, default? = some value ∧ stored.2 = .plain value) := by
  obtain ⟨storedName, loaded⟩ := stored
  cases given : Value.get? entries name with
  | some value =>
      rw [loadField_present given]
      have loads := (exact value given).loads loaded
      cases ran : shape.loadWith .mismatch (path ++ "." ++ name) value with
      | ok result =>
          rw [ran] at loads
          simp [Except.map, ← loads, eq_comm]
      | error error =>
          rw [ran] at loads
          simp [Except.map, ← loads]
  | none =>
      cases default? with
      | some value => simp [loadField_default given, eq_comm]
      | none => simp [loadField_missing given]

theorem fieldFits_iff :
    FieldFits entries (name, shape, default?) ↔
      ∃ stored, loadField .mismatch path entries (name, shape, default?) = .ok stored := by
  cases given : Value.get? entries name with
  | some value =>
      rw [loadField_present given]
      constructor
      · intro fits
        obtain ⟨loaded, ran⟩ := (exact value given).fits.mpr (fits.present value given)
        exact ⟨(name, loaded), by rw [ran]; rfl⟩
      · rintro ⟨stored, ran⟩
        refine ⟨fun other given' => ?_, fun absent => ?_⟩
        · cases given.symm.trans given'
          cases load : shape.loadWith .mismatch (path ++ "." ++ name) value with
          | ok loaded => exact (exact value given).fits.mp ⟨loaded, load⟩
          | error error =>
              rw [load] at ran
              cases ran
        · cases given.symm.trans absent
  | none =>
      constructor
      · intro fits
        obtain ⟨value, same⟩ := fits.absent given
        cases same
        exact ⟨_, loadField_default given⟩
      · rintro ⟨stored, ran⟩
        refine ⟨fun value given' => ?_, fun _ => ?_⟩
        · cases given.symm.trans given'
        · cases default? with
          | some value => exact ⟨value, rfl⟩
          | none =>
              rw [loadField_missing given] at ran
              cases ran

/-- A field is refused where its value is, or for being absent. -/
theorem loadField_mismatch_iff {place : String} :
    (∃ fault, loadField .mismatch path entries (name, shape, default?) = .error (.mismatch place fault)) ↔
      (∃ value, Value.get? entries name = some value ∧
        Offends (path ++ "." ++ name) value shape place) ∨
      Value.get? entries name = none ∧ default? = none ∧ place = path ++ "." ++ name := by
  cases given : Value.get? entries name with
  | some value =>
      have offends := (exact value given).offends place
      rw [loadField_present given]
      cases ran : shape.loadWith .mismatch (path ++ "." ++ name) value with
      | ok result =>
          rw [ran] at offends
          simp [Except.map, ← offends]
      | error error =>
          rw [ran] at offends
          simp [Except.map, ← offends]
  | none =>
      cases default? with
      | some value => simp [loadField_default given]
      | none => simp [loadField_missing given, eq_comm]

end Fields

section Record

variable {path : String} {fields : List (String × Shape × Option Value)}
  {entries : List (Value × Value)}

theorem unknownKeys_eq_nil_iff :
    unknownKeys (fields.map (·.1)) entries = [] ↔
      ∀ entry ∈ entries, ∃ field ∈ fields, entry.1 = .text field.1 := by
  unfold unknownKeys
  rw [List.filter_eq_nil_iff, List.forall_mem_map]
  refine forall₂_congr fun entry _ => ?_
  cases key : entry.1 with
  | text name =>
      simp only [Bool.not_eq_true, Bool.not_eq_false', List.contains_iff_mem, List.mem_map,
        Value.text.injEq, @eq_comm _ name]
  | _ => simp

/-- Keys that are texts have an order. -/
theorem ordered_of_texts {keys : List Value} (texts : ∀ key ∈ keys, ∃ name, key = .text name) :
    Ordered keys := by
  apply List.Pairwise.imp_of_mem (R := fun _ _ => True)
  · intro left right leftMember rightMember _
    obtain ⟨name, rfl⟩ := texts left leftMember
    obtain ⟨other, rfl⟩ := texts right rightMember
    rfl
  · exact List.pairwise_of_forall fun _ _ => trivial

/-- Work that succeeds on each item gives the items that it makes of them. -/
theorem mapM_eq_map {ε α β : Type} {step : α → Except ε β} {result : α → β} {items : List α}
    (each : ∀ item ∈ items, step item = .ok (result item)) :
    items.mapM step = .ok (items.map result) := by
  induction items with
  | nil => rfl
  | cons item rest ih =>
      obtain ⟨here, later⟩ := List.forall_mem_cons.mp each
      rw [List.mapM_cons, here, ih later]
      rfl

section Map

variable {ε α β : Type} {result : Except ε α} {shape : α → β}

theorem map_eq_ok_iff {mapped : β} :
    result.map shape = .ok mapped ↔ ∃ value, result = .ok value ∧ shape value = mapped := by
  cases result with
  | ok value => simp [Except.map]
  | error error => simp [Except.map]

theorem map_eq_error_iff {error : ε} : result.map shape = .error error ↔ result = .error error := by
  cases result with
  | ok value => simp [Except.map]
  | error other => simp [Except.map]

end Map

/-- Only a mapping is loaded as a record. -/
theorem Shape.exact_noMapping {name : String} {rule : RecordRule} {value : Value}
    (noMap : value.isMap = false) : (Shape.record name fields rule).Exact path value := by
  have refused : (Shape.record name fields rule).loadWith .mismatch path value =
      .error (.mismatch path (.notMapping name value.typeName)) := load_record_of_noMap noMap
  refine ⟨?_, ?_, fun loaded => ?_, fun place => ?_⟩
  all_goals rw [refused]
  · exact ⟨_, _, rfl⟩
  · refine iff_of_false nofun fun fits => ?_
    cases fits
    cases noMap
  · refine iff_of_false nofun fun loads => ?_
    cases loads with
    | plain _ noRecord => exact noRecord _ _ _ rfl
    | record => cases noMap
  · constructor
    · rintro ⟨_, same⟩
      cases same
      exact .noMapping noMap
    · intro offends
      cases offends with
      | noMapping => exact ⟨_, rfl⟩
      | whole noRecord => exact absurd rfl (noRecord _ _ _)
      | unknownKey | missing | field => cases noMap

/-- A mapping with other keys is no record. -/
theorem Shape.exact_unknown {name : String} {rule : RecordRule}
    (texts : ∀ entry ∈ entries, ∃ key, entry.1 = .text key)
    (unknown : ¬ ∀ entry ∈ entries, ∃ field ∈ fields, entry.1 = .text field.1) :
    (Shape.record name fields rule).Exact path (.map entries) := by
  have ordered : Ordered (unknownKeys (fields.map (·.1)) entries) := by
    apply ordered_of_texts
    intro key member
    obtain ⟨entry, isEntry, rfl⟩ := List.mem_map.mp (List.mem_of_mem_filter member)
    exact texts entry isEntry
  obtain ⟨sorted, sorts⟩ := orderKeys_of_ordered ordered
  have refused : (Shape.record name fields rule).loadWith .mismatch path (.map entries) =
      .error (.mismatch path (.unknownKeys sorted)) := by
    rw [load_record_of_unknown fun listed => unknown (unknownKeys_eq_nil_iff.mp listed), sorts]
    rfl
  refine ⟨?_, ?_, fun loaded => ?_, fun place => ?_⟩
  all_goals rw [refused]
  · exact ⟨_, _, rfl⟩
  · refine iff_of_false nofun fun fits => ?_
    cases fits with
    | record known => exact unknown known
  · refine iff_of_false nofun fun loads => ?_
    cases loads with
    | plain _ noRecord => exact noRecord _ _ _ rfl
    | record _ known => exact unknown known
  · constructor
    · rintro ⟨_, same⟩
      cases same
      push Not at unknown
      obtain ⟨entry, member, other⟩ := unknown
      exact .unknownKey member other
    · intro offends
      cases offends with
      | unknownKey => exact ⟨_, rfl⟩
      | whole noRecord => exact absurd rfl (noRecord _ _ _)
      | noMapping noMap => cases noMap
      | missing known | field known => exact absurd known unknown

section Known

variable (exact : ∀ field ∈ fields, ∀ value, Value.get? entries field.1 = some value →
    field.2.1.Exact (path ++ "." ++ field.1) value)
  (known : ∀ entry ∈ entries, ∃ field ∈ fields, entry.1 = .text field.1)

include exact in
/-- The fields of a record are loaded one by one: what is present as it is by itself, and the others
as their defaults. -/
theorem mapM_loadField_eq_ok_iff {stored : List (String × Loaded)} :
    fields.mapM (loadField .mismatch path entries) = .ok stored ↔
      ∃ part : String × Shape × Option Value → Loaded,
        stored = fields.map (fun field => (field.1, part field)) ∧
        (∀ field ∈ fields, ∀ value, Value.get? entries field.1 = some value →
          LoadsAs field.2.1 value (part field)) ∧
        ∀ field ∈ fields, Value.get? entries field.1 = none →
          ∃ value, field.2.2 = some value ∧ part field = .plain value := by
  constructor
  · intro ran
    choose! result here using each_of_mapM ran
    have parts field (member : field ∈ fields) :=
      (loadField_eq_ok_iff (exact field member)).mp (here field member)
    refine ⟨fun field => (result field).2, ?_, fun field member => (parts field member).2.1,
      fun field member => (parts field member).2.2⟩
    cases ran.symm.trans (mapM_eq_map here)
    exact List.map_congr_left fun field member => Prod.ext (parts field member).1 rfl
  · rintro ⟨part, rfl, present, absent⟩
    refine mapM_eq_map fun field member => ?_
    exact (loadField_eq_ok_iff (exact field member)).mpr
      ⟨rfl, present field member, absent field member⟩

include exact in
theorem mapM_loadField_ok_iff :
    (∃ stored, fields.mapM (loadField .mismatch path entries) = .ok stored) ↔
      ∀ field ∈ fields, FieldFits entries field := by
  constructor
  · rintro ⟨stored, ran⟩ field member
    exact (fieldFits_iff (exact field member)).mpr (each_of_mapM ran field member)
  · intro fits
    obtain ⟨stored, ran, -⟩ := mapM_of_each fun field member =>
      (fieldFits_iff (exact field member)).mp (fits field member)
    exact ⟨stored, ran⟩

include known in
/-- Without other keys, and without a rule, a record is what its fields are loaded as. -/
theorem load_record_eq {name : String} :
    (Shape.record name fields .free).loadWith .mismatch path (.map entries) =
      (fields.mapM (loadField .mismatch path entries)).map (Loaded.record name) := by
  rw [load_record_of_known (unknownKeys_eq_nil_iff.mpr known), loadFields_eq_mapM]
  cases fields.mapM (loadField .mismatch path entries) <;> rfl

include known in
theorem fits_record_iff {name : String} {rule : RecordRule} :
    Fits (.record name fields rule) (.map entries) ↔ ∀ field ∈ fields, FieldFits entries field := by
  constructor
  · intro fits
    cases fits with
    | record _ present absent =>
        exact fun field member => ⟨present field member, absent field member⟩
  · intro fits
    exact .record known (fun field member => (fits field member).present)
      fun field member => (fits field member).absent

include exact known in
/-- The first field that does not fit is named. -/
theorem mapM_loadField_mismatch_iff {name place : String} {rule : RecordRule} :
    (∃ fault, fields.mapM (loadField .mismatch path entries) = .error (.mismatch place fault)) ↔
      Offends path (.map entries) (.record name fields rule) place := by
  constructor
  · rintro ⟨fault, ran⟩
    obtain ⟨before, ⟨fieldName, shape, default?⟩, after, rfl, done, refused⟩ :=
      exists_first_of_mapM ran
    have earlier : ∀ field ∈ before, FieldFits entries field := fun field member =>
      (fieldFits_iff (exact field (by simp [member]))).mpr (done field member)
    have here := exact (fieldName, shape, default?) (by simp)
    rcases (loadField_mismatch_iff here).mp ⟨fault, refused⟩ with
      ⟨value, present, offends⟩ | ⟨absent, rfl, rfl⟩
    · exact .field known earlier present offends
    · exact .missing known earlier absent
  · intro offends
    have found {before after : List (String × Shape × Option Value)} {fieldName : String}
        {shape : Shape} {default? : Option Value}
        (split : fields = before ++ (fieldName, shape, default?) :: after)
        (earlier : ∀ field ∈ before, FieldFits entries field)
        (refused : ∃ fault, loadField .mismatch path entries (fieldName, shape, default?) =
          .error (.mismatch place fault)) :
        ∃ fault, fields.mapM (loadField .mismatch path entries) = .error (.mismatch place fault) := by
      subst split
      obtain ⟨fault, refused⟩ := refused
      refine ⟨fault, mapM_of_first (fun field member => ?_) refused⟩
      exact (fieldFits_iff (exact field (by simp [member]))).mp (earlier field member)
    cases offends with
    | whole noRecord => exact absurd rfl (noRecord _ _ _)
    | noMapping noMap => cases noMap
    | unknownKey member unknown =>
        obtain ⟨field, isField, same⟩ := known _ member
        exact absurd same (unknown field isField)
    | missing _ earlier absent =>
        exact found rfl earlier ⟨_, loadField_missing absent⟩
    | @field _ _ fieldName _ _ value _ _ shape default? _ _ earlier present later =>
        have here := exact (fieldName, shape, default?) (by simp)
        exact found rfl earlier ((loadField_mismatch_iff here).mpr (.inl ⟨value, present, later⟩))

include exact in
theorem mapM_loadField_ends :
    Ends (fun _ => True) LoadError.IsMismatch (fields.mapM (loadField .mismatch path entries)) := by
  refine (Ends.mapM (Q := fun _ => True) fun field member => ?_).mono (fun _ _ => trivial)
    fun _ => id
  obtain ⟨name, shape, default?⟩ := field
  refine loadField_ends (fun value given => ?_) ⟨_, _, rfl⟩
  exact (exact (name, shape, default?) member value given).ends

include exact known in
/-- A record without a rule is loaded field by field. -/
theorem Shape.exact_fields {name : String} :
    (Shape.record name fields .free).Exact path (.map entries) := by
  have load : (Shape.record name fields .free).loadWith .mismatch path (.map entries) =
      (fields.mapM (loadField .mismatch path entries)).map (Loaded.record name) := load_record_eq known
  have ends := mapM_loadField_ends exact
  refine ⟨?_, ?_, fun loaded => ?_, fun place => ?_⟩
  · rw [load]
    cases result : fields.mapM (loadField .mismatch path entries) with
    | ok stored => trivial
    | error error => exact ends.error result
  · rw [fits_record_iff known, ← mapM_loadField_ok_iff exact]
    simp only [load, map_eq_ok_iff]
    exact ⟨fun ⟨_, stored, ran, _⟩ => ⟨stored, ran⟩, fun ⟨stored, ran⟩ => ⟨_, stored, ran, rfl⟩⟩
  · rw [load, map_eq_ok_iff]
    constructor
    · rintro ⟨stored, ran, rfl⟩
      obtain ⟨part, rfl, present, absent⟩ := (mapM_loadField_eq_ok_iff exact).mp ran
      exact .record part known present absent
    · intro loads
      cases loads with
      | plain _ noRecord => exact absurd rfl (noRecord _ _ _)
      | record part _ present absent =>
          exact ⟨_, (mapM_loadField_eq_ok_iff exact).mpr ⟨part, rfl, present, absent⟩, rfl⟩
  · simp only [load, map_eq_error_iff]
    exact mapM_loadField_mismatch_iff exact known

end Known

end Record

/-! ### All shapes -/

/-- No record in a shape has a rule of its own. -/
inductive Shape.Unruled : Shape → Prop where
  | union {alternatives : List Shape} (each : ∀ shape ∈ alternatives, shape.Unruled) :
      Unruled (.union alternatives)
  | record {name : String} {fields : List (String × Shape × Option Value)}
      (each : ∀ field ∈ fields, field.2.1.Unruled) : Unruled (.record name fields .free)
  | single {shape : Shape} (noUnion : ∀ alternatives, shape ≠ .union alternatives)
      (noRecord : ∀ name fields rule, shape ≠ .record name fields rule) : Unruled shape

end Stencil.Config

namespace Stencil

/-- The keys of a mapping, and of the mappings in it, are texts. -/
inductive Value.TextKeyed : Value → Prop where
  | map {entries : List (Value × Value)} (texts : ∀ entry ∈ entries, ∃ key, entry.1 = .text key)
      (each : ∀ entry ∈ entries, entry.2.TextKeyed) : TextKeyed (.map entries)
  | other {value : Value} (noMap : value.isMap = false) : TextKeyed value

end Stencil

namespace Stencil.Config

/-- What stands under a key of a mapping stands in one of its entries. -/
theorem exists_entry_of_get? {entries : List (Value × Value)} {key : String} {value : Value}
    (found : Value.get? entries key = some value) : ∃ entry ∈ entries, entry.2 = value := by
  induction entries with
  | nil => cases found
  | cons entry rest ih =>
      unfold Value.get? at found
      split at found
      · contradiction
      · rename_i same
        cases same
        split at found
        · exact ⟨_, List.mem_cons_self, Option.some.inj found⟩
        · obtain ⟨later, member, same⟩ := ih found
          exact ⟨later, List.mem_cons_of_mem _ member, same⟩
      · rename_i same
        cases same
        obtain ⟨later, member, same⟩ := ih found
        exact ⟨later, List.mem_cons_of_mem _ member, same⟩

theorem Shape.Unruled.exact {shape : Shape} (unruled : shape.Unruled) {value : Value}
    (keyed : value.TextKeyed) (path : String) : shape.Exact path value := by
  induction shape using Shape.induction generalizing value path with
  | union alternatives ih =>
      cases unruled with
      | union each =>
          exact Shape.exact_union fun shape member => ih shape member (each shape member) keyed path
      | single noUnion => exact absurd rfl (noUnion _)
  | record name fields rule ih =>
      cases unruled with
      | single _ noRecord => exact absurd rfl (noRecord _ _ _)
      | record each =>
          cases keyed with
          | other noMap => exact Shape.exact_noMapping noMap
          | @map entries texts inner =>
              by_cases known : ∀ entry ∈ entries, ∃ field ∈ fields, entry.1 = .text field.1
              · refine Shape.exact_fields (fun field member value present => ?_) known
                obtain ⟨entry, isEntry, rfl⟩ := exists_entry_of_get? present
                exact ih field member (each field member) (inner entry isEntry) _
              · exact Shape.exact_unknown texts known
  | single shape noUnion noRecord => exact Shape.exact_single noUnion noRecord path value

end Stencil.Config
