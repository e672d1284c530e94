/-
Module: Stencil.Proofs.Property.Environment
Purpose: Variables over a base value, what paths mean there, and the models that stand for them.
Main exports: Environment, Environment.resolve, Environment.Represents, getValue_settles
-/
import Stencil.Proofs.Property.Calm

namespace Stencil

variable {family : Family}

/-! ### Environments -/

/-- A base value and variables, of which the first one with a name counts. -/
structure Environment where
  base : Value
  bindings : List (String × Value) := []

/-- Look the later segments of a path up, each in the value of the one before.  `done` are the
segments that led to `current`, in reverse. -/
def World.walk (world : World) (path : String) :
    List String → Value → List String → Except LookupError Value
  | _, current, [] => .ok current
  | done, current, segment :: rest =>
      if current.isNull then .error (.nullIntermediate (joinPath done.reverse) path)
      else world.walk path (segment :: done) (world.property current segment) rest

namespace Environment

/-- The environment with one more variable in front. -/
def bind (environment : Environment) (name : String) (item : Value) : Environment :=
  { environment with bindings := (name, item) :: environment.bindings }

/-- The value of a name: a variable, else a property of the base. -/
def first (world : World) (environment : Environment) (name : String) : Value :=
  (environment.bindings.lookup name).getD (world.property environment.base name)

/-- The value of a path. -/
def resolve (world : World) (environment : Environment) (path : String) :
    Except LookupError Value :=
  if (pathSegments path).any (·.isEmpty) then .error (.invalidPath path)
  else
    match pathSegments path with
    | [] => .error (.invalidPath path)
    | segment :: rest => world.walk path [segment] (environment.first world segment) rest

/-- Everything in an environment is calm. -/
structure Calm (family : Family) (environment : Environment) : Prop where
  base : environment.base.Calm family
  bindings : ∀ entry ∈ environment.bindings, entry.2.Calm family

theorem Calm.bind {environment : Environment} (calm : environment.Calm family)
    {item : Value} (itemCalm : item.Calm family) (name : String) :
    (environment.bind name item).Calm family :=
  ⟨calm.base, List.forall_mem_cons.mpr ⟨itemCalm, calm.bindings⟩⟩

theorem Calm.first {world : World} {environment : Environment} (worldCalm : world.Calm family)
    (calm : environment.Calm family) (name : String) : (environment.first world name).Calm family := by
  unfold Environment.first
  cases found : environment.bindings.lookup name with
  | none => exact worldCalm.property calm.base name
  | some value => exact calm.bindings _ (mem_of_lookup found)

end Environment

theorem World.walk_calm {world : World} (worldCalm : world.Calm family) {path : String}
    {done rest : List String} {current result : Value} (calm : current.Calm family)
    (walked : world.walk path done current rest = .ok result) : result.Calm family := by
  induction rest generalizing done current with
  | nil =>
      cases walked
      exact calm
  | cons segment rest ih =>
      unfold World.walk at walked
      split at walked
      · cases walked
      · exact ih (worldCalm.property calm segment) walked

/-- The failures that a dotted path has by itself: it has an empty segment, or ends early at null. -/
def LookupError.OfPath : LookupError → Prop
  | .invalidPath _ | .nullIntermediate _ _ => True
  | _ => False

theorem LookupError.OfPath.isResolution {error : LookupError} (ofPath : error.OfPath) :
    error.isResolution := by
  cases error with
  | invalidPath | nullIntermediate => rfl
  | _ => exact ofPath.elim

/-- A walk fails at null only. -/
theorem World.walk_fails {world : World} {path : String} {done rest : List String}
    {current : Value} {error : LookupError}
    (walked : world.walk path done current rest = .error error) : error.OfPath := by
  induction rest generalizing done current with
  | nil => cases walked
  | cons segment rest ih =>
      unfold World.walk at walked
      split at walked
      · cases walked
        trivial
      · exact ih walked

namespace Environment

theorem resolve_calm {world : World} {environment : Environment} (worldCalm : world.Calm family)
    (calm : environment.Calm family) {path : String} {result : Value}
    (resolved : environment.resolve world path = .ok result) : result.Calm family := by
  unfold resolve at resolved
  split at resolved
  · cases resolved
  · split at resolved
    · cases resolved
    · exact World.walk_calm worldCalm (calm.first worldCalm _) resolved

theorem resolve_fails {world : World} {environment : Environment} {path : String}
    {error : LookupError} (resolved : environment.resolve world path = .error error) :
    error.OfPath := by
  unfold resolve at resolved
  split at resolved
  · cases resolved
    trivial
  · split at resolved
    · cases resolved
      trivial
    · exact World.walk_fails resolved

/-! ### Models for environments -/

/-- The models that stand for an environment: a mapping into which the variables have been put, a
value without variables, or a loop scope over a value that is no mapping. -/
inductive Represents (environment : Environment) : Model → Prop where
  | overMap {original entries : List (Value × Value)} (base : environment.base = .map original)
      (agree : ∀ key, Value.get? entries key =
        (environment.bindings.lookup key).or (Value.get? original key)) :
      Represents environment (.value (.map entries))
  | plain (noMap : environment.base.isMap = false) (noneBound : environment.bindings = []) :
      Represents environment (.value environment.base)
  | overScope {scope : LoopScope} (base : environment.base = scope.base)
      (noMap : scope.base.isMap = false) (noNull : scope.base.isNull = false)
      (agree : ∀ key, scope.bound? key = environment.bindings.lookup key) :
      Represents environment (.scope scope)

/-- A value stands for itself. -/
theorem Represents.start (value : Value) :
    Represents ⟨value, []⟩ (.value value) := by
  cases value with
  | map entries => exact .overMap rfl fun key => rfl
  | _ => exact .plain rfl rfl

theorem Represents.isNull {environment : Environment} {model : Model}
    (stands : environment.Represents model) : model.isNull = environment.base.isNull := by
  cases stands with
  | overMap base agree =>
      rw [base]
      rfl
  | plain noMap noneBound => rfl
  | overScope base noMap noNull agree =>
      rw [base, noNull]
      rfl

theorem get?_bind (entries : List (Value × Value)) (name key : String) (item : Value) :
    Value.get? (Value.bind entries name item) key =
      if name = key then some item else Value.get? entries key := by
  induction entries with
  | nil => rfl
  | cons entry rest ih =>
      obtain ⟨present, old⟩ := entry
      cases present with
      | text present =>
          by_cases here : present = name
          · subst here
            by_cases same : present = key <;> simp [Value.bind, Value.get?, same]
          · by_cases same : present = key
            · subst same
              simp [Value.bind, Value.get?, here, Ne.symm here]
            · simpa [Value.bind, Value.get?, here, same] using ih
      | _ => exact ih

theorem lookup_cons_eq (present key : String) (value : Value) (rest : List (String × Value)) :
    ((present, value) :: rest).lookup key = if present = key then some value else rest.lookup key := by
  by_cases same : present = key
  · subst same
    simp
  · have other : (key == present) = false := beq_false_of_ne (Ne.symm same)
    simp only [List.lookup_cons, other, if_neg same]

theorem lookup_bindName (bindings : List (String × Value)) (name key : String) (item : Value) :
    (bindName bindings name item).lookup key =
      if name = key then some item else bindings.lookup key := by
  induction bindings with
  | nil => exact lookup_cons_eq name key item []
  | cons entry rest ih =>
      obtain ⟨present, old⟩ := entry
      by_cases here : present = name
      · subst here
        simp only [bindName, if_true, lookup_cons_eq]
        split <;> rfl
      · simp only [bindName, if_neg here, lookup_cons_eq, ih]
        by_cases same : present = key
        · subst same
          simp [Ne.symm here]
        · simp [same]

theorem lookup_bind (environment : Environment) (name key : String) (item : Value) :
    (environment.bind name item).bindings.lookup key =
      if name = key then some item else environment.bindings.lookup key :=
  lookup_cons_eq name key item environment.bindings

/-- Where a variable is bound in a model, the model stands for the environment with that variable. -/
theorem Represents.bind {environment : Environment} {model : Model} (name : String) (item : Value)
    (stands : environment.Represents model) (notNull : environment.base.isNull = false) :
    (environment.bind name item).Represents (model.bind name item) := by
  cases stands with
  | overMap base agree =>
      refine .overMap base fun key => ?_
      rw [get?_bind, lookup_bind, agree key]
      split <;> rfl
  | plain noMap noneBound =>
      obtain ⟨base, bindings⟩ := environment
      have overScope : (Environment.bind ⟨base, bindings⟩ name item).Represents
          (.scope ⟨base, [(name, item)]⟩) := by
        refine .overScope rfl noMap notNull fun key => ?_
        rw [lookup_bind, noneBound]
        exact lookup_bindName [] name key item
      cases base with
      | map entries => cases noMap
      | _ => exact overScope
  | overScope base noMap noNull agree =>
      refine .overScope base noMap noNull fun key => ?_
      rw [lookup_bind, ← agree key]
      exact lookup_bindName _ name key item

/-- The model of a loop stands for the same environment at the start. -/
theorem Represents.shadow {environment : Environment} {model : Model}
    (stands : environment.Represents model) (notNull : environment.base.isNull = false) :
    environment.Represents model.shadow := by
  cases stands with
  | overMap base agree => exact .overMap base agree
  | plain noMap noneBound =>
      have overScope : environment.Represents (.scope ⟨environment.base, []⟩) := by
        apply Represents.overScope rfl noMap notNull
        rw [noneBound]
        exact fun _ => rfl
      cases same : environment.base with
      | map entries =>
          rw [same] at noMap
          cases noMap
      | _ =>
          rw [same] at overScope
          exact overScope
  | overScope base noMap noNull agree => exact .overScope base noMap noNull agree

/-- The model of a loop, with its variable bound, stands for the environment with that variable. -/
theorem Represents.shadow_bind {environment : Environment} {model : Model} (name : String)
    (item : Value) (stands : environment.Represents model)
    (notNull : environment.base.isNull = false) :
    (environment.bind name item).Represents (model.shadow.bind name item) :=
  (stands.shadow notNull).bind name item notNull

/-- Binding the variable of a loop again makes up for what it was bound to before. -/
theorem Represents.rebind {environment : Environment} {model : Model} {name : String}
    {item : Value} (stands : (environment.bind name item).Represents model) (next : Value) :
    (environment.bind name next).Represents (model.bind name next) := by
  have again : ∀ key, (if name = key then some next
      else (environment.bind name item).bindings.lookup key) =
        (environment.bind name next).bindings.lookup key := by
    intro key
    rw [lookup_bind, lookup_bind]
    split <;> rfl
  cases stands with
  | overMap base agree =>
      refine .overMap base fun key => ?_
      rw [get?_bind, agree key, ← again key]
      split <;> rfl
  | plain noMap noneBound => cases noneBound
  | overScope base noMap noNull agree =>
      refine .overScope base noMap noNull fun key => ?_
      rw [← again key, ← agree key]
      exact lookup_bindName _ name key next

end Environment

/-! ### Variables that are gone -/

namespace Environment

theorem lookup_filter (bindings : List (String × Value)) (names : List String) (key : String) :
    (bindings.filter fun binding => !names.contains binding.1).lookup key =
      if key ∈ names then none else bindings.lookup key := by
  induction bindings with
  | nil => simp
  | cons entry rest ih =>
      obtain ⟨present, value⟩ := entry
      by_cases gone : present ∈ names
      · rw [List.filter_cons_of_neg (by simpa using gone), ih, lookup_cons_eq]
        by_cases same : present = key
        · subst same
          simp [gone]
        · simp [same]
      · rw [List.filter_cons_of_pos (by simpa using gone), lookup_cons_eq, lookup_cons_eq, ih]
        by_cases same : present = key
        · subst same
          simp [gone]
        · simp [same]

/-- A model stands for what is left of an environment.  Variables may be gone if `may` says so. -/
def Leaves (may : Prop) (environment : Environment) (model : Model) : Prop :=
  ∃ kept, (∀ key, kept.lookup key = environment.bindings.lookup key ∨
      may ∧ kept.lookup key = none) ∧
    (⟨environment.base, kept⟩ : Environment).Represents model

variable {may : Prop} {environment : Environment} {model : Model}

theorem Represents.leaves (stands : environment.Represents model) :
    environment.Leaves may model :=
  ⟨environment.bindings, fun _ => .inl rfl, stands⟩

theorem Leaves.isNull (leaves : environment.Leaves may model) :
    model.isNull = environment.base.isNull := by
  obtain ⟨kept, -, stands⟩ := leaves
  exact stands.isNull

theorem Leaves.shadow (leaves : environment.Leaves may model)
    (notNull : environment.base.isNull = false) : environment.Leaves may model.shadow := by
  obtain ⟨kept, agree, stands⟩ := leaves
  exact ⟨kept, agree, stands.shadow notNull⟩

/-- What is taken out of the model is not left of the environment. -/
theorem Leaves.without (leaves : environment.Leaves may model) {names : List String}
    (allowed : names = [] ∨ may) : environment.Leaves may (model.without names) := by
  obtain ⟨kept, agree, stands⟩ := leaves
  cases stands with
  | overMap base entries => exact ⟨kept, agree, .overMap base entries⟩
  | plain noMap noneBound => exact ⟨kept, agree, .plain noMap noneBound⟩
  | @overScope scope base noMap noNull bound =>
      refine ⟨kept.filter fun binding => !names.contains binding.1, fun key => ?_,
        .overScope base noMap noNull fun key => ?_⟩
      · rw [lookup_filter]
        split
        · rename_i gone
          rcases allowed with rfl | may
          · cases gone
          · exact .inr ⟨may, rfl⟩
        · exact agree key
      · unfold LoopScope.bound? at bound ⊢
        rw [LoopScope.without, lookup_filter, lookup_filter, bound key]

/-- Binding a variable makes up for it if it is gone, and for what it was bound to before. -/
theorem Leaves.rebind {name : String} {item : Value}
    (leaves : (environment.bind name item).Leaves may model)
    (notNull : environment.base.isNull = false) (next : Value) :
    (environment.bind name next).Leaves may (model.bind name next) := by
  obtain ⟨kept, agree, stands⟩ := leaves
  refine ⟨(name, next) :: kept, fun key => ?_, stands.bind name next notNull⟩
  rw [lookup_cons_eq, lookup_bind]
  split
  · exact .inl rfl
  · rename_i other
    have known := agree key
    rwa [lookup_bind, if_neg other] at known

theorem Leaves.bind (leaves : environment.Leaves may model)
    (notNull : environment.base.isNull = false) (name : String) (item : Value) :
    (environment.bind name item).Leaves may (model.bind name item) := by
  obtain ⟨kept, agree, stands⟩ := leaves
  refine ⟨(name, item) :: kept, fun key => ?_, stands.bind name item notNull⟩
  rw [lookup_cons_eq, lookup_bind]
  split
  · exact .inl rfl
  · exact agree key

end Environment

/-! ### Looking paths up -/

theorem notMem_of_mem_splitOn {text segment : List Char} (member : segment ∈ text.splitOn '.') :
    '.' ∉ segment := by
  induction text generalizing segment with
  | nil => simp_all
  | cons character rest ih =>
      rw [List.splitOn_cons_eq_if_modifyHead] at member
      split at member
      · rcases List.mem_cons.mp member with rfl | later
        · simp
        · exact ih later
      · rename_i noPoint
        cases split : rest.splitOn '.' with
        | nil => simp [split] at member
        | cons head tail =>
            rw [split, List.modifyHead_cons] at member
            rcases List.mem_cons.mp member with rfl | later
            · have inner := ih (split ▸ List.mem_cons_self)
              simp only [beq_iff_eq] at noPoint
              simp [inner, Ne.symm noPoint]
            · exact ih (split ▸ List.mem_cons_of_mem _ later)

/-- A segment of a path is a path of one segment. -/
theorem pathSegments_of_mem {path segment : String} (member : segment ∈ pathSegments path) :
    pathSegments segment = [segment] := by
  obtain ⟨characters, inside, rfl⟩ := List.mem_map.mp member
  rw [pathSegments, String.toList_ofList, List.splitOn_eq_singleton (notMem_of_mem_splitOn inside)]
  rfl

variable {cache : Nat} {world : World}

theorem requireArguments_settles {property : String} (given : property ≠ "") :
    Settles cache world (requireArguments false property) (.ok ()) := by
  have nonempty : property.isEmpty = false := by simpa using given
  unfold requireArguments
  rw [nonempty]
  exact Settles.pure ()

/-- The resolver of single segments. -/
abbrev Resolver.segments (cache : Nat) : Resolver :=
  .atomic .mapping (.object cache)

/-- Looking one segment up in a mapping gives what is at this key. -/
theorem segments_settles_map {entries : List (Value × Value)} {name : String}
    (given : name ≠ "") :
    Settles cache world ((Resolver.segments cache).ofValue (.map entries) name)
      (.ok ((Value.get? entries name).getD .null)) := by
  unfold Resolver.ofValue
  refine Settles.bind (requireArguments_settles given) ?_
  exact Settles.bind (requireArguments_settles given) (Settles.pure _)

/-- Looking one segment up in a calm value gives its property. -/
theorem segments_settles (worldCalm : world.Calm family) {subject : Value} {name : String}
    (calm : subject.Calm family) (notNull : subject.isNull = false) (given : name ≠ "") :
    Settles cache world ((Resolver.segments cache).ofValue subject name)
      (.ok (world.property subject name)) := by
  have arguments : Settles cache world (requireArguments false name) (.ok ()) :=
    requireArguments_settles given
  unfold Resolver.ofValue
  rw [notNull]
  apply Settles.bind arguments
  cases isMap : subject.entries? with
  | some entries =>
      rw [World.property, isMap]
      unfold Resolver.ofValue
      rw [notNull, isMap]
      exact Settles.bind arguments (Settles.pure _)
  | none =>
      unfold Resolver.ofValue
      rw [notNull]
      exact Settles.bind arguments (readProperty_settles worldCalm name calm isMap)

/-- The later segments of a path are looked up one after another. -/
theorem walkPath_settles (worldCalm : world.Calm family) (path : String) {done rest : List String}
    {current : Value} (calm : current.Calm family) (given : ∀ segment ∈ rest, segment ≠ "") :
    Settles cache world (walkPath (Resolver.segments cache).ofValue path done current rest)
      (world.walk path done current rest) := by
  induction rest generalizing done current with
  | nil => exact Settles.pure current
  | cons segment rest ih =>
      obtain ⟨here, later⟩ := List.forall_mem_cons.mp given
      unfold walkPath World.walk
      cases isNull : current.isNull with
      | true => exact Settles.bind_error (Settles.throw _)
      | false =>
          simp only [Bool.false_eq_true, if_false]
          refine Settles.bind (segments_settles worldCalm calm isNull here) ?_
          exact ih (worldCalm.property calm segment) later

/-- A path is looked up from its first segment on, if that one can be looked up. -/
theorem followPath_settles (worldCalm : world.Calm family) {environment : Environment}
    (calm : environment.Calm family) {first : String → Lookup Value} {path : String}
    (start : ∀ segment ∈ pathSegments path, segment ≠ "" →
      Settles cache world (first segment) (.ok (environment.first world segment))) :
    Settles cache world (followPath first (Resolver.segments cache).ofValue path)
      (environment.resolve world path) := by
  unfold followPath Environment.resolve
  by_cases bad : (pathSegments path).any (·.isEmpty)
  · simp only [bad, if_true]
    exact Settles.bind_error (Settles.throw _)
  · have given : ∀ segment ∈ pathSegments path, segment ≠ "" := by
      intro segment member empty
      refine bad (List.any_eq_true.mpr ⟨segment, member, ?_⟩)
      simp [empty]
    simp only [bad]
    refine Settles.bind (Settles.pure _) ?_
    cases split : pathSegments path with
    | nil => exact Settles.throw _
    | cons segment rest =>
        rw [split] at start given
        obtain ⟨here, later⟩ := List.forall_mem_cons.mp given
        refine Settles.bind (start segment List.mem_cons_self here) ?_
        exact walkPath_settles worldCalm path (calm.first worldCalm segment) later

/-- The usual resolver looks a single segment up like any path. -/
theorem standard_settles_segment (worldCalm : world.Calm family) {subject : Value}
    (calm : subject.Calm family) (notNull : subject.isNull = false) {name : String} (given : name ≠ "")
    (single : pathSegments name = [name]) :
    Settles cache world ((Resolver.standard cache).ofValue subject name)
      (.ok (world.property subject name)) := by
  have whole : (⟨subject, []⟩ : Environment).resolve world name =
      .ok (world.property subject name) := by
    have solid : name.isEmpty = false := by simpa using given
    unfold Environment.resolve
    simp only [single, List.any_cons, List.any_nil, solid, Bool.or_false, Bool.false_eq_true,
      if_false]
    rfl
  rw [← whole]
  unfold Resolver.standard Resolver.ofValue
  rw [notNull]
  refine Settles.bind (requireArguments_settles given) ?_
  exact followPath_settles worldCalm ⟨calm, by simp⟩ fun segment _ given' =>
    segments_settles worldCalm calm notNull given'

/-- A loop scope has a variable at its name.  At any other name it has what the value under it has,
and nothing where that is null. -/
theorem LoopScope.get_settles {engine : Resolver} {scope : LoopScope} {name : String}
    {value : Value} (found : Settles cache world (engine.ofValue scope.base name) (.ok value)) :
    Settles cache world (scope.get engine name)
      (.ok ((scope.bound? name).or (if value.isNull then none else some value))) := by
  cases bound : scope.bound? name with
  | some item =>
      refine Settles.tryCatch (Settles.bind ?_ (Settles.pure _))
      unfold LoopScope.item
      rw [bound]
      exact Settles.pure item
  | none =>
      have item : Settles cache world (scope.item engine name)
          (if value.isNull then .error (.noKey name) else .ok value) := by
        unfold LoopScope.item
        rw [bound]
        refine Settles.bind found ?_
        split
        · exact Settles.throw _
        · exact Settles.pure _
      -- Where the key is missing, the scope itself makes nothing of the failure.
      cases null : value.isNull with
      | true =>
          rw [null, if_pos rfl] at item
          exact Settles.tryCatch_error (Settles.bind_error item) (Settles.pure none)
      | false =>
          rw [null, if_neg Bool.false_ne_true] at item
          exact Settles.tryCatch (Settles.bind item (Settles.pure _))

/-- Looking a segment up in a loop scope finds a variable, or a property of the value under it. -/
theorem ofScope_settles (worldCalm : world.Calm family) {environment : Environment}
    (calm : environment.Calm family) {scope : LoopScope} (base : environment.base = scope.base)
    (noNull : scope.base.isNull = false)
    (agree : ∀ key, scope.bound? key = environment.bindings.lookup key) {name : String}
    (given : name ≠ "") (single : pathSegments name = [name]) :
    Settles cache world
      (Resolver.ofScope (Resolver.standard cache) (Resolver.segments cache) scope name)
      (.ok (environment.first world name)) := by
  have baseCalm : scope.base.Calm family := base ▸ calm.base
  have got := LoopScope.get_settles
    (@standard_settles_segment family cache _ worldCalm scope.base baseCalm noNull name given single)
  have same : environment.first world name =
      ((scope.bound? name).or (if (world.property scope.base name).isNull then none
        else some (world.property scope.base name))).getD .null := by
    unfold Environment.first
    rw [← agree name, base]
    cases scope.bound? name with
    | some value => rfl
    | none => cases world.property scope.base name <;> rfl
  rw [same]
  unfold Resolver.ofScope
  refine Settles.bind (requireArguments_settles given) ?_
  unfold Resolver.ofScope
  refine Settles.bind (requireArguments_settles given) ?_
  exact Settles.bind got (Settles.pure _)

/-- In a model that stands for a calm environment, the usual resolver finds what the environment has
at a path, or fails as it does. -/
theorem getValue_settles (worldCalm : world.Calm family) {environment : Environment}
    (calm : environment.Calm family) {model : Model} (stands : environment.Represents model)
    (notNull : environment.base.isNull = false) {path : String} (given : path ≠ "") :
    Settles cache world ((Resolver.standard cache).getValue model path)
      (environment.resolve world path) := by
  cases stands with
  | @overMap original entries base agree =>
      unfold Resolver.getValue Resolver.standard Resolver.ofValue
      refine Settles.bind (requireArguments_settles given) ?_
      refine followPath_settles worldCalm calm fun segment _ given' => ?_
      have same : environment.first world segment = (Value.get? entries segment).getD .null := by
        unfold Environment.first
        rw [agree segment, base]
        cases environment.bindings.lookup segment <;> rfl
      rw [same]
      exact segments_settles_map given'
  | plain noMap noneBound =>
      unfold Resolver.getValue Resolver.standard Resolver.ofValue
      simp only [notNull]
      refine Settles.bind (requireArguments_settles given) ?_
      refine followPath_settles worldCalm calm fun segment _ given' => ?_
      unfold Environment.first
      rw [noneBound]
      exact segments_settles worldCalm calm.base notNull given'
  | overScope base noMap noNull agree =>
      unfold Resolver.getValue Resolver.standard Resolver.ofScope
      refine Settles.bind (requireArguments_settles given) ?_
      refine followPath_settles worldCalm calm fun segment member given' => ?_
      exact ofScope_settles worldCalm calm base noNull agree given' (pathSegments_of_mem member)

end Stencil
