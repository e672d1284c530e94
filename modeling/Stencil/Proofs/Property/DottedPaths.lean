/-
Module: Stencil.Proofs.Property.DottedPaths
Purpose: What is looked up along a dotted path, which part of it is blamed for a null, and how paths
  compose.
Main exports: NameLookup, NameLookup.follow, NameLookup.along, StopsAt, Walked, follow_exact
-/
import Stencil.Proofs.Property.Transparency
import Stencil.Proofs.Property.Renewal

namespace Stencil

/-! ### Walks -/

/-- Of several names, the first few, and no fewer, lead to null, with names left. -/
structure StopsAt (along : List String → Lookup Value) (world : World)
    (names front : List String) (after : World) : Prop where
  proper : front <+: names ∧ front ≠ names
  null : (along front).run.run world = (.ok .null, after)
  least : ∀ shorter, shorter <+: front → shorter ≠ front → ∀ between,
    (along shorter).run.run world ≠ (.ok .null, between)

/-- Either a walk stops at the first null in front of its last name, and says so, or there is none and
it ends as looking all names up does. -/
inductive Walked (along : List String → Lookup Value) (world : World) (names : List String)
    (blame : List String → LookupError) : Except LookupError Value × World → Prop where
  | stops {front : List String} {after : World} (here : StopsAt along world names front after) :
      Walked along world names blame (.error (blame front), after)
  | arrives (passes : ∀ front, front <+: names → front ≠ names → ∀ after,
        (along front).run.run world ≠ (.ok .null, after)) :
      Walked along world names blame ((along names).run.run world)

section Walks

variable {along : List String → Lookup Value} {world : World} {names : List String}

/-- There is one such place at most. -/
theorem StopsAt.unique {one other : List String} {after after' : World}
    (here : StopsAt along world names one after) (there : StopsAt along world names other after') :
    one = other ∧ after = after' := by
  have same : one = other := by
    by_contra differ
    rcases List.prefix_or_prefix_of_prefix here.proper.1 there.proper.1 with shorter | shorter
    · exact there.least one shorter differ after here.null
    · exact here.least other shorter (Ne.symm differ) after' there.null
  subst same
  exact ⟨rfl, congrArg Prod.snd (here.null.symm.trans there.null)⟩

/-- Two walks along the same names stop at the same place, if at all. -/
theorem Walked.both {blame blame' : List String → LookupError}
    {outcome outcome' : Except LookupError Value × World}
    (walked : Walked along world names blame outcome)
    (walked' : Walked along world names blame' outcome') :
    (∃ front after, StopsAt along world names front after ∧
      outcome = (.error (blame front), after) ∧ outcome' = (.error (blame' front), after)) ∨
    outcome = (along names).run.run world ∧ outcome' = (along names).run.run world := by
  cases walked with
  | stops here =>
      cases walked' with
      | stops there =>
          obtain ⟨rfl, rfl⟩ := here.unique there
          exact .inl ⟨_, _, here, rfl, rfl⟩
      | arrives passes => exact absurd here.null (passes _ here.proper.1 here.proper.2 _)
  | arrives passes =>
      cases walked' with
      | stops there => exact absurd there.null (passes _ there.proper.1 there.proper.2 _)
      | arrives => exact .inr ⟨rfl, rfl⟩

/-- A walk that does not fail does not lead through null. -/
theorem Walked.of_ok {blame : List String → LookupError} {value : Value} {after : World}
    (walked : Walked along world names blame (.ok value, after)) :
    (along names).run.run world = (.ok value, after) ∧
      ∀ front, front <+: names → front ≠ names → ∀ between,
        (along front).run.run world ≠ (.ok .null, between) := by
  generalize same : (Except.ok value, after) = outcome at walked
  cases walked with
  | stops => cases same
  | arrives passes => exact ⟨rfl, passes⟩

/-- A walk is its first name and a walk along the others, in what the first name leads to. -/
theorem Walked.cons {later : Value → List String → Lookup Value} {first : Lookup Value}
    {walk : Value → Lookup Value} {name : String} {rest : List String}
    {blame : List String → LookupError}
    (splits : ∀ names, along (name :: names) = first >>= fun value => later value names)
    (starts : ∀ after, (along []).run.run world ≠ (.ok .null, after))
    (walked : ∀ value between, first.run.run world = (.ok value, between) →
      Walked (later value) between rest (fun front => blame (name :: front))
        ((walk value).run.run between)) :
    Walked along world (name :: rest) blame ((first >>= walk).run.run world) := by
  obtain ⟨⟨result, between⟩, ran⟩ : ∃ ended, first.run.run world = ended := ⟨_, rfl⟩
  cases result with
  | error error =>
      have all names : (along (name :: names)).run.run world = (.error error, between) := by
        rw [splits, run_bind_error ran]
      rw [run_bind_error ran, ← all rest]
      refine .arrives fun front isFront _ after => ?_
      rcases List.prefix_cons_iff.mp isFront with rfl | ⟨others, rfl, -⟩
      · exact starts after
      · rw [all]
        nofun
  | ok value =>
      have all names : (along (name :: names)).run.run world =
          (later value names).run.run between := by
        rw [splits, run_bind_ok ran]
      have inner := walked value between ran
      rw [run_bind_ok ran]
      generalize (walk value).run.run between = outcome at inner ⊢
      cases inner with
      | @stops front after here =>
          refine .stops ⟨⟨List.cons_prefix_cons.mpr ⟨rfl, here.proper.1⟩, ?_⟩, ?_, ?_⟩
          · exact fun same => here.proper.2 (List.cons.inj same).2
          · rw [all, here.null]
          · intro shorter isFront differs between'
            rcases List.prefix_cons_iff.mp isFront with rfl | ⟨others, rfl, isFront'⟩
            · exact starts between'
            · rw [all]
              exact here.least others isFront' (fun same => differs (by rw [same])) between'
      | arrives passes =>
          rw [← all]
          refine .arrives fun front isFront differs after => ?_
          rcases List.prefix_cons_iff.mp isFront with rfl | ⟨others, rfl, isFront'⟩
          · exact starts after
          · rw [all]
            exact passes others isFront' (fun same => differs (by rw [same])) after

end Walks

/-! ### Paths -/

section Paths

variable {step : Value → String → Lookup Value} {path segment : String} {done rest : List String}

theorem walkPath_null : walkPath step path done .null (segment :: rest) =
    throw (.nullIntermediate (joinPath done.reverse) path) := by
  rw [walkPath]
  rfl

theorem walkPath_some {current : Value} (notNull : current.isNull = false) :
    walkPath step path done current (segment :: rest) =
      step current segment >>= fun next => walkPath step path (segment :: done) next rest := by
  rw [walkPath, notNull]
  rfl

theorem eq_null_of_isNull {value : Value} (isNull : value.isNull = true) : value = .null := by
  cases value with
  | null => rfl
  | _ => cases isNull

/-- The later segments of a path are walked along. -/
theorem walkPath_walked {current : Value} {world : World} :
    Walked (fun names => names.foldlM step current) world rest
      (fun front => .nullIntermediate (joinPath (done.reverse ++ front)) path)
      ((walkPath step path done current rest).run.run world) := by
  induction rest generalizing done current world with
  | nil =>
      apply Walked.arrives
      intro front isFront differs
      exact absurd (List.prefix_nil.mp isFront) differs
  | cons segment rest ih =>
      cases null : current.isNull with
      | true =>
          obtain rfl := eq_null_of_isNull null
          have here : StopsAt (fun names => names.foldlM step .null) world (segment :: rest) []
              world := by
            constructor
            · exact ⟨List.nil_prefix, nofun⟩
            · rfl
            · intro shorter isFront differs
              exact absurd (List.prefix_nil.mp isFront) differs
          have stopped := @Walked.stops _ _ _
            (fun front => .nullIntermediate (joinPath (done.reverse ++ front)) path) _ _ here
          rw [List.append_nil] at stopped
          rw [walkPath_null]
          exact stopped
      | false =>
          rw [walkPath_some null]
          apply Walked.cons
          · intro names
            exact List.foldlM_cons
          · intro after ran
            cases ran
            cases null
          · intro next between _
            have later := @ih (segment :: done) next between
            rw [List.reverse_cons] at later
            simpa only [List.append_assoc, List.singleton_append] using later

end Paths

/-! ### Composition of paths -/

/-- The segments of two paths that are joined by a point. -/
theorem pathSegments_join (path rest : String) :
    pathSegments (path ++ "." ++ rest) = pathSegments path ++ pathSegments rest := by
  have parts : (path ++ "." ++ rest).toList = path.toList ++ '.' :: rest.toList := by
    simp
  rw [pathSegments, parts, List.splitOn_append_cons_self, List.map_append]
  rfl

theorem Solid.join {path rest : String} (solid : Solid path) (solid' : Solid rest) :
    Solid (path ++ "." ++ rest) := by
  intro segment member
  rw [pathSegments_join] at member
  rcases List.mem_append.mp member with here | later
  · exact solid segment here
  · exact solid' segment later

/-- A path is its segments joined by points. -/
theorem joinPath_pathSegments (path : String) : joinPath (pathSegments path) = path := by
  rw [String.ext_iff, joinPath, String.toList_intercalate, pathSegments, List.map_map]
  have same : String.toList ∘ String.ofList = id := by
    funext characters
    exact String.toList_ofList
  rw [same, List.map_id]
  exact List.intercalate_splitOn '.'

theorem joinPath_behind (path : String) {front : List String} (nonempty : front ≠ []) :
    joinPath (pathSegments path ++ front) = path ++ "." ++ joinPath front := by
  rw [joinPath, String.intercalate_append_of_ne_nil (pathSegments_ne_nil path) nonempty]
  rw [← joinPath, joinPath_pathSegments]
  rfl

/-- A way to look single names up, in a model and in what it gives. -/
abbrev NameLookup := Model → String → Lookup Value

namespace NameLookup

/-- Look a dotted path up, its segments in this way. -/
def follow (atomic : NameLookup) (model : Model) (path : String) : Lookup Value := do
  requireArguments model.isNull path
  followPath (atomic model) (fun subject => atomic (.value subject)) path

/-- Look several names up, each in the value of the one before, whether or not that is null. -/
def along (atomic : NameLookup) (model : Model) : List String → Lookup Value
  | [] => throw .noProperty
  | name :: rest => do
      let value ← atomic model name
      rest.foldlM (fun current next => atomic (.value current) next) value

variable {atomic : NameLookup} {model : Model} {path : String} {world between : World}

/-- A path with an empty segment is refused before anything is looked up. -/
theorem follow_refused (notNull : model.isNull = false) (given : path ≠ "") (empty : ¬ Solid path) :
    (atomic.follow model path).run.run world = (.error (.invalidPath path), world) := by
  rw [follow, notNull, requireArguments_given given, pure_bind, followPath_refused empty]
  rfl

/-- Every other path is followed from its first segment on. -/
theorem follow_eq {segment : String} {rest : List String} (notNull : model.isNull = false)
    (solid : Solid path) (split : pathSegments path = segment :: rest) :
    atomic.follow model path = atomic model segment >>= fun value =>
      walkPath (fun subject => atomic (.value subject)) path [segment] value rest := by
  rw [follow, notNull, requireArguments_given solid.ne_empty, pure_bind]
  exact followPath_solid solid split

/-- It is walked along. -/
theorem follow_walked (notNull : model.isNull = false) (solid : Solid path) :
    Walked (atomic.along model) world (pathSegments path)
      (fun front => .nullIntermediate (joinPath front) path)
      ((atomic.follow model path).run.run world) := by
  have split := pathSegments_eq_cons path
  rw [follow_eq notNull solid split, split]
  apply Walked.cons
  · intro names
    rfl
  · intro after
    nofun
  · intro value between _
    exact @walkPath_walked _ path [pathHead path] _ value between

section Behind

variable {front rest : List String} {value : Value}

theorem along_append (nonempty : front ≠ []) :
    atomic.along model (front ++ rest) = atomic.along model front >>= fun value =>
      rest.foldlM (fun current next => atomic (.value current) next) value := by
  cases front with
  | nil => exact absurd rfl nonempty
  | cons name names =>
      rw [List.cons_append, along, along, bind_assoc]
      simp only [List.foldlM_append]

theorem along_value (nonempty : rest ≠ []) :
    atomic.along (.value value) rest =
      rest.foldlM (fun current next => atomic (.value current) next) value := by
  cases rest with
  | nil => exact absurd rfl nonempty
  | cons name names =>
      rw [List.foldlM_cons]
      rfl

variable (ran : (atomic.along model front).run.run world = (.ok value, between))

include ran

/-- Behind the first names the others are looked up in what these lead to. -/
theorem run_along_append (nonempty : front ≠ []) (nonempty' : rest ≠ []) :
    (atomic.along model (front ++ rest)).run.run world =
      (atomic.along (.value value) rest).run.run between := by
  rw [along_append nonempty, run_bind_ok ran, along_value nonempty']

/-- Behind names that do not lead through null, a walk is one that starts from what they lead to. -/
theorem walked_behind (nonempty : front ≠ []) (nonempty' : rest ≠ []) (notNull : value.isNull = false)
    (passes : ∀ shorter, shorter <+: front → shorter ≠ front → ∀ after,
      (atomic.along model shorter).run.run world ≠ (.ok .null, after))
    {blame : List String → LookupError} {outcome : Except LookupError Value × World}
    (walked : Walked (atomic.along model) world (front ++ rest) blame outcome) :
    Walked (atomic.along (.value value)) between rest (fun later => blame (front ++ later))
      outcome := by
  have noNull after : (atomic.along model front).run.run world ≠ (.ok .null, after) := by
    intro null
    cases ran.symm.trans null
    cases notNull
  have noStart after : (atomic.along (.value value) []).run.run between ≠ (.ok .null, after) := by
    nofun
  cases walked with
  | @stops whole after here =>
      have whole_eq : ∃ later, later ≠ [] ∧ whole = front ++ later := by
        rcases List.prefix_or_prefix_of_prefix here.proper.1 (List.prefix_append front rest) with
          shorter | ⟨later, rfl⟩
        · by_cases same : whole = front
          · exact absurd here.null (same ▸ noNull after)
          · exact absurd here.null (passes whole shorter same after)
        · refine ⟨later, ?_, rfl⟩
          rintro rfl
          rw [List.append_nil] at here
          exact noNull after here.null
      obtain ⟨later, laterNonempty, rfl⟩ := whole_eq
      apply Walked.stops
      constructor
      · constructor
        · exact (List.prefix_append_right_inj front).mp here.proper.1
        · exact fun same => here.proper.2 (by rw [same])
      · rw [← run_along_append ran nonempty laterNonempty]
        exact here.null
      · intro shorter isFront differs between'
        by_cases empty : shorter = []
        · rw [empty]
          exact noStart between'
        · rw [← run_along_append ran nonempty empty]
          apply here.least
          · exact (List.prefix_append_right_inj front).mpr isFront
          · exact fun same => differs (List.append_cancel_left same)
  | arrives passes' =>
      rw [run_along_append ran nonempty nonempty']
      apply Walked.arrives
      intro shorter isFront differs after
      by_cases empty : shorter = []
      · rw [empty]
        exact noStart after
      · rw [← run_along_append ran nonempty empty]
        apply passes'
        · exact (List.prefix_append_right_inj front).mpr isFront
        · exact fun same => differs (List.append_cancel_left same)

end Behind

/-- Behind a path to a value, a second path is walked along from there; the whole path is blamed. -/
theorem follow_join {rest : String} {value : Value} (noNull : model.isNull = false)
    (solid : Solid path) (solid' : Solid rest) (notNull : value.isNull = false)
    (ran : (atomic.follow model path).run.run world = (.ok value, between)) :
    Walked (atomic.along (.value value)) between (pathSegments rest)
      (fun front => .nullIntermediate (joinPath (pathSegments path ++ front)) (path ++ "." ++ rest))
      ((atomic.follow model (path ++ "." ++ rest)).run.run world) := by
  have front := @follow_walked atomic model path world noNull solid
  rw [ran] at front
  obtain ⟨along, passes⟩ := front.of_ok
  have whole := @follow_walked atomic model _ world noNull (solid.join solid')
  rw [pathSegments_join] at whole
  exact walked_behind along (pathSegments_ne_nil path) (pathSegments_ne_nil rest) notNull passes whole

/-- So both paths end alike, but for the part that is blamed for a null. -/
theorem follow_join_eq {rest : String} {value : Value} (noNull : model.isNull = false)
    (solid : Solid path) (solid' : Solid rest) (notNull : value.isNull = false)
    (ran : (atomic.follow model path).run.run world = (.ok value, between)) :
    (∃ front after, StopsAt (atomic.along (.value value)) between (pathSegments rest) front after ∧
      (atomic.follow (.value value) rest).run.run between =
        (.error (.nullIntermediate (joinPath front) rest), after) ∧
      (atomic.follow model (path ++ "." ++ rest)).run.run world =
        (.error (.nullIntermediate (path ++ "." ++ joinPath front) (path ++ "." ++ rest)), after)) ∨
    (atomic.follow (.value value) rest).run.run between =
        (atomic.along (.value value) (pathSegments rest)).run.run between ∧
      (atomic.follow model (path ++ "." ++ rest)).run.run world =
        (atomic.along (.value value) (pathSegments rest)).run.run between := by
  have here := @follow_walked atomic (.value value) rest between notNull solid'
  rcases here.both (follow_join noNull solid solid' notNull ran) with
    ⟨front, after, stops, behind, whole⟩ | same
  · have nonempty : front ≠ [] := by
      rintro rfl
      cases stops.null
    rw [joinPath_behind path nonempty] at whole
    exact .inl ⟨front, after, stops, behind, whole⟩
  · exact .inr same

end NameLookup

/-! ### Blame -/

/-- A lookup never blames a part of a path for a null. -/
def BlamesNone (work : Lookup Value) : Prop :=
  ∀ world blamed path after, work.run.run world ≠ (.error (.nullIntermediate blamed path), after)

theorem BlamesNone.bind {work : Lookup Value} {next : Value → Lookup Value}
    (first : BlamesNone work) (later : ∀ value, BlamesNone (next value)) :
    BlamesNone (work >>= next) := by
  intro world blamed path after ran
  obtain ⟨⟨result, between⟩, ends⟩ : ∃ ended, work.run.run world = ended := ⟨_, rfl⟩
  cases result with
  | error error =>
      rw [run_bind_error ends] at ran
      cases ran
      exact first world blamed path _ ends
  | ok value =>
      rw [run_bind_ok ends] at ran
      exact later value between blamed path after ran

/-- Failures other than that a part of a path is null. -/
def LookupError.BlamesNone : LookupError → Prop
  | .nullIntermediate _ _ => False
  | _ => True

/-- Lookups that go in lockstep with themselves and fail otherwise blame no path. -/
theorem blamesNone_of_lockstep {Q : Value → Prop} {work : Lookup Value}
    (alone : Lockstep Eq Q LookupError.BlamesNone work work) : BlamesNone work := by
  intro world blamed path after ran
  obtain ⟨result, between, -, ran', -, -, ends⟩ := alone world world rfl
  rw [ran] at ran'
  cases ran'
  exact ends

/-- Lookups that blame no path go in lockstep with themselves and fail otherwise. -/
theorem BlamesNone.lockstep {work : Lookup Value} (blamesNone : BlamesNone work) :
    Lockstep Eq (fun _ => True) LookupError.BlamesNone work work := by
  rintro world _ rfl
  obtain ⟨⟨result, after⟩, ran⟩ : ∃ ended, work.run.run world = ended := ⟨_, rfl⟩
  refine ⟨result, after, after, ran, ran, rfl, ?_⟩
  cases result with
  | ok value => trivial
  | error error =>
      cases error with
      | nullIntermediate blamed path => exact blamesNone world blamed path after ran
      | _ => trivial

namespace NameLookup

/-- No single name is blamed for a null. -/
def BlamesNone (atomic : NameLookup) : Prop :=
  ∀ model name, SimpleName name → Stencil.BlamesNone (atomic model name)

theorem BlamesNone.along {atomic : NameLookup} (blamesNone : atomic.BlamesNone) (model : Model)
    {names : List String} (simple : ∀ name ∈ names, SimpleName name) :
    Stencil.BlamesNone (atomic.along model names) := by
  have later : ∀ {rest : List String}, (∀ name ∈ rest, SimpleName name) → ∀ value,
      Stencil.BlamesNone
        (rest.foldlM (fun current next => atomic (.value current) next) value) := by
    intro rest
    induction rest with
    | nil =>
        intro _ value world blamed path after ran
        cases ran
    | cons name rest ih =>
        intro simple value
        obtain ⟨here, later⟩ := List.forall_mem_cons.mp simple
        rw [List.foldlM_cons]
        exact (blamesNone (.value value) name here).bind (ih later)
  cases names with
  | nil =>
      intro world blamed path after ran
      cases ran
  | cons name rest =>
      obtain ⟨here, others⟩ := List.forall_mem_cons.mp simple
      exact (blamesNone model name here).bind (later others)

end NameLookup

namespace Resolver

/-- The lookups of single names by which a resolver follows dotted paths.  `engine` is the resolver that
loop scopes look the model's names up with. -/
def names (resolver engine : Resolver) : NameLookup
  | .value subject, name => resolver.ofValue subject name
  | .scope scope, name => ofScope engine resolver scope name

/-- Resolvers of dotted paths follow them. -/
theorem dotted_getValue (segments : Resolver) :
    (dotted segments).getValue = (segments.names (dotted segments)).follow := by
  funext model path
  cases model with
  | value subject => rfl
  | scope scope => rfl

/-- Finding an accessor does not fail. -/
theorem accessorFor_alone (cache : Nat) (moduleName typeName property : String)
    (memberKind? : String → Option MemberKind) :
    Lockstep Eq (fun _ => True) LookupError.BlamesNone
      (accessorFor cache moduleName typeName memberKind? property)
      (accessorFor cache moduleName typeName memberKind? property) := by
  apply accessorFor_lockstep
  · rintro world _ rfl
    rfl
  · rintro world _ accessor rfl
    rfl

/-- Reading a property blames no path: members fail in other ways. -/
theorem readProperty_alone (cache : Nat) (subject : Value) (property : String) :
    Lockstep Eq (fun _ => True) LookupError.BlamesNone (readProperty cache subject property)
      (readProperty cache subject property) := by
  have members : Members Eq (fun _ => True) LookupError.BlamesNone := by
    apply members_of_runs
    · exact fun _ => trivial
    all_goals
      intros
      subst_vars
      rfl
  apply readProperty_lockstep_of members property trivial
  intro world _ _
  exact accessorFor_alone cache subject.moduleName subject.typeName property _

/-- What the user has put into a resolver blames no single name for a null. -/
def Blameless : Resolver → Prop
  | custom look => ∀ model name, SimpleName name → BlamesNone (look model name)
  | atomic mappings objects => mappings.Blameless ∧ objects.Blameless
  | dotted segments => segments.Blameless
  | mapping | object _ => True

/-- Looking a single name up in a value blames no path. -/
theorem ofValue_alone (resolver : Resolver) (blameless : resolver.Blameless) (subject : Value)
    {name : String} (simple : SimpleName name) :
    Lockstep Eq (fun _ => True) LookupError.BlamesNone (resolver.ofValue subject name)
      (resolver.ofValue subject name) := by
  have arguments := @requireArguments_lockstep Eq LookupError.BlamesNone subject.isNull name
    trivial trivial
  induction resolver with
  | mapping =>
      apply arguments.bind
      intro _ _
      cases subject.entries? with
      | some entries => exact Lockstep.pure trivial
      | none => exact Lockstep.throw trivial
  | object cache =>
      apply arguments.bind
      intro _ _
      exact readProperty_alone cache subject name
  | atomic mappings objects mappings_ih objects_ih =>
      apply arguments.bind
      intro _ _
      split
      · exact mappings_ih blameless.1
      · exact objects_ih blameless.2
  | dotted segments ih =>
      apply arguments.bind
      intro _ _
      rw [followPath_simple simple]
      exact ih blameless
  | custom look => exact (blameless (.value subject) name simple).lockstep

/-- Looking a single name up in a loop scope blames no path. -/
theorem ofScope_alone (resolver : Resolver) (blameless : resolver.Blameless) {engine : Resolver}
    (engineBlameless : engine.Blameless) (scope : LoopScope) {name : String}
    (simple : SimpleName name) :
    Lockstep Eq (fun _ => True) LookupError.BlamesNone (ofScope engine resolver scope name)
      (ofScope engine resolver scope name) := by
  have arguments := @requireArguments_lockstep Eq LookupError.BlamesNone false name trivial trivial
  induction resolver with
  | mapping =>
      apply arguments.bind
      intro _ _
      have item : Lockstep Eq (fun _ => True) LookupError.BlamesNone (scope.item engine name)
          (scope.item engine name) := by
        unfold LoopScope.item
        split
        · exact Lockstep.pure trivial
        · apply (ofValue_alone engine engineBlameless scope.base simple).bind
          intro value _
          split
          · exact Lockstep.throw trivial
          · exact Lockstep.pure trivial
      have found : Lockstep Eq (fun _ => True) LookupError.BlamesNone (scope.get engine name)
          (scope.get engine name) := by
        apply Lockstep.tryCatch (item.bind fun _ _ => Lockstep.pure trivial)
        intro failure blamesNone
        split
        · exact Lockstep.pure trivial
        · exact Lockstep.throw blamesNone
      exact found.bind fun _ _ => Lockstep.pure trivial
  | object cache =>
      apply arguments.bind
      intro _ _
      apply Lockstep.get
      rintro world _ rfl
      apply (accessorFor_alone cache _ _ name _).bind
      intro accessor _
      apply LoopScope.readMember_lockstep
      · exact fun _ => trivial
      · exact fun _ _ => trivial
      · rintro state _ rfl
        rfl
      · rintro state _ rfl
        rfl
  | atomic mappings objects mappings_ih objects_ih =>
      apply arguments.bind
      intro _ _
      exact mappings_ih blameless.1
  | dotted segments ih =>
      apply arguments.bind
      intro _ _
      rw [followPath_simple simple]
      exact ih blameless
  | custom look => exact (blameless (.scope scope) name simple).lockstep

/-- No resolver blames a single name, unless the user has put something into it that does. -/
theorem names_blamesNone {resolver engine : Resolver} (blameless : resolver.Blameless)
    (engineBlameless : engine.Blameless) : (resolver.names engine).BlamesNone := by
  intro model name simple
  cases model with
  | value subject => exact blamesNone_of_lockstep (resolver.ofValue_alone blameless subject simple)
  | scope scope =>
      exact blamesNone_of_lockstep (resolver.ofScope_alone blameless engineBlameless scope simple)

end Resolver

/-! ### Every way to look single names up -/

/-- A path with an empty segment is refused before any lookup.  Any other path is walked along, from the
left, up to the first null in front of its last segment; the segments up to there are blamed.  Behind a
path that leads to a value, a second one ends as it does by itself from this value: with the same value,
or with the same part blamed behind the first path.  So do the resolvers of dotted paths; no single name
is blamed by what they are made of, unless the user has written a part that does. -/
theorem follow_exact (atomic : NameLookup) {model : Model} (noNull : model.isNull = false)
    {path : String} (given : path ≠ "") (world : World) :
    (¬ Solid path →
      (atomic.follow model path).run.run world = (.error (.invalidPath path), world)) ∧
    (Solid path →
      Walked (atomic.along model) world (pathSegments path)
        (fun front => .nullIntermediate (joinPath front) path)
        ((atomic.follow model path).run.run world)) ∧
    (∀ (rest : String) (value : Value) (between : World), Solid path → Solid rest →
      value.isNull = false →
      (atomic.follow model path).run.run world = (.ok value, between) →
      (∀ result after,
        (atomic.follow model (path ++ "." ++ rest)).run.run world = (.ok result, after) ↔
          (atomic.follow (.value value) rest).run.run between = (.ok result, after)) ∧
      ((∃ front after,
          StopsAt (atomic.along (.value value)) between (pathSegments rest) front after ∧
          (atomic.follow (.value value) rest).run.run between =
            (.error (.nullIntermediate (joinPath front) rest), after) ∧
          (atomic.follow model (path ++ "." ++ rest)).run.run world =
            (.error (.nullIntermediate (path ++ "." ++ joinPath front) (path ++ "." ++ rest)),
              after)) ∨
        (atomic.follow model (path ++ "." ++ rest)).run.run world =
          (atomic.follow (.value value) rest).run.run between) ∧
      (atomic.BlamesNone → ∀ blamed whole after,
        (atomic.follow model (path ++ "." ++ rest)).run.run world =
            (.error (.nullIntermediate blamed whole), after) ↔
          ∃ later, blamed = path ++ "." ++ later ∧ whole = path ++ "." ++ rest ∧
            (atomic.follow (.value value) rest).run.run between =
              (.error (.nullIntermediate later rest), after))) ∧
    ∀ segments : Resolver,
      (Resolver.dotted segments).getValue = (segments.names (.dotted segments)).follow ∧
        (segments.Blameless → (segments.names (.dotted segments)).BlamesNone) := by
  refine ⟨NameLookup.follow_refused noNull given, NameLookup.follow_walked noNull, ?_, ?_⟩
  · intro rest value between solid solid' notNull ran
    have simple : ∀ name ∈ pathSegments rest, SimpleName name := fun name member =>
      ⟨solid' name member, pathSegments_of_mem member⟩
    rcases NameLookup.follow_join_eq noNull solid solid' notNull ran with
      ⟨front, after, stops, behind, whole⟩ | ⟨behind, whole⟩
    · refine ⟨?_, .inl ⟨front, after, stops, behind, whole⟩, ?_⟩
      · intro result after'
        rw [behind, whole]
        exact iff_of_false nofun nofun
      · intro _ blamed full after'
        rw [behind, whole]
        constructor
        · rintro ⟨⟩
          exact ⟨joinPath front, rfl, rfl, rfl⟩
        · rintro ⟨later, rfl, rfl, raised⟩
          cases raised
          rfl
    · refine ⟨?_, .inr (whole.trans behind.symm), ?_⟩
      · intro result after
        rw [behind, whole]
      · intro blamesNone blamed full after
        rw [behind, whole]
        have never := blamesNone.along (.value value) simple between
        exact iff_of_false (never blamed full after) fun ⟨later, _, _, raised⟩ =>
          never later rest after raised
  · intro segments
    refine ⟨segments.dotted_getValue, fun blameless => ?_⟩
    exact Resolver.names_blamesNone blameless blameless

/-- A user without a name. -/
def namelessUser : Value :=
  .map [(.text "name", .null), (.text "visits", .integer 0)]

/-- The page of the user. -/
def userPage : Model :=
  .value (.map [(.text "user", namelessUser)])

/-- Single names, looked up by the usual resolver. -/
def pageNames : NameLookup :=
  (Resolver.segments 0).names (Resolver.standard 0)

/-- The name of the user is blamed as `user.name`, from the page on. -/
theorem follow_exact_user :
    userPage.isNull = false ∧ Solid "user" ∧ Solid "name.first" ∧
      (pageNames.follow userPage "user").run.run {} = (.ok namelessUser, {}) ∧
      (pageNames.follow (.value namelessUser) "name.first").run.run {} =
        (.error (.nullIntermediate "name" "name.first"), {}) ∧
      (pageNames.follow userPage "user.name.first").run.run {} =
        (.error (.nullIntermediate "user.name" "user.name.first"), {}) := by
  have user_segments : pathSegments "user" = ["user"] := by cbv
  have name_segments : pathSegments "name.first" = ["name", "first"] := by cbv
  have solid : Solid "user" := by
    unfold Solid
    rw [user_segments]
    simp
  have solid' : Solid "name.first" := by
    unfold Solid
    rw [name_segments]
    simp
  have noNull : userPage.isNull = false := rfl
  have notNull : (Model.value namelessUser).isNull = false := rfl
  have ran : (pageNames.follow userPage "user").run.run {} = (.ok namelessUser, {}) := by
    have here : pageNames userPage "user" = pure namelessUser := segments_map (by simp)
    rw [NameLookup.follow_eq noNull solid user_segments, here]
    rfl
  have behind : (pageNames.follow (.value namelessUser) "name.first").run.run {} =
      (.error (.nullIntermediate "name" "name.first"), {}) := by
    have name : pageNames (.value namelessUser) "name" = pure .null := segments_map (by simp)
    have whole : pageNames.follow (.value namelessUser) "name.first" =
        throw (.nullIntermediate (joinPath ["name"]) "name.first") := by
      rw [NameLookup.follow_eq notNull solid' name_segments, name, pure_bind]
      exact walkPath_null
    rw [whole, joinPath, String.intercalate_singleton]
    rfl
  have exact := follow_exact pageNames noNull solid.ne_empty {}
  have joined := exact.2.2.1 "name.first" namelessUser {} solid solid' notNull ran
  have blamesNone : pageNames.BlamesNone := (exact.2.2.2 (Resolver.segments 0)).2 ⟨trivial, trivial⟩
  have blamed := joined.2.2 blamesNone "user.name" "user.name.first" {}
  exact ⟨noNull, solid, solid', ran, behind, blamed.mpr ⟨"name", rfl, rfl, behind⟩⟩

end Stencil
