/-
Module: Stencil.Proofs.Property.Lockstep
Purpose: Two pieces of work, on states of their own, that end alike when they start alike, and the
  rules for putting such work together.
Main exports: loggedThen, Ends, Lockstep, Lockstep.bind, Lockstep.tryCatch, Lockstep.skip,
  Lockstep.run_eq
-/
import Mathlib.Data.List.Forall2
import Stencil.Property.Resolver

namespace Stencil

section Runs

variable {σ ε α β : Type} {before after : σ}

/-- Work goes on where what comes first has ended. -/
theorem run_bind_ok {work : ExceptT ε (StateM σ) α} {next : α → ExceptT ε (StateM σ) β} {value : α}
    (ran : work.run.run before = (.ok value, after)) :
    (work >>= next).run.run before = (next value).run.run after := by
  rw [ExceptT.run_bind, StateT.run_bind, ran]
  rfl

/-- Work ends where what comes first has failed. -/
theorem run_bind_error {work : ExceptT ε (StateM σ) α} {next : α → ExceptT ε (StateM σ) β}
    {error : ε} (ran : work.run.run before = (.error error, after)) :
    (work >>= next).run.run before = (.error error, after) := by
  rw [ExceptT.run_bind, StateT.run_bind, ran]
  rfl

/-- Work that has a result has one of what comes first, and goes on with it. -/
theorem exists_of_run_bind {work : ExceptT ε (StateM σ) α} {next : α → ExceptT ε (StateM σ) β}
    {result : β} (ran : (work >>= next).run.run before = (.ok result, after)) :
    ∃ value between, work.run.run before = (.ok value, between) ∧
      (next value).run.run between = (.ok result, after) := by
  obtain ⟨⟨first, between⟩, ends⟩ : ∃ ended, work.run.run before = ended := ⟨_, rfl⟩
  cases first with
  | ok value => exact ⟨value, between, ends, (run_bind_ok ends).symm.trans ran⟩
  | error error =>
      rw [run_bind_error ends] at ran
      cases ran

theorem run_tryCatch_ok {work : ExceptT ε (StateM σ) α} {handler : ε → ExceptT ε (StateM σ) α}
    {value : α} (ran : work.run.run before = (.ok value, after)) :
    (tryCatch work handler).run.run before = (.ok value, after) := by
  rw [ExceptT.run_tryCatch, StateT.run_bind, ran]
  rfl

/-- The handler starts where the work has failed. -/
theorem run_tryCatch_error {work : ExceptT ε (StateM σ) α} {handler : ε → ExceptT ε (StateM σ) α}
    {error : ε} (ran : work.run.run before = (.error error, after)) :
    (tryCatch work handler).run.run before = (handler error).run.run after := by
  rw [ExceptT.run_tryCatch, StateT.run_bind, ran]
  rfl

/-- What work adds to a log, and, unless it fails, what the work behind it adds. -/
def loggedThen {γ : Type} (work : ExceptT ε (StateM σ) α) (first : σ → List γ)
    (later : α → σ → List γ) (state : σ) : List γ :=
  first state ++
    match work.run.run state with
    | (.ok value, after) => later value after
    | (.error _, _) => []

end Runs

/-- How work may end: with a value, or with an error. -/
def Ends {ε α : Type} (Q : α → Prop) (E : ε → Prop) : Except ε α → Prop
  | .ok value => Q value
  | .error error => E error

theorem Ends.any {ε α : Type} (result : Except ε α) :
    Ends (fun _ => True) (fun _ => True) result := by
  cases result <;> trivial

theorem Ends.mono {ε α : Type} {Q Q' : α → Prop} {E E' : ε → Prop} {result : Except ε α}
    (ends : Ends Q E result) (values : ∀ value, Q value → Q' value)
    (errors : ∀ error, E error → E' error) : Ends Q' E' result := by
  cases result with
  | ok value => exact values value ends
  | error error => exact errors error ends

/-- What follows an allowed value ends as it is allowed to. -/
theorem Ends.bind {ε α β : Type} {Q : α → Prop} {Q' : β → Prop} {E : ε → Prop}
    {first : Except ε α} {second : α → Except ε β} (here : Ends Q E first)
    (later : ∀ value, Q value → Ends Q' E (second value)) : Ends Q' E (first >>= second) := by
  cases first with
  | ok value => exact later value here
  | error error => exact here

theorem Ends.mapError {ε ε' α : Type} {Q : α → Prop} {E : ε → Prop} {E' : ε' → Prop}
    {result : Except ε α} (as : ε → ε') (ends : Ends Q E result)
    (allows : ∀ error, E error → E' (as error)) : Ends Q E' (result.mapError as) := by
  cases result with
  | ok value => exact ends
  | error error => exact allows error ends

/-- Work on each of several items ends with the results of all, or fails as one of them does. -/
theorem Ends.mapM {ε α β : Type} {Q : β → Prop} {E : ε → Prop} {step : α → Except ε β}
    {items : List α} (steps : ∀ item ∈ items, Ends Q E (step item)) :
    Ends (fun results => ∀ result ∈ results, Q result) E (items.mapM step) := by
  induction items with
  | nil => exact List.forall_mem_nil Q
  | cons item rest ih =>
      obtain ⟨here, later⟩ := List.forall_mem_cons.mp steps
      rw [List.mapM_cons]
      refine here.bind fun result allowed => (ih later).bind fun results alsoAllowed => ?_
      exact List.forall_mem_cons.mpr ⟨allowed, alsoAllowed⟩

theorem Ends.error {ε α : Type} {Q : α → Prop} {E : ε → Prop} {result : Except ε α} {error : ε}
    (ends : Ends Q E result) (failed : result = .error error) : E error := by
  subst failed
  exact ends

/-! ### Work on several items -/

section Each

variable {ε α β : Type} {step : α → Except ε β}

theorem mapM_single (item : α) : [item].mapM step = (step item).map fun result => [result] := by
  rw [List.mapM_cons]
  cases step item <;> rfl

/-- Work that is done on each item gives one result for each, in order. -/
theorem mapM_of_each {items : List α} (each : ∀ item ∈ items, ∃ result, step item = .ok result) :
    ∃ results, items.mapM step = .ok results ∧
      List.Forall₂ (fun item result => step item = .ok result) items results := by
  induction items with
  | nil => exact ⟨[], rfl, .nil⟩
  | cons item rest ih =>
      obtain ⟨⟨result, here⟩, later⟩ := List.forall_mem_cons.mp each
      obtain ⟨results, ran, relates⟩ := ih later
      refine ⟨result :: results, ?_, .cons here relates⟩
      rw [List.mapM_cons, here, ran]
      rfl

/-- Work that has results has been done on each item. -/
theorem each_of_mapM {items : List α} {results : List β} (ran : items.mapM step = .ok results) :
    ∀ item ∈ items, ∃ result, step item = .ok result := by
  induction items generalizing results with
  | nil => exact List.forall_mem_nil _
  | cons item rest ih =>
      rw [List.mapM_cons] at ran
      cases here : step item with
      | error error =>
          rw [here] at ran
          cases ran
      | ok result =>
          rw [here] at ran
          cases later : rest.mapM step with
          | error error =>
              rw [later] at ran
              cases ran
          | ok others => exact List.forall_mem_cons.mpr ⟨⟨result, here⟩, ih later⟩

/-- The first item that fails ends the work. -/
theorem mapM_of_first {before after : List α} {item : α} {error : ε}
    (each : ∀ earlier ∈ before, ∃ result, step earlier = .ok result)
    (failed : step item = .error error) : (before ++ item :: after).mapM step = .error error := by
  induction before with
  | nil =>
      rw [List.nil_append, List.mapM_cons, failed]
      rfl
  | cons earlier rest ih =>
      obtain ⟨⟨result, here⟩, later⟩ := List.forall_mem_cons.mp each
      rw [List.cons_append, List.mapM_cons, here, ih later]
      rfl

/-- Where the work fails, there is a first item that fails. -/
theorem exists_first_of_mapM {items : List α} {error : ε} (failed : items.mapM step = .error error) :
    ∃ before item after, items = before ++ item :: after ∧
      (∀ earlier ∈ before, ∃ result, step earlier = .ok result) ∧ step item = .error error := by
  induction items with
  | nil => cases failed
  | cons item rest ih =>
      rw [List.mapM_cons] at failed
      cases here : step item with
      | error first =>
          rw [here] at failed
          cases failed
          exact ⟨[], item, rest, rfl, List.forall_mem_nil _, here⟩
      | ok result =>
          rw [here] at failed
          cases later : rest.mapM step with
          | ok results =>
              rw [later] at failed
              cases failed
          | error second =>
              rw [later] at failed
              cases failed
              obtain ⟨before, next, after, rfl, each, failed⟩ := ih later
              refine ⟨item :: before, next, after, rfl, ?_, failed⟩
              exact List.forall_mem_cons.mpr ⟨⟨result, here⟩, each⟩

end Each

/-! ### Two pieces of work -/

/-- From related states two pieces of work end with the same result, which is one that is allowed,
and again in related states. -/
def Lockstep {σ τ ε α : Type} (R : σ → τ → Prop) (Q : α → Prop) (E : ε → Prop)
    (work : ExceptT ε (StateM σ) α) (other : ExceptT ε (StateM τ) α) : Prop :=
  ∀ before before', R before before' →
    ∃ result after after', work.run.run before = (result, after) ∧
      other.run.run before' = (result, after') ∧ R after after' ∧ Ends Q E result

namespace Lockstep

variable {σ τ ε ε' α β : Type} {R : σ → τ → Prop} {Q : α → Prop} {Q' : β → Prop} {E : ε → Prop}
  {E' : ε' → Prop}

theorem pure {value : α} (allowed : Q value) :
    Lockstep R Q E (Pure.pure value : ExceptT ε (StateM σ) α) (Pure.pure value) :=
  fun before before' related => ⟨.ok value, before, before', rfl, rfl, related, allowed⟩

theorem throw {error : ε} (allowed : E error) :
    Lockstep R Q E (MonadExcept.throw error : ExceptT ε (StateM σ) α) (MonadExcept.throw error) :=
  fun before before' related => ⟨.error error, before, before', rfl, rfl, related, allowed⟩

/-- Work goes on in lockstep with whatever allowed value comes first. -/
theorem bind {work : ExceptT ε (StateM σ) α} {other : ExceptT ε (StateM τ) α}
    {next : α → ExceptT ε (StateM σ) β} {next' : α → ExceptT ε (StateM τ) β}
    (first : Lockstep R Q E work other)
    (second : ∀ value, Q value → Lockstep R Q' E (next value) (next' value)) :
    Lockstep R Q' E (work >>= next) (other >>= next') := by
  intro before before' related
  obtain ⟨result, between, between', ran, ran', related', allowed⟩ := first before before' related
  cases result with
  | ok value =>
      obtain ⟨result, after, after', later, later', related'', allowed'⟩ :=
        second value allowed between between' related'
      exact ⟨result, after, after', (run_bind_ok ran).trans later, (run_bind_ok ran').trans later',
        related'', allowed'⟩
  | error error =>
      exact ⟨.error error, between, between', run_bind_error ran, run_bind_error ran', related',
        allowed⟩

/-- What would come behind a failure does not matter. -/
theorem bind_throw {error : ε} {next : α → ExceptT ε (StateM σ) β}
    {next' : α → ExceptT ε (StateM τ) β} (allowed : E error) :
    Lockstep R Q' E (MonadExcept.throw error >>= next) (MonadExcept.throw error >>= next') :=
  bind (Q := fun _ => False) (throw allowed) fun _ impossible => impossible.elim

/-- Looking at the states is in lockstep if what follows is, whatever related states are seen. -/
theorem get {next : σ → ExceptT ε (StateM σ) β} {next' : τ → ExceptT ε (StateM τ) β}
    (second : ∀ before before', R before before' →
      Lockstep R Q' E (next before) (next' before')) :
    Lockstep R Q' E (MonadState.get >>= next) (MonadState.get >>= next') :=
  fun before before' related => second before before' related before before' related

theorem update {change : σ → σ} {change' : τ → τ}
    (keeps : ∀ before before', R before before' → R (change before) (change' before')) :
    Lockstep R (fun _ => True) E (modify change : ExceptT ε (StateM σ) PUnit)
      (modify change' : ExceptT ε (StateM τ) PUnit) :=
  fun before before' related =>
    ⟨.ok ⟨⟩, change before, change' before', rfl, rfl, keeps before before' related, trivial⟩

/-- Work that fails goes on in lockstep with its handler. -/
theorem tryCatch {work : ExceptT ε (StateM σ) α} {other : ExceptT ε (StateM τ) α}
    {handler : ε → ExceptT ε (StateM σ) α} {handler' : ε → ExceptT ε (StateM τ) α}
    {F : ε → Prop} (first : Lockstep R Q F work other)
    (second : ∀ error, F error → Lockstep R Q E (handler error) (handler' error)) :
    Lockstep R Q E (MonadExcept.tryCatch work handler) (MonadExcept.tryCatch other handler') := by
  intro before before' related
  obtain ⟨result, between, between', ran, ran', related', allowed⟩ := first before before' related
  cases result with
  | ok value =>
      exact ⟨.ok value, between, between', run_tryCatch_ok ran, run_tryCatch_ok ran', related',
        allowed⟩
  | error error =>
      obtain ⟨result, after, after', later, later', related'', allowed'⟩ :=
        second error allowed between between' related'
      exact ⟨result, after, after', (run_tryCatch_error ran).trans later,
        (run_tryCatch_error ran').trans later', related'', allowed'⟩

/-- More values and more errors can be allowed. -/
theorem mono {work : ExceptT ε (StateM σ) α} {other : ExceptT ε (StateM τ) α} {E' : ε → Prop}
    {Q' : α → Prop} (first : Lockstep R Q E work other) (values : ∀ value, Q value → Q' value)
    (errors : ∀ error, E error → E' error) : Lockstep R Q' E' work other := by
  intro before before' related
  obtain ⟨result, after, after', ran, ran', related', allowed⟩ := first before before' related
  exact ⟨result, after, after', ran, ran', related', allowed.mono values errors⟩

/-- Errors can be seen as errors of another kind. -/
theorem adapt {work : ExceptT ε (StateM σ) α} {other : ExceptT ε (StateM τ) α} (as : ε → ε')
    (allows : ∀ error, E error → E' (as error)) (first : Lockstep R Q E work other) :
    Lockstep R Q E' (ExceptT.adapt as work) (ExceptT.adapt as other) := by
  intro before before' related
  obtain ⟨result, after, after', ran, ran', related', allowed⟩ := first before before' related
  refine ⟨result.mapError as, after, after', ?_, ?_, related', ?_⟩
  · rw [ExceptT.run_adapt, StateT.run_map, ran]
    rfl
  · rw [ExceptT.run_adapt, StateT.run_map, ran']
    rfl
  · cases result with
    | ok value => exact allowed
    | error error => exact allows error allowed

/-! ### Steps of one side only -/

/-- Work on one side that gives a value, and then work in lockstep. -/
theorem skip {work : ExceptT ε (StateM σ) β} {other : ExceptT ε (StateM τ) α}
    {next' : α → ExceptT ε (StateM τ) β} {value : α}
    (first : Lockstep R (fun _ => True) E (Pure.pure value) other)
    (second : Lockstep R Q' E work (next' value)) : Lockstep R Q' E work (other >>= next') := by
  intro before before' related
  obtain ⟨result, between, between', ran, ran', related', -⟩ := first before before' related
  cases ran
  obtain ⟨result, after, after', later, later', related'', allowed⟩ :=
    second before between' related'
  exact ⟨result, after, after', later, (run_bind_ok ran').trans later', related'', allowed⟩

/-- The two sides can be exchanged. -/
theorem symm {S : τ → σ → Prop} {work : ExceptT ε (StateM σ) α} {other : ExceptT ε (StateM τ) α}
    (lockstep : Lockstep R Q E work other)
    (turned : ∀ before before', S before' before ↔ R before before') :
    Lockstep S Q E other work := by
  intro before' before related
  obtain ⟨result, after, after', ran, ran', related', allowed⟩ :=
    lockstep before before' ((turned before before').mp related)
  exact ⟨result, after', after, ran', ran, (turned after after').mpr related', allowed⟩

/-- Work that gives the same value on both sides, each side for itself. -/
theorem join {work : ExceptT ε (StateM σ) α} {other : ExceptT ε (StateM τ) α} {value : α}
    (here : Lockstep R (fun _ => True) E work (Pure.pure value))
    (there : Lockstep R Q E (Pure.pure value) other) : Lockstep R Q E work other := by
  intro before before' related
  obtain ⟨result, after, between', ran, ran', related', -⟩ := here before before' related
  cases ran'
  obtain ⟨result, between, after', same, ran', related'', allowed⟩ := there after before' related'
  cases same
  exact ⟨_, _, after', ran, ran', related'', allowed⟩

/-! ### Work and itself -/

/-- From one state, work goes in lockstep with itself through all states that it comes to. -/
theorem alone {S : σ → Prop} {work : ExceptT ε (StateM σ) α}
    (keeps : ∀ before, S before →
      S (work.run.run before).2 ∧ Ends Q E (work.run.run before).1) :
    Lockstep (fun state other => other = state ∧ S state) Q E work work := by
  rintro before before' ⟨rfl, holds⟩
  obtain ⟨holds', ends⟩ := keeps before' holds
  exact ⟨_, _, _, rfl, rfl, ⟨rfl, holds'⟩, ends⟩

/-- In one state, work does the same as itself. -/
theorem same (work : ExceptT ε (StateM σ) α) :
    Lockstep (fun state other => other = state) (fun _ => True) (fun _ => True) work work := by
  rintro before _ rfl
  exact ⟨_, _, _, rfl, rfl, rfl, Ends.any _⟩

/-- Work in lockstep has the same results. -/
theorem run_eq {work : ExceptT ε (StateM σ) α} {other : ExceptT ε (StateM τ) α}
    (lockstep : Lockstep R Q E work other) {before : σ} {before' : τ} (related : R before before') :
    (work.run.run before).1 = (other.run.run before').1 ∧
      R (work.run.run before).2 (other.run.run before').2 ∧ Ends Q E (work.run.run before).1 := by
  obtain ⟨result, after, after', ran, ran', related', allowed⟩ := lockstep before before' related
  rw [ran, ran']
  exact ⟨rfl, related', allowed⟩

end Lockstep

end Stencil
