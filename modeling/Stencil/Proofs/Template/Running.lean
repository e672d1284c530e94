/-
Module: Stencil.Proofs.Template.Running
Purpose: Rules for steps of a rendering: what they write, how they end, and that they leave the model
  and the objects alone.
Main exports: Runs, Interpretation.renderSetting, Stop.error, Outcome.result, Does
-/
import Stencil.Proofs.Template.Interpreter
import Stencil.Proofs.Template.Steps

namespace Stencil.Template

/-! ### Runs of a rendering -/

/-- In a model that stands for an environment, work has a result and writes a text, and it leaves the
model and the objects as they are. -/
def Runs {α : Type} (cache : Nat) (world : World) (environment : Environment) (work : Render α)
    (result : Except RenderError α) (output : String) : Prop :=
  ∀ before : Rendering, World.Alike cache world before.world →
    environment.Represents before.model →
      ∃ after : Rendering, work.run.run before = (result, after) ∧
        World.Alike cache world after.world ∧ after.model = before.model ∧
        after.output = before.output ++ output

namespace Runs

variable {α β : Type} {cache : Nat} {world : World} {environment : Environment}

theorem pure (value : α) :
    Runs cache world environment (Pure.pure value) (.ok value) "" :=
  fun before alike _ => ⟨before, rfl, alike, rfl, by simp⟩

theorem throw (error : RenderError) :
    Runs cache world environment (MonadExcept.throw error : Render α) (.error error) "" :=
  fun before alike _ => ⟨before, rfl, alike, rfl, by simp⟩

theorem bind {work : Render α} {next : α → Render β} {value : α} {result : Except RenderError β}
    {output output' : String} (first : Runs cache world environment work (.ok value) output)
    (second : Runs cache world environment (next value) result output') :
    Runs cache world environment (work >>= next) result (output ++ output') := by
  intro before alike stands
  obtain ⟨between, ran, alike', same, wrote⟩ := first before alike stands
  obtain ⟨after, ran', alike'', same', wrote'⟩ := second between alike' (same ▸ stands)
  refine ⟨after, (run_bind_ok ran).trans ran', alike'', same'.trans same, ?_⟩
  rw [wrote', wrote, String.append_assoc]

theorem bind_error {work : Render α} {next : α → Render β} {error : RenderError} {output : String}
    (first : Runs cache world environment work (.error error) output) :
    Runs cache world environment (work >>= next) (.error error) output := by
  intro before alike stands
  obtain ⟨after, ran, alike', same, wrote⟩ := first before alike stands
  exact ⟨after, run_bind_error ran, alike', same, wrote⟩

/-- Work that writes nothing, and then other work. -/
theorem silent {work : Render α} {next : α → Render β} {value : α} {result : Except RenderError β}
    {output : String} (first : Runs cache world environment work (.ok value) "")
    (second : Runs cache world environment (next value) result output) :
    Runs cache world environment (work >>= next) result output := by
  have both := bind first second
  rwa [String.empty_append] at both

theorem get {next : Rendering → Render β} {result : Except RenderError β} {output : String}
    (second : ∀ before : Rendering, environment.Represents before.model →
      Runs cache world environment (next before) result output) :
    Runs cache world environment (MonadState.get >>= next) result output := by
  intro before alike stands
  obtain ⟨after, ran, rest⟩ := second before stands before alike stands
  exact ⟨after, ran, rest⟩

theorem emit (piece : String) :
    Runs cache world environment (Render.emit piece) (.ok ()) piece :=
  fun before alike _ => ⟨_, rfl, alike, rfl, before.output_push piece⟩

theorem write (content : String) :
    Runs cache world environment (Render.write content) (.ok ()) content := by
  intro before alike _
  obtain ⟨after, ran, wrote⟩ := run_write content before
  exact ⟨after, ran, wrote.world ▸ alike, wrote.model, wrote.output⟩

/-- Writing a value writes its text, or stops with what raises when it is written down. -/
theorem writeValue (value : Value) :
    Runs cache world environment (Render.writeValue value)
      (match world.text value with
      | .ok _ => .ok ()
      | .error raised => .error (.lookup (.raised raised)))
      (match world.text value with
      | .ok content => content
      | .error _ => "") := by
  intro before alike stands
  have same : before.world.text value = world.text value := congrFun alike.text value
  cases written : world.text value with
  | ok content =>
      obtain ⟨after, ran, wrote⟩ := run_writeValue (same.trans written)
      exact ⟨after, ran, wrote.world ▸ alike, wrote.model, wrote.output⟩
  | error raised =>
      have ran := run_writeValue_error (same.trans written)
      exact ⟨before, ran, alike, rfl, String.append_empty.symm⟩

/-- Settled work on the objects is seen to end as it does. -/
theorem attempt {ε : Type} {work : ExceptT ε (StateM World) α} {result : Except ε α}
    (settles : Settles cache world work result) :
    Runs cache world environment (Render.attempt work) (.ok result) "" := by
  intro before alike _
  obtain ⟨after, ran, alike'⟩ := settles before.world alike
  refine ⟨{ before with world := after }, run_attempt ran, alike', rfl, ?_⟩
  rw [String.append_empty]
  rfl

end Runs

/-! ### Results of the interpreter as results of the renderer -/

/-- A fault at a line of a template. -/
def located {α : Type} (uri : Option String) (line : Nat) :
    Except RenderFault α → Except RenderError α
  | .ok value => .ok value
  | .error fault => .error (.located fault line uri)

/-- The error of a rendering that stops. -/
def Stop.error (uri : Option String) : Stop → RenderError
  | fault line reason => .located reason line uri
  | raised exception => .lookup (.raised exception)

/-- How the rendering of a template ends that is interpreted with an outcome. -/
def Outcome.result (uri : Option String) (outcome : Outcome) : Except RenderError Unit :=
  match outcome.stop? with
  | none => .ok ()
  | some stop => .error (stop.error uri)

/-- What the renderer needs to know in order to do what is interpreted. -/
def Interpretation.renderSetting (meaning : Interpretation) (cache : Nat) (uri : Option String) :
    RenderSetting :=
  ⟨Resolver.standard cache, uri, meaning.terminator, meaning.acceptsText⟩

/-- Work does what an outcome says. -/
def Does (cache : Nat) (world : World) (environment : Environment) (uri : Option String)
    (work : Render Unit) (outcome : Outcome) : Prop :=
  Runs cache world environment work (outcome.result uri) outcome.output

section Steps

variable {cache : Nat} {environment : Environment} {uri : Option String}
  {meaning : Interpretation}

theorem Does.andThen {world : World} {first later : Render Unit} {outcome outcome' : Outcome}
    (here : Does cache world environment uri first outcome)
    (there : Does cache world environment uri later outcome') :
    Does cache world environment uri (first >>= fun _ => later) (outcome.andThen outcome') := by
  obtain ⟨output, stop?⟩ := outcome
  cases stop? with
  | none => exact Runs.bind here there
  | some stop => exact Runs.bind_error here

theorem Does.text (value : Value) :
    Does cache meaning.world environment uri (Render.writeValue value) (meaning.text value) := by
  have runs : Runs cache meaning.world environment (Render.writeValue value) _ _ :=
    Runs.writeValue value
  unfold Interpretation.text
  cases written : meaning.world.text value with
  | ok content =>
      rw [written] at runs
      exact runs
  | error raised =>
      rw [written] at runs
      exact runs

theorem Does.wrote {world : World} (content : String) :
    Does cache world environment uri (Render.write content) (.wrote content) :=
  Runs.write content

end Steps

end Stencil.Template
