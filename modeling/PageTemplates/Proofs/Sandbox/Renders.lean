import Mathlib
import PageTemplates.Proofs.PageRender
import PageTemplates.Proofs.Render.Payloads
import PageTemplates.Proofs.Sandbox.Calls
import PageTemplates.Render.Powers

/-!
Running a template obeys at every level of nesting. So a setting whose templates are careful and whose
functions are gentle is sound.
-/

namespace PageTemplates

open Std.Do Template

set_option mvcgen.warning false

variable [Regime]

namespace Run

variable [Watch]

/-- Running a careful template in a context obeys. -/
theorem keeps_runTemplate (entry : Entry) (context : Ref) (fine : harmless entry) :
    ⦃watched⦄ runTemplate entry context ⦃kept⦄ := by
  have careful : Regime.preserving → Step.areCareful entry.program.body = true :=
    fun frozen => Bool.and_elim_left (fine frozen)
  have steps := @keeps_runSteps
  have known (setting : Setting) (sound : setting.Sound) := sound.templates
  mvcgen [runTemplate, steps]
  all_goals grind -ring -linarith -order

/-- Running a careful block in a context obeys. -/
theorem keeps_runBlockCode (entry : BlockEntry) (context : Ref) (fine : harmless entry) :
    ⦃watched⦄ runBlockCode entry context ⦃kept⦄ := by
  have careful : Regime.preserving → Step.areCareful entry.code.body = true := fine
  have steps := @keeps_runSteps
  mvcgen [runBlockCode, steps]
  all_goals grind -ring -linarith -order

end Run

namespace Powers

theorem obeys_throw [Watch] {Result : Type} {good : Result → Prop} (failure : Failure) :
    Obeys good (throw failure : Act Result) := fun _ going =>
  ⟨going.toSound, .inl going.world, fun counts => .inl (going.unrefused counts)⟩

/-- Below the last level every call fails. -/
theorem none_obedient [Watch] : none.Obedient where
  call _ _ _ _ _ := obeys_throw _
  advance _ := obeys_throw _
  renderTemplate _ _ _ _ := obeys_throw _
  renderBlock _ _ _ := obeys_throw _

variable {functions : Array Function} {setting : Setting}
  (gentle : ∀ function ∈ functions, function.IsGentle)
  (environment : setting.environment = Regime.environment)
  (globals : harmless setting.environment.globals) (templates : harmless setting.templates)
include gentle environment globals templates

/-- The powers of a level obey if those of the level below do. -/
theorem above_obedient {below : Powers} (obedient : ∀ [Watch], below.Obedient) [Watch] :
    (above functions setting below).Obedient := by
  have sound : (setting.withPowers below).Sound := ⟨environment, globals, templates, obedient⟩
  constructor
  · exact fun context target given fine givenFine => triple_iff.1
      (Run.keeps_callValue functions context target given gentle fine givenFine) _ sound
  · exact fun iterator => triple_iff.1 (Run.keeps_nextItem iterator) _ sound
  · exact fun _ entry context fine =>
      triple_iff.1 (Run.keeps_runTemplate entry context fine) _ sound
  · exact fun entry context fine =>
      triple_iff.1 (Run.keeps_runBlockCode entry context fine) _ sound

/-- The powers of every level obey. -/
theorem ofLevel_obedient (level : Nat) : ∀ [Watch], (ofLevel functions setting level).Obedient := by
  induction level with
  | zero =>
    intro watch
    exact none_obedient
  | succ level ih =>
    intro watch
    exact above_obedient gentle environment globals templates ih

end Powers

/-- A setting with all powers is sound if its templates are careful and its functions are gentle. -/
theorem Setting.empowered_sound {functions : Array Function} {templates : List (Text × Entry)}
    (gentle : ∀ function ∈ functions, function.IsGentle)
    (globals : harmless Regime.environment.globals) (fine : harmless templates) :
    (empowered functions Regime.environment templates).Sound where
  environment := rfl
  globals := globals
  templates := fine
  powers := Powers.ofLevel_obedient gentle rfl globals fine Powers.levels

end PageTemplates

/-!
Renders in sound settings. The watch of a render holds all that its world has of what stays as it is;
so whatever the render comes to, the payload is there as before, and its pieces were written in worlds
in which it is. Only a list can have taken in a line break, as the failure tells.
-/

namespace PageTemplates

open Std.Do

variable [Regime]

/-- A world in which everything is harmless. -/
structure World.IsClean (world : World) : Prop where
  cells : ∀ address cell, world.cell? address = some cell → harmless cell
  placed : ∀ address state, world.cell? address = some (.activation state) → address < world.fresh

namespace World

theorem empty_clean : empty.IsClean := by
  constructor
  all_goals
    intro address cell there
    cases there

theorem IsClean.kept {world : World} (clean : world.IsClean) : world.kept.IsClean := by
  unfold World.kept
  split
  · exact empty_clean
  · exact clean

/-- The number of calls that were counted does not matter. -/
theorem IsClean.ticking {world : World} (clean : world.IsClean) (ticks : Nat) :
    IsClean { world with ticks := ticks } := ⟨clean.cells, clean.placed⟩

theorem Sound.clean [Watch] {world : World} (sound : world.Sound) : world.IsClean :=
  ⟨sound.cells, sound.placed⟩

theorem Broken.clean [Watch] {world : World} {failure : Failure} (broken : world.Broken failure) :
    world.IsClean := by
  obtain ⟨-, -, before, address, items, sound, there, rfl⟩ := broken
  have fine : harmless items := World.Sound.items sound address items there
  constructor
  · intro other found here
    rw [cell_put] at here
    split at here
    · exact Option.some.inj here ▸ (harmless_push _ _).2 ⟨fine, harmless_plain rfl⟩
    · exact sound.cells other found here
  · intro other state here
    rw [cell_put] at here
    split at here
    · cases here
    · exact sound.placed other state here

end World

/-- The watch of a render that starts in a world: it holds what stays as it is. -/
@[reducible]
def Watch.render (world : World) : Watch where
  origin := world
  held address :=
    address < world.fresh ∧ ∃ cell, world.cell? address = some cell ∧ cell.isStill = true
  still := by
    rintro address ⟨-, cell, there, still⟩
    exact ⟨cell, there, still⟩
  earlier := []

section Starts

variable {world later : World}

/-- A render can start in a clean world. -/
theorem World.IsClean.going (clean : world.IsClean) :
    @Machine.Going _ (Watch.render world) ⟨world, [], [], 0⟩ := by
  let watch := Watch.render world
  refine ⟨⟨harmless_nil.2 trivial, [], rfl, List.forall_mem_nil _⟩, ?_, fun _ => rfl⟩
  exact ⟨clean.cells, fun address held => held.2.1, clean.placed, fun _ _ _ there => there⟩

theorem World.Sound.retains (frozen : Regime.preserving)
    (sound : @World.Sound _ (Watch.render world) later) : world.Retains later := by
  let watch := Watch.render world
  rintro address cell still ⟨inside, there⟩
  have held : Held address := ⟨frozen, inside, cell, there, still⟩
  exact ⟨sound.below address held, sound.kept address cell held there⟩

/-- All that was written was written in worlds that are sound. -/
theorem Machine.Sound.emitted {machine : Machine} :
    @Machine.Sound _ (Watch.render world) machine →
      ∀ emission ∈ machine.emissions.reverse, @World.Sound _ (Watch.render world) emission.world := by
  rintro ⟨-, later, written, each⟩ emission inside
  have all : machine.emissions = later := written.trans (List.append_nil later)
  exact each emission (all ▸ List.mem_reverse.1 inside)

end Starts

section Payloads

variable [Watch]

/-- What a payload gives to a template is harmless. -/
@[spec]
theorem TemplateSet.keeps_payload (data : Value) (fine : harmless data) :
    ⦃watched⦄ TemplateSet.payload data ⦃kept⦄ := by
  mvcgen [TemplateSet.payload]
  all_goals grind -ring -linarith -order

end Payloads

section Traces

/-- Data that is put into a clean world leaves it clean. -/
theorem Payload.taken_clean {setting : Setting} (sound : setting.Sound) (data : Data) {home : World}
    (clean : home.IsClean) :
    harmless (Payload.taken data home).1 ∧ (Payload.taken data home).2.IsClean := by
  let watch := Watch.render home
  obtain ⟨after, given, same, -⟩ := Run.taken_gives data home
  have outcome := triple_iff.1 (Run.keeps_ofData data) setting sound _ clean.going
  rw [given setting] at outcome
  exact ⟨outcome.2, same ▸ World.Sound.clean outcome.1.world⟩

/-- How a trace ends that started in a world. -/
structure Trace.Ended (origin : World) (trace : Trace) : Prop where
  emissions : ∀ emission ∈ trace.emissions, @World.Sound _ (Watch.render origin) emission.world
  world : @World.Sound _ (Watch.render origin) trace.world ∨
    ∃ failure, trace.failure = some failure ∧
      @World.Broken _ (Watch.render origin) failure trace.world
  refused : Regime.counting → trace.refusals = 0 ∨
    trace.refusals = 1 ∧ ∃ failure, trace.failure = some failure ∧ failure.IsRefusal

variable {set : TemplateSet} {world : World} {name : Text} {entry : Entry} {value : Value}

theorem TemplateSet.trace_ended (sound : set.setting.Sound) (clean : world.IsClean)
    (entryFine : harmless entry) (valueFine : harmless value) :
    (set.trace world name entry value).Ended world := by
  let watch := Watch.render world
  have keeps : ⦃watched⦄ (do
      let given ← TemplateSet.payload value
      Run.renderTemplate name entry (← Run.newContext name entry given)) ⦃kept⦄ :=
    Run.keeps_bind (TemplateSet.keeps_payload value valueFine) fun given givenFine =>
      Run.keeps_bind (Run.keeps_newContext name entry given entryFine givenFine) fun context _ =>
        Run.keeps_renderTemplate name entry context entryFine
  have outcome := triple_iff.1 keeps set.setting sound _ clean.going
  unfold TemplateSet.trace
  simp only [ReaderT.run, EStateM.run]
  split
  · rename_i ran
    rw [ran] at outcome
    exact ⟨Machine.Sound.emitted outcome.1.toSound, .inl outcome.1.world,
      fun counts => .inl (outcome.1.unrefused counts)⟩
  · rename_i ran
    rw [ran] at outcome
    exact ⟨Machine.Sound.emitted outcome.toSound,
      outcome.world.imp_right fun broken => ⟨_, rfl, broken⟩,
      fun counts => (outcome.refused counts).imp_right fun refused => ⟨refused.1, _, rfl, refused.2⟩⟩

end Traces

end PageTemplates
