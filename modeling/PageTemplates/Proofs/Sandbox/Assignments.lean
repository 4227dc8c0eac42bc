import Mathlib
import PageTemplates.Proofs.Sandbox.Expressions

/-!
Assignments obey. An entry goes into what a variable holds, so that what is held has to be told from
what the variables of careful code hold when they get an entry: namespaces, which are never held. That
they still hold them when the value has been evaluated is so because evaluating sets no variables that
are there already.
-/

namespace PageTemplates

open Std.Do Template

set_option mvcgen.warning false

section Frames

variable [Regime] [watch : Watch] {machine after : Machine}

/-- The watch that also holds the variables of every run that a world has. -/
@[reducible]
def Watch.framing (going : machine.Going) : Watch where
  origin := machine.world
  held address := Held address ∨ ∃ state, machine.world.cell? address = some (.activation state)
  still := by
    rintro address (held | ⟨state, there⟩)
    · obtain ⟨first, origin, still⟩ := Watch.still address held.2
      exact ⟨first, going.world.kept address first held origin, still⟩
    · exact ⟨_, there, rfl⟩
  earlier := machine.emissions

variable (going : machine.Going)

theorem Machine.Going.framed : @Machine.Going _ (Watch.framing going) machine := by
  have below (address : Ref) : @Held _ (Watch.framing going) address →
      address < machine.world.fresh := by
    rintro ⟨_, held | ⟨state, there⟩⟩
    · exact going.world.below address held
    · exact going.world.placed address state there
  exact @Machine.Going.mk _ (Watch.framing going) machine
    (@Machine.Sound.mk _ (Watch.framing going) machine going.captures
      ⟨[], rfl, fun _ inside => absurd inside List.not_mem_nil⟩)
    (@World.Sound.mk _ (Watch.framing going) machine.world going.world.cells below
      going.world.placed fun _ _ _ there => there)
    going.unrefused

/-- A world that is sound for the watch that holds variables too is sound. -/
theorem World.Sound.unframed {world : World} :
    @World.Sound _ (Watch.framing going) world → world.Sound := by
  rintro ⟨cells, below, placed, kept⟩
  refine ⟨cells, fun address held => below address ⟨held.1, .inl held⟩, placed, ?_⟩
  intro address cell held origin
  exact kept address cell ⟨held.1, .inl held⟩ (going.world.kept address cell held origin)

theorem Machine.Sound.unframed : @Machine.Sound _ (Watch.framing going) after → after.Sound := by
  rintro ⟨captures, later, written, each⟩
  obtain ⟨before, first, earlier⟩ := going.emissions
  refine ⟨captures, later ++ before, ?_, fun emission inside => ?_⟩
  · rw [List.append_assoc, ← first]
    exact written
  · rcases List.mem_append.1 inside with late | early
    · exact World.Sound.unframed going (each emission late)
    · exact earlier emission early

theorem Machine.Going.unframed : @Machine.Going _ (Watch.framing going) after → after.Going := by
  rintro ⟨sound, world, unrefused⟩
  exact ⟨Machine.Sound.unframed going sound, World.Sound.unframed going world, unrefused⟩

theorem Machine.Stopped.unframed {failure : Failure} :
    @Machine.Stopped _ (Watch.framing going) failure after → after.Stopped failure := by
  rintro ⟨sound, world | ⟨told, allowed, before, address, items, clean, there, same⟩, refused⟩
  · exact ⟨Machine.Sound.unframed going sound, .inl (World.Sound.unframed going world), refused⟩
  · refine ⟨Machine.Sound.unframed going sound, .inr ⟨told, allowed, before, address, items, ?_⟩,
      refused⟩
    exact ⟨World.Sound.unframed going clean, there, same⟩

/-- What obeys the watch that holds variables too leaves all variables as they are. -/
theorem Obeys.unframed {Result : Type} {good : Result → Prop} {action : Act Result}
    (obeys : @Obeys _ (Watch.framing going) Result good action) :
    match action machine with
    | .ok result after => (after.Going ∧ good result) ∧
      (Regime.preserving → ∀ address state, machine.world.cell? address = some (.activation state) →
        after.world.cell? address = some (.activation state))
    | .error failure after => after.Stopped failure := by
  have outcome := obeys machine (Machine.Going.framed going)
  cases ran : action machine with
  | ok result after =>
    rw [ran] at outcome
    refine ⟨⟨Machine.Going.unframed going outcome.1, outcome.2⟩, fun frozen address state there => ?_⟩
    obtain ⟨⟨⟩, ⟨_, _, _, kept⟩, _⟩ := outcome.1
    exact kept address _ ⟨frozen, .inr ⟨state, there⟩⟩ there
  | error failure after =>
    rw [ran] at outcome
    exact Machine.Stopped.unframed going outcome

end Frames

namespace Run

variable [Regime] [Watch]

/-- Whether variables hold things that are not held, where it matters. -/
def Owned (stage : Stage) (owners : List Slot) (world : World) : Prop :=
  Regime.preserving → ∀ owner ∈ owners, ∃ address,
    findSlot world owner (stage.activation + 1) stage.activation = some (.ref address) ∧
      ¬ Watch.held address

/-- Whether a run obeys and leaves what variables hold. -/
def Owns {Result : Type} (stage : Stage) (owners : List Slot) (setting : Setting)
    (good : Result → Prop) (run : Run Result) : Prop :=
  ∀ machine : Machine, machine.Going → Owned stage owners machine.world →
    match run setting machine with
    | .ok result after => (after.Going ∧ Owned stage owners after.world) ∧ good result
    | .error failure after => after.Stopped failure

section Owns

variable {First Result : Type} {stage : Stage} {owners : List Slot} {setting : Setting}

theorem Owns.obeys {good : Result → Prop} {run : Run Result} {machine : Machine}
    (owns : Owns stage owners setting good run) (going : machine.Going)
    (owned : Owned stage owners machine.world) :
    match run setting machine with
    | .ok result after => after.Going ∧ good result
    | .error failure after => after.Stopped failure := by
  have held := owns machine going owned
  cases outcome : run setting machine with
  | ok result after =>
    rw [outcome] at held
    exact ⟨held.1.1, held.2⟩
  | error failure after =>
    rw [outcome] at held
    exact held

theorem owns_pure {good : Result → Prop} {result : Result} (fine : good result) :
    Owns stage owners setting good (pure result) := fun _ going owned => ⟨⟨going, owned⟩, fine⟩

theorem owns_bind {middle : First → Prop} {good : Result → Prop} {first : Run First}
    {rest : First → Run Result} (starts : Owns stage owners setting middle first)
    (goes : ∀ result, middle result → Owns stage owners setting good (rest result)) :
    Owns stage owners setting good (first >>= rest) := by
  intro machine going owned
  have held := starts machine going owned
  rw [bind_run]
  cases outcome : first setting machine with
  | ok result after =>
    rw [outcome] at held
    exact goes result held.2 after held.1.1 held.1.2
  | error failure after =>
    rw [outcome] at held
    exact held

/-- What obeys while variables are held too leaves what they hold. -/
theorem owned_after {good : Result → Prop} {action : Act Result} {machine : Machine}
    (going : machine.Going) (owned : Owned stage owners machine.world)
    (obeys : @Obeys _ (Watch.framing going) Result good action) :
    match action machine with
    | .ok result after => (after.Going ∧ Owned stage owners after.world) ∧ good result
    | .error failure after => after.Stopped failure := by
  have held := Obeys.unframed going obeys
  cases outcome : action machine with
  | ok result after =>
    rw [outcome] at held
    refine ⟨⟨held.1.1, fun frozen owner inside => ?_⟩, held.1.2⟩
    obtain ⟨address, found, free⟩ := owned frozen owner inside
    exact ⟨address, slot_stays (held.2 frozen) found, free⟩
  | error failure after =>
    rw [outcome] at held
    exact held

theorem owns_of_keeps {good : Result → Prop} {run : Run Result} (sound : setting.Sound)
    (keeps : ∀ [Watch], ⦃watched⦄ run ⦃ending good⦄) : Owns stage owners setting good run :=
  fun _ going owned => owned_after going owned <|
    @triple_iff _ (Watch.framing going) _ _ _ |>.1 (@keeps (Watch.framing going)) setting sound

/-- Another variable can get a value. -/
theorem owns_setSlot (sound : setting.Sound) (free : stage.IsFree) {slot : Slot} {value : Value}
    (fine : harmless value) (apart : Regime.preserving → slot ∉ owners) :
    Owns stage owners setting harmless (setSlot stage slot value) := by
  intro machine going owned
  have held := triple_iff.1 (keeps_setSlot stage slot value fine free) setting sound machine going
  simp only [setSlot, bind_run, world_run] at held ⊢
  cases there : activation? machine.world stage.activation with
  | none => exact ⟨⟨going, owned⟩, trivial⟩
  | some state =>
    rw [there] at held
    refine ⟨⟨held.1, fun frozen owner inside => ?_⟩, trivial⟩
    obtain ⟨address, found, unheld⟩ := owned frozen owner inside
    have other : owner ≠ slot := fun same => apart frozen (same ▸ inside)
    exact ⟨address, (slot_put there other value _ _).trans found, unheld⟩

/-- A thing that is held is what it was. -/
theorem keeps_held (address : Ref) : ⦃watched⦄ cell address
    ⦃ending fun found => harmless found ∧ (Held address → found = Watch.origin.cell? address)⦄ := by
  refine triple_iff.2 fun setting sound machine going => ?_
  have world : machine.world.Sound := going.world
  refine ⟨going, fun found there => world.cell there, fun held => ?_⟩
  obtain ⟨first, origin, -⟩ := Watch.still address held.2
  exact (world.kept address first held origin).trans origin.symm

/-- A thing that is not held, or is no thing that takes entries, can get an entry. -/
theorem keeps_putItem (target : Value) (name : Text) (value : Value) (fine : harmless value)
    (free : ∀ address, target = .ref address → Held address →
      ∃ state, Watch.origin.cell? address = some (.activation state)) :
    ⦃watched⦄ putItem target name value ⦃kept⦄ := by
  unfold putItem
  split
  case h_1 address =>
    refine keeps_bind (keeps_held address) fun found held => ?_
    have unheld (shape : ∀ state, found ≠ some (.activation state)) : ¬ Held address := by
      intro here
      obtain ⟨state, origin⟩ := free address rfl here
      exact shape state ((held.2 here).trans origin)
    split
    · refine keeps_bind keeps_world fun world _ => keeps_put _ _ ?_ rfl (unheld nofun)
      exact ContainerMethods.harmless_putEntry world (harmless_plain rfl) fine (held.1 _ rfl)
    · refine keeps_bind keeps_world fun world _ => ?_
      dsimp only
      split
      · refine keeps_put _ _ (harmless_array_modify (held.1 _ rfl) _ fun _ old => ?_) rfl
          (unheld nofun)
        exact ⟨old.1, fine⟩
      · refine keeps_put _ _ ((harmless_push _ _).2 ⟨held.1 _ rfl, ?_⟩) rfl (unheld nofun)
        exact ⟨harmless_plain rfl, fine⟩
    all_goals mvcgen
    all_goals grind -ring -linarith -order
  case h_2 =>
    mvcgen
    all_goals grind -ring -linarith -order

/-- What a variable holds can get an entry if it is not held. -/
theorem owns_enter (sound : setting.Sound) {owner : Slot} {name : Text} {value : Value}
    (fine : harmless value) (inside : Regime.preserving → owner ∈ owners) :
    Owns stage owners setting harmless (do putItem (← slotValue stage owner) name value) := by
  intro machine going owned
  have free (address : Ref) (target : (findSlot machine.world owner (stage.activation + 1)
      stage.activation).getD .missing = .ref address) :
      @Held _ (Watch.framing going) address →
        ∃ state, machine.world.cell? address = some (.activation state) := by
    rintro ⟨frozen, held | runs⟩
    · obtain ⟨other, found, unheld⟩ := owned frozen owner (inside frozen)
      rw [found, Option.getD_some, Value.ref.injEq] at target
      exact absurd held.2 (target ▸ unheld)
    · exact runs
  have keeps := @keeps_putItem _ (Watch.framing going) _ name value fine free
  rw [bind_run]
  exact owned_after going owned (@triple_iff _ (Watch.framing going) _ _ _ |>.1 keeps setting sound)

end Owns

mutual

/-- Assigning to a place obeys if the variables whose values get entries hold what is not held, and are
not assigned to themselves. -/
theorem owns_assign {stage : Stage} {owners : List Slot} {setting : Setting} (sound : setting.Sound)
    (free : stage.IsFree) (place : Place) {value : Value} (fine : harmless value)
    (within : Regime.preserving → ∀ owner ∈ place.entered, owner ∈ owners)
    (apart : Regime.preserving → ∀ owner ∈ owners, owner ∉ place.assigned) :
    Owns stage owners setting harmless (assign stage value place) := by
  cases place with
  | slot own =>
    refine owns_setSlot sound free fine fun frozen inside => ?_
    exact apart frozen own inside (List.mem_singleton_self own)
  | member owner name =>
    exact owns_enter sound fine fun frozen => within frozen owner (List.mem_singleton_self owner)
  | tuple places =>
    refine owns_bind (owns_of_keeps sound (keeps_unpacked value _ fine)) fun items itemsFine => ?_
    exact owns_assignAll sound free places itemsFine within apart

theorem owns_assignAll {stage : Stage} {owners : List Slot} {setting : Setting}
    (sound : setting.Sound) (free : stage.IsFree) (places : List Place) {values : List Value}
    (fine : harmless values)
    (within : Regime.preserving → ∀ owner ∈ Place.enteredAll places, owner ∈ owners)
    (apart : Regime.preserving → ∀ owner ∈ owners, owner ∉ Place.assignedAll places) :
    Owns stage owners setting harmless (assignAll stage values places) := by
  rcases values with _ | ⟨value, values⟩
  · unfold assignAll
    exact owns_pure ((harmless_inert ()).2 trivial)
  rcases places with _ | ⟨place, places⟩
  · unfold assignAll
    exact owns_pure ((harmless_inert ()).2 trivial)
  obtain ⟨first, others⟩ := (harmless_cons _ _).1 fine
  refine owns_bind (owns_assign sound free place first ?_ ?_) fun _ _ =>
    owns_assignAll sound free places others ?_ ?_
  · exact fun frozen owner inside => within frozen owner (List.mem_append_left _ inside)
  · exact fun frozen owner inside among => apart frozen owner inside (List.mem_append_left _ among)
  · exact fun frozen owner inside => within frozen owner (List.mem_append_right _ inside)
  · exact fun frozen owner inside among => apart frozen owner inside (List.mem_append_right _ among)

end

/-- Assigning to a place that gives no entries obeys. -/
@[spec]
theorem keeps_assign (stage : Stage) (value : Value) (place : Place) (free : stage.IsFree)
    (fine : harmless value) (plain : harmless place) : ⦃watched⦄ assign stage value place ⦃kept⦄ := by
  refine triple_iff.2 fun setting sound machine going => ?_
  have owns : Owns stage [] setting harmless (assign stage value place) := by
    refine owns_assign sound free place fine (fun frozen => ?_) fun _ => List.forall_mem_nil _
    rw [show place.entered = [] from plain frozen]
    exact List.forall_mem_nil _
  exact owns.obeys going fun _ => List.forall_mem_nil _

end Run

end PageTemplates
