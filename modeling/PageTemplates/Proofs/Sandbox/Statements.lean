import Mathlib
import PageTemplates.Proofs.Sandbox.Assignments
import PageTemplates.Render.Statement

/-!
Running careful statements obeys, where the variables of the run may be set.
-/

namespace PageTemplates.Run

open Std.Do Template

set_option mvcgen.warning false

variable [Regime] [Watch]

section Templates

omit [Watch] in
@[grind =]
theorem harmless_entry {entry : Entry} :
    harmless entry ↔ (Regime.preserving → entry.program.isCareful = true) := Iff.rfl

@[spec]
theorem keeps_templateNamed (value : Value) : ⦃watched⦄ templateNamed value ⦃kept⦄ := by
  have known (setting : Setting) (sound : setting.Sound) := sound.templates
  mvcgen [templateNamed]
  all_goals grind -ring -linarith -order

@[spec]
theorem keeps_shownName (value : Value) : ⦃watched⦄ shownName value ⦃kept⦄ := by
  mvcgen [shownName]
  all_goals grind -ring -linarith -order

@[spec]
theorem keeps_firstTemplate (names : Value) (values : List Value) (fine : harmless names) :
    ⦃watched⦄ firstTemplate names values ⦃kept⦄ := by
  induction values with
  | nil =>
    mvcgen [firstTemplate]
    all_goals grind -ring -linarith -order
  | cons value rest ih =>
    mvcgen [firstTemplate, ih]
    all_goals grind -ring -linarith -order [Failure.isTemplateMissing]

@[spec]
theorem keeps_selected (selection : Selection) (value : Value) (fine : harmless value) :
    ⦃watched⦄ selected selection value ⦃kept⦄ := by
  mvcgen [selected]
  all_goals grind -ring -linarith -order

omit [Watch] in
theorem harmless_blocks {entry : Entry} (fine : harmless entry) :
    ∀ block ∈ entry.program.blocks, harmless block := by
  intro block inside frozen
  have careful := fine frozen
  rw [Program.isCareful, Bool.and_eq_true, List.all_eq_true] at careful
  exact careful.2 block inside

@[spec]
theorem keeps_newContext (name : Text) (entry : Entry) (given : List (Text × Value))
    (fine : harmless entry) (givenFine : harmless given) :
    ⦃watched⦄ newContext name entry given ⦃ending fun address => ¬ Held address⦄ := by
  have blocks : harmless (entry.program.blocks.map fun block =>
      (block.name, [(⟨name, block⟩ : BlockEntry)])) := by
    refine (harmless_map _ _).2 fun block inside => ⟨(harmless_inert _).2 trivial, ?_⟩
    exact (harmless_cons _ _).2 ⟨harmless_blocks fine block inside, harmless_nil.2 trivial⟩
  mvcgen [newContext]
  all_goals grind -ring -linarith -order

@[spec]
theorem keeps_sharedContext (name : Text) (entry : Entry) (stage : Stage) (locals : Locals)
    (fine : harmless entry) :
    ⦃watched⦄ sharedContext name entry stage locals ⦃ending fun address => ¬ Held address⦄ := by
  refine keeps_bind (keeps_contextState stage.context) fun state stateFine =>
    keeps_bind (keeps_localValues stage locals) fun values valuesFine => ?_
  exact keeps_newContext name entry _ fine (harmless_putAll valuesFine (harmless_allNames stateFine))

@[spec]
theorem keeps_derivedContext (stage : Stage) (locals : Locals) :
    ⦃watched⦄ derivedContext stage locals ⦃ending fun address => ¬ Held address⦄ := by
  refine keeps_bind (keeps_contextState stage.context) fun state stateFine =>
    keeps_bind (keeps_localValues stage locals) fun values valuesFine =>
      keeps_bind (keeps_escapingOwner stage.context) fun _ _ => keeps_allocate _ ?_
  refine ⟨harmless_putAll valuesFine (harmless_allNames stateFine), harmless_nil.2 trivial, ?_⟩
  exact stateFine.2.2

@[spec]
theorem keeps_renderTemplate (name : Text) (entry : Entry) (context : Ref)
    (fine : harmless entry) : ⦃watched⦄ renderTemplate name entry context ⦃kept⦄ :=
  triple_iff.2 fun _ sound => sound.powers.renderTemplate name entry context fine

@[spec]
theorem keeps_renderBlock (entry : BlockEntry) (context : Ref) (fine : harmless entry) :
    ⦃watched⦄ renderBlock entry context ⦃kept⦄ :=
  triple_iff.2 fun _ sound => sound.powers.renderBlock entry context fine

omit [Regime] [Watch] in
@[grind .]
theorem harmless_filtered {Item : Type} [Checkable Item] {items : List Item} (fine : harmless items)
    (wanted : Item → Bool) : harmless (items.filter wanted) :=
  fun item inside => fine item (List.mem_of_mem_filter inside)

@[spec]
theorem keeps_makeModule (name : Text) (entry : Entry) (context : Ref) (fine : harmless entry) :
    ⦃watched⦄ makeModule name entry context ⦃kept⦄ := by
  mvcgen [makeModule]
  all_goals grind -ring -linarith -order

@[spec]
theorem keeps_defaultModule (name : Text) (entry : Entry) (fine : harmless entry) :
    ⦃watched⦄ defaultModule name entry ⦃kept⦄ := by
  refine keeps_bind keeps_world fun world _ => ?_
  split
  · exact keeps_pure trivial
  refine keeps_bind (keeps_newContext name entry [] fine (harmless_nil.2 trivial)) fun context _ =>
    keeps_bind (keeps_makeModule name entry context fine) fun made _ => ?_
  refine triple_iff.2 fun setting sound machine going => ?_
  have world : machine.world.Sound := going.world
  refine ⟨⟨⟨going.captures, going.emissions⟩, ?_, going.unrefused⟩, trivial⟩
  exact World.Sound.mk world.cells world.below world.placed world.kept

@[spec]
theorem keeps_imported (stage : Stage) (value : Value) (locals : Option Locals)
    (fine : harmless value) : ⦃watched⦄ imported stage value locals ⦃kept⦄ := by
  mvcgen [imported]
  all_goals grind -ring -linarith -order

@[spec]
theorem keeps_included (stage : Stage) (found : Text × Entry) (locals : Option Locals)
    (fine : harmless found) : ⦃watched⦄ included stage found locals ⦃kept⦄ := by
  mvcgen [included]
  all_goals grind -ring -linarith -order

omit [Watch] in
theorem harmless_blocksBelow (name : Text) {codes : List BlockCode}
    (fine : ∀ code ∈ codes, harmless code) {blocks : List (String × List BlockEntry)}
    (blocksFine : harmless blocks) :
    harmless (codes.foldl (fun so block =>
      if (so.lookup block.name).isSome then
        so.map fun entry => if entry.1 == block.name then (entry.1, entry.2 ++ [⟨name, block⟩])
          else (entry.1, entry.2)
      else so ++ [(block.name, [⟨name, block⟩])]) blocks) := by
  induction codes generalizing blocks with
  | nil => exact blocksFine
  | cons code rest ih =>
    obtain ⟨here, others⟩ := List.forall_mem_cons.1 fine
    have below : harmless [(⟨name, code⟩ : BlockEntry)] :=
      (harmless_cons _ _).2 ⟨here, harmless_nil.2 trivial⟩
    rw [List.foldl_cons]
    apply ih others
    split
    · refine (harmless_map _ _).2 fun entry inside => ?_
      have entryFine := blocksFine entry inside
      split
      · exact ⟨entryFine.1, (harmless_append _ _).2 ⟨entryFine.2, below⟩⟩
      · exact entryFine
    · refine (harmless_append _ _).2 ⟨blocksFine, (harmless_cons _ _).2 ⟨?_, harmless_nil.2 trivial⟩⟩
      exact ⟨(harmless_inert _).2 trivial, below⟩

@[spec]
theorem keeps_addBlocks (context : Ref) (name : Text) (entry : Entry) (fine : harmless entry) :
    ⦃watched⦄ addBlocks context name entry ⦃kept⦄ := by
  refine keeps_changeContext context _ fun state stateFine => ?_
  refine ⟨stateFine.1, stateFine.2.1, ?_, stateFine.2.2.2⟩
  exact harmless_blocksBelow name (harmless_blocks fine) stateFine.2.2.1

@[spec]
theorem keeps_extend (stage : Stage) (value : Value) (free : stage.IsFree) :
    ⦃watched⦄ extend stage value ⦃kept⦄ := by
  refine keeps_bind (keeps_templateNamed value) fun found fine => ?_
  refine triple_iff.2 fun setting sound machine going => ?_
  have below := triple_iff.1 (keeps_addBlocks stage.context found.1 found.2 fine.2) setting sound
  simp only [bind_run, world_run]
  cases there : activation? machine.world stage.activation with
  | none => exact ⟨going, trivial⟩
  | some state =>
    have placed := cell_of_activation there
    have slots : harmless state.slots := going.world.cell placed
    refine below _ ⟨⟨going.captures, going.emissions⟩, ?_, going.unrefused⟩
    exact World.Sound.put going.world slots (fun _ => going.world.placed _ _ placed) free

end Templates

section Parts

variable {action body : Run Unit} {first second : Run Value}

theorem keeps_writePiece (stage : Stage) (piece : Piece) :
    ⦃watched⦄ writePiece stage piece ⦃kept⦄ := by
  cases piece
  all_goals mvcgen [writePiece]
  all_goals grind -ring -linarith -order

theorem keeps_unlessExtending (stage : Stage) (guarded : Bool)
    (keeps : ⦃watched⦄ action ⦃kept⦄) :
    ⦃watched⦄ unlessExtending stage guarded action ⦃kept⦄ := by
  mvcgen [unlessExtending, keeps]
  all_goals grind -ring -linarith -order

theorem keeps_inFrame {stage : Stage} (frame : Frame) (free : stage.IsFree)
    (keeps : ⦃watched⦄ action ⦃kept⦄) : ⦃watched⦄ inFrame stage frame action ⦃kept⦄ := by
  mvcgen [inFrame, keeps]
  all_goals grind -ring -linarith -order

theorem keeps_withCapture (runs : ⦃watched⦄ body ⦃kept⦄) (gives : ⦃watched⦄ first ⦃kept⦄) :
    ⦃watched⦄ withCapture body first ⦃kept⦄ := by
  mvcgen [withCapture, runs, gives]
  all_goals grind -ring -linarith -order

theorem keeps_extendOnce {stage : Stage} (checked : Bool) (free : stage.IsFree)
    (template : ⦃watched⦄ first ⦃kept⦄) : ⦃watched⦄ extendOnce stage checked first ⦃kept⦄ := by
  mvcgen [extendOnce, template]
  all_goals grind -ring -linarith -order

theorem keeps_forEach (iterator : Ref) {action : Value → Run Unit}
    (each : ∀ item, harmless item → ⦃watched⦄ action item ⦃kept⦄) (bound : Nat) (found : Bool) :
    ⦃watched⦄ forEach iterator action bound found ⦃kept⦄ := by
  induction bound generalizing found with
  | zero => exact keeps_pure trivial
  | succ bound ih =>
    refine keeps_bind (keeps_advance iterator) fun item? fine => ?_
    cases item? with
    | none => exact keeps_pure trivial
    | some item => exact keeps_bind (each item (fine item rfl)) fun _ _ => ih true

/-- The loop of a reference can change. -/
theorem keeps_loopAt (address : Ref) : ⦃watched⦄ loopState? (.ref address)
    ⦃ending fun found => ∀ pair, found = some pair → harmless pair.2 ∧ ¬ Held address⦄ := by
  unfold loopState?
  mvcgen
  all_goals grind -ring -linarith -order

theorem keeps_forEachTurn (address : Ref) {action : Value → Run Unit}
    (each : ∀ item, harmless item → ⦃watched⦄ action item ⦃kept⦄) (bound : Nat) (found : Bool) :
    ⦃watched⦄ forEachTurn address action bound found ⦃kept⦄ := by
  induction bound generalizing found with
  | zero => exact keeps_pure trivial
  | succ bound ih =>
    refine keeps_bind (keeps_loopAt address) fun state? fine => ?_
    rcases state? with _ | ⟨_, state⟩
    · exact keeps_pure trivial
    obtain ⟨stateFine, free⟩ := fine _ rfl
    refine keeps_bind (keeps_loopNext address state stateFine free) fun item? fine => ?_
    cases item? with
    | none => exact keeps_pure trivial
    | some item => exact keeps_bind (each item (fine item rfl)) fun _ _ => ih true

@[spec]
theorem keeps_filteredItems (stage : Stage) (place : Place) (frame : Frame) (test : Code)
    (source : Value) (placeFine : harmless place) (fine : harmless source) :
    ⦃watched⦄ filteredItems stage place frame test source ⦃kept⦄ := by
  have slots (world : World) (sound : world.Sound) (address : Ref) :
      harmless (((activation? world address).map Activation.slots).getD []) := by
    cases there : activation? world address with
    | none => exact harmless_nil.2 trivial
    | some state => exact sound.cell (cell_of_activation there)
  mvcgen [filteredItems]
  all_goals grind -ring -linarith -order

@[spec]
theorem keeps_loopSource (stage : Stage) (place : Place) (test : Option (Frame × Code))
    (source : Value) (placeFine : harmless place) (fine : harmless source) :
    ⦃watched⦄ loopSource stage place test source ⦃kept⦄ := by
  rcases test with _ | ⟨frame, code⟩
  · exact keeps_pure fine
  · exact keeps_filteredItems stage place frame code source placeFine fine

@[spec]
theorem keeps_startLoop (source : Value) (depth : Int)
    (recursive : Option (LoopCode × Ref × Ref × Nat)) (fine : harmless source)
    (recursiveFine : harmless recursive) : ⦃watched⦄ startLoop source depth recursive ⦃kept⦄ := by
  mvcgen [startLoop]
  all_goals grind -ring -linarith -order

theorem keeps_runTurns {stage : Stage} {place : Place} (loopSlot : Option Slot) (frame : Frame)
    {source : Value} (depth : Int) {recursive : Option (LoopCode × Ref × Ref × Nat)}
    (free : stage.IsFree) (placeFine : harmless place) (fine : harmless source)
    (recursiveFine : harmless recursive) (runs : ⦃watched⦄ body ⦃kept⦄) :
    ⦃watched⦄ runTurns stage place loopSlot frame source depth recursive body ⦃kept⦄ := by
  have turns := @keeps_forEach
  have loopTurns := @keeps_forEachTurn
  mvcgen [runTurns, runs, turns, loopTurns]
  all_goals grind -ring -linarith -order

theorem keeps_runLoop {stage : Stage} {place : Place} (loopSlot : Option Slot)
    (test : Option (Frame × Code)) (frame otherwiseFrame : Frame) {otherwise : Run Unit}
    (free : stage.IsFree) (placeFine : harmless place) (source : ⦃watched⦄ first ⦃kept⦄)
    (runs : ⦃watched⦄ body ⦃kept⦄) (others : ⦃watched⦄ otherwise ⦃kept⦄) :
    ⦃watched⦄ runLoop stage place loopSlot first test frame body otherwiseFrame otherwise
      ⦃kept⦄ := by
  refine keeps_bind source fun value fine =>
    keeps_bind (keeps_loopSource stage place test value placeFine fine) fun items itemsFine =>
    keeps_bind (keeps_runTurns loopSlot frame 0 free placeFine itemsFine (harmless_none.2 trivial)
      runs) fun ran _ => ?_
  split
  · exact keeps_pure trivial
  · exact keeps_inFrame otherwiseFrame free others

theorem keeps_runRecursive (stage : Stage) {code : LoopCode} (careful : harmless code)
    (source : ⦃watched⦄ first ⦃kept⦄) : ⦃watched⦄ runRecursive stage code first ⦃kept⦄ := by
  mvcgen [runRecursive, source]
  all_goals grind -ring -linarith -order

@[spec]
theorem keeps_newMacro (stage : Stage) (definition : MacroCode) (careful : harmless definition) :
    ⦃watched⦄ newMacro stage definition ⦃kept⦄ := by
  mvcgen [newMacro]
  all_goals grind -ring -linarith -order

theorem keeps_defineMacro (stage : Stage) (slot : Slot) (published : Bool) (definition : MacroCode)
    (free : stage.IsFree) (careful : harmless definition) :
    ⦃watched⦄ defineMacro stage slot published definition ⦃kept⦄ := by
  mvcgen [defineMacro]
  all_goals grind -ring -linarith -order

omit [Watch] in
@[grind .]
theorem harmless_chain {state : Context} (fine : harmless state) (name : String) :
    harmless ((state.blocks.lookup name).getD []) :=
  harmless_getD (harmless_lookup fine.2.2.1 name) (harmless_nil.2 trivial)

theorem keeps_runBlock (stage : Stage) (name : String) (required : Bool) (locals : Option Locals) :
    ⦃watched⦄ runBlock stage name required locals ⦃kept⦄ := by
  have chains (state : Context) (fine : harmless state) := harmless_chain fine name
  mvcgen [runBlock]
  all_goals grind -ring -linarith -order

theorem keeps_include? (stage : Stage) (selection : Selection) (ignoreMissing : Bool)
    (locals : Option Locals) (template : ⦃watched⦄ first ⦃kept⦄) :
    ⦃watched⦄ include? stage first selection ignoreMissing locals ⦃kept⦄ := by
  mvcgen [include?, template]
  all_goals grind -ring -linarith -order [Failure.isTemplateMissing]

theorem keeps_importModule (stage : Stage) (slot : Slot) (published : Bool)
    (locals : Option Locals) (free : stage.IsFree) (template : ⦃watched⦄ first ⦃kept⦄) :
    ⦃watched⦄ importModule stage first slot published locals ⦃kept⦄ := by
  mvcgen [importModule, template]
  all_goals grind -ring -linarith -order

theorem keeps_importNames (stage : Stage) (line : Nat) (names : List (String × Slot))
    (published : Bool) (locals : Option Locals) (free : stage.IsFree)
    (template : ⦃watched⦄ first ⦃kept⦄) :
    ⦃watched⦄ importNames stage line first names published locals ⦃kept⦄ := by
  mvcgen [importNames, template]
  all_goals grind -ring -linarith -order

theorem keeps_assignOutput {stage : Stage} (frame : Frame) {place : Place} (published : Published)
    (free : stage.IsFree) (placeFine : harmless place) (runs : ⦃watched⦄ body ⦃kept⦄)
    (gives : ⦃watched⦄ first ⦃kept⦄) :
    ⦃watched⦄ assignOutput stage frame body first place published ⦃kept⦄ := by
  have output := @keeps_withCapture
  mvcgen [assignOutput, runs, gives, output]
  all_goals grind -ring -linarith -order

theorem keeps_withEscaping (stage : Stage) (gives : ⦃watched⦄ first ⦃kept⦄)
    (runs : ⦃watched⦄ body ⦃kept⦄) : ⦃watched⦄ withEscaping stage first body ⦃kept⦄ := by
  mvcgen [withEscaping, runs, gives]
  all_goals grind -ring -linarith -order

theorem keeps_runCallBlock (stage : Stage) (slot : Slot) {definition : MacroCode}
    (free : stage.IsFree) (careful : harmless definition) (gives : ⦃watched⦄ first ⦃kept⦄) :
    ⦃watched⦄ runCallBlock stage slot definition first ⦃kept⦄ := by
  mvcgen [runCallBlock, gives]
  all_goals grind -ring -linarith -order

theorem keeps_assignEach {stage : Stage} {places : List Place} {values : List (Run Value)}
    (free : stage.IsFree) (fine : harmless places) (each : ∀ value ∈ values, ⦃watched⦄ value ⦃kept⦄) :
    ⦃watched⦄ assignEach stage places values ⦃kept⦄ := by
  refine keeps_forM _ _ fun pair inside => ?_
  obtain ⟨place, value⟩ := List.of_mem_zip inside
  exact keeps_bind (each _ value) fun value valueFine =>
    keeps_assign stage value pair.1 free valueFine (fine _ place)

theorem keeps_runBranches {otherwise : Run Unit} {branches : List (Run Value × Run Unit)}
    (others : ⦃watched⦄ otherwise ⦃kept⦄)
    (each : ∀ pair ∈ branches, ⦃watched⦄ pair.1 ⦃kept⦄ ∧ ⦃watched⦄ pair.2 ⦃kept⦄) :
    ⦃watched⦄ runBranches otherwise branches ⦃kept⦄ := by
  induction branches with
  | nil => exact others
  | cons pair rest ih =>
    obtain ⟨⟨test, body⟩, more⟩ := List.forall_mem_cons.1 each
    have remaining := ih more
    unfold runBranches
    mvcgen [test, body, remaining]
    all_goals grind -ring -linarith -order

end Parts

section Namespaces

variable {stage : Stage} {setting : Setting} {machine after : Machine}

/-- Whether a variable holds a namespace. -/
def HoldsNamespace (stage : Stage) (slot : Slot) (world : World) : Prop :=
  ∃ address entries,
    findSlot world slot (stage.activation + 1) stage.activation = some (.ref address) ∧
      world.cell? address = some (.namespace entries)

omit [Regime] [Watch] in
theorem slotValue_run (stage : Stage) (slot : Slot) (setting : Setting) (machine : Machine) :
    slotValue stage slot setting machine =
      .ok ((findSlot machine.world slot (stage.activation + 1) stage.activation).getD .missing)
        machine := rfl

omit [Regime] [Watch] in
/-- A variable that passes the check holds a namespace, and the check changes nothing. -/
theorem checkNamespace_run {slot : Slot}
    (passes : checkNamespace stage slot setting machine = .ok () after) :
    after = machine ∧ HoldsNamespace stage slot machine.world := by
  rw [checkNamespace, bind_run, slotValue_run] at passes
  dsimp only at passes
  cases found : findSlot machine.world slot (stage.activation + 1) stage.activation with
  | none =>
    rw [found] at passes
    cases passes
  | some value =>
    rw [found, Option.getD_some] at passes
    cases value with
    | ref address =>
      dsimp only at passes
      rw [bind_run, cell_run] at passes
      cases there : machine.world.cell? address with
      | none =>
        rw [there] at passes
        cases passes
      | some content =>
        rw [there] at passes
        cases content with
        | «namespace» entries =>
          cases passes
          exact ⟨rfl, address, entries, found, there⟩
        | _ => cases passes
    | _ => cases passes

omit [Regime] [Watch] in
theorem checkNamespaces_run {spaces : List Slot}
    (passes : spaces.forM (checkNamespace stage) setting machine = .ok () after) :
    after = machine ∧ ∀ slot ∈ spaces, HoldsNamespace stage slot machine.world := by
  induction spaces with
  | nil =>
    cases passes
    exact ⟨rfl, List.forall_mem_nil _⟩
  | cons slot rest ih =>
    change (checkNamespace stage slot >>= fun _ => rest.forM (checkNamespace stage)) setting machine
      = _ at passes
    rw [bind_run] at passes
    cases first : checkNamespace stage slot setting machine with
    | error failure other =>
      rw [first] at passes
      cases passes
    | ok _ other =>
      rw [first] at passes
      obtain ⟨rfl, here⟩ := checkNamespace_run first
      obtain ⟨same, others⟩ := ih passes
      exact ⟨same, List.forall_mem_cons.2 ⟨here, others⟩⟩
@[spec]
theorem keeps_checkNamespace (stage : Stage) (slot : Slot) :
    ⦃watched⦄ checkNamespace stage slot ⦃kept⦄ := by
  mvcgen [checkNamespace]
  all_goals grind -ring -linarith -order

/-- A namespace is not held. -/
theorem HoldsNamespace.owned {owners : List Slot} (going : machine.Going)
    (all : Regime.preserving → ∀ slot ∈ owners, HoldsNamespace stage slot machine.world) :
    Owned stage owners machine.world := by
  intro frozen owner inside
  obtain ⟨address, entries, found, there⟩ := all frozen owner inside
  refine ⟨address, found, fun held => ?_⟩
  exact Bool.false_ne_true (going.world.still there ⟨frozen, held⟩)

/-- Assigning obeys if the variables whose values get entries were found to hold namespaces. -/
theorem keeps_assignValue {spaces : List Slot} {place : Place} {value : Run Value}
    (published : Published) (free : stage.IsFree)
    (checked : Regime.preserving → place.isChecked spaces = true)
    (gives : ∀ [Watch], ⦃watched⦄ value ⦃kept⦄) :
    ⦃watched⦄ assignValue stage spaces place value published ⦃kept⦄ := by
  have entered (frozen : Regime.preserving) (owner : Slot) (inside : owner ∈ place.entered) :
      owner ∈ spaces ∧ owner ∉ place.assigned := by
    simpa using List.all_eq_true.1 (checked frozen) owner inside
  have owns {setting : Setting} (sound : setting.Sound) :
      Owns stage place.entered setting harmless
        (do assign stage (← value) place; publish stage published) := by
    refine owns_bind (owns_of_keeps sound gives) fun value fine => ?_
    refine owns_bind (owns_assign sound free place fine ?_ ?_) fun _ _ =>
      owns_of_keeps sound (keeps_publish stage published)
    · exact fun _ owner inside => inside
    · exact fun frozen owner inside => (entered frozen owner inside).2
  refine triple_iff.2 fun setting sound machine going => ?_
  have checks := triple_iff.1 (keeps_forM spaces _ fun slot _ => keeps_checkNamespace stage slot)
    setting sound machine going
  rw [assignValue, bind_run]
  cases outcome : spaces.forM (checkNamespace stage) setting machine with
  | error failure after =>
    rw [outcome] at checks
    exact checks
  | ok _ after =>
    obtain ⟨rfl, holds⟩ := checkNamespaces_run outcome
    refine (owns sound).obeys going (HoldsNamespace.owned going fun frozen owner inside => ?_)
    exact holds owner (entered frozen owner inside).1

end Namespaces

mutual

/-- Running a careful statement obeys where the variables of the run may be set. -/
theorem keeps_runStep {stage : Stage} (free : stage.IsFree) (step : Step)
    (careful : Regime.preserving → step.isCareful = true) :
    ⦃watched⦄ runStep stage step ⦃kept⦄ := by
  cases step with
  | output guarded pieces =>
    exact keeps_unlessExtending stage guarded
      (keeps_forM _ _ fun piece _ => keeps_writePiece stage piece)
  | extending checked template => exact keeps_extendOnce checked free (keeps_evaluate stage template)
  | extendedTwice =>
    mvcgen [runStep]
    all_goals grind -ring -linarith -order
  | forLoop loop => exact keeps_runLoopStep free loop careful
  | choice branches otherwise =>
    exact keeps_runBranches (keeps_runSteps free otherwise fun frozen => Bool.and_elim_right (careful frozen))
      (keeps_branchRuns free branches fun frozen => Bool.and_elim_left (careful frozen))
  | defineMacro slot published definition =>
    exact keeps_defineMacro stage slot published definition free careful
  | callBlock slot definition call =>
    exact keeps_runCallBlock stage slot free careful (keeps_evaluate stage call)
  | filterBlock frame body filter =>
    refine keeps_inFrame frame free (keeps_bind ?_ keeps_emit)
    exact keeps_withCapture (keeps_runSteps free body careful) (keeps_evaluate stage filter)
  | scope frame places values body =>
    have plain : harmless places := fun place inside frozen =>
      Place.enteredAll_eq_nil.1 (List.isEmpty_iff.1 (Bool.and_elim_left (careful frozen))) place inside
    exact keeps_inFrame frame free <|
      keeps_bind (keeps_assignEach free plain (keeps_operandRuns stage values)) fun _ _ =>
        keeps_runSteps free body fun frozen => Bool.and_elim_right (careful frozen)
  | block name guarded required locals =>
    exact keeps_unlessExtending stage guarded (keeps_runBlock stage name required locals)
  | included template selection ignoreMissing locals =>
    exact keeps_include? stage selection ignoreMissing locals (keeps_evaluate stage template)
  | importAs template slot published locals =>
    exact keeps_importModule stage slot published locals free (keeps_evaluate stage template)
  | importFrom line template names published locals =>
    exact keeps_importNames stage line names published locals free (keeps_evaluate stage template)
  | assign spaces place value published =>
    exact keeps_assignValue published free careful (keeps_evaluate stage value)
  | assignBlock frame body filter place published =>
    refine keeps_assignOutput frame published free
      (fun frozen => List.isEmpty_iff.1 (Bool.and_elim_left (careful frozen)))
      (keeps_runSteps free body fun frozen => Bool.and_elim_right (careful frozen)) ?_
    cases filter with
    | none => exact keeps_capturedValue stage .never
    | some filter => exact keeps_evaluate stage filter
  | escaping value body =>
    exact keeps_withEscaping stage (keeps_evaluate stage value) (keeps_runSteps free body careful)

/-- Running careful statements obeys where the variables of the run may be set. -/
theorem keeps_runSteps {stage : Stage} (free : stage.IsFree) (steps : List Step)
    (careful : Regime.preserving → Step.areCareful steps = true) :
    ⦃watched⦄ runSteps stage steps ⦃kept⦄ := by
  cases steps with
  | nil => exact keeps_pure trivial
  | cons step rest =>
    exact keeps_bind (keeps_runStep free step fun frozen => Bool.and_elim_left (careful frozen)) fun _ _ =>
      keeps_runSteps free rest fun frozen => Bool.and_elim_right (careful frozen)

theorem keeps_branchRuns {stage : Stage} (free : stage.IsFree) (branches : List Branch)
    (careful : Regime.preserving → Branch.areCareful branches = true) :
    ∀ pair ∈ branchRuns stage branches, ⦃watched⦄ pair.1 ⦃kept⦄ ∧ ⦃watched⦄ pair.2 ⦃kept⦄ := by
  rcases branches with _ | ⟨⟨test, body⟩, rest⟩
  · exact List.forall_mem_nil _
  · exact List.forall_mem_cons.2 ⟨⟨keeps_evaluate stage test,
      keeps_runSteps free body fun frozen => Bool.and_elim_left (careful frozen)⟩,
      keeps_branchRuns free rest fun frozen => Bool.and_elim_right (careful frozen)⟩

theorem keeps_runLoopStep {stage : Stage} (free : stage.IsFree) (loop : LoopCode)
    (careful : Regime.preserving → loop.isCareful = true) :
    ⦃watched⦄ runLoopStep stage loop ⦃kept⦄ := by
  cases loop with
  | mk place loopSlot source test frame body otherwiseFrame otherwise recursive =>
    cases recursive with
    | none =>
      refine keeps_runLoop loopSlot test frame otherwiseFrame free ?_ (keeps_evaluate stage source)
        (keeps_runSteps free body fun frozen => Bool.and_elim_right (Bool.and_elim_left (careful frozen)))
        (keeps_runSteps free otherwise fun frozen => Bool.and_elim_right (careful frozen))
      exact fun frozen => List.isEmpty_iff.1 (Bool.and_elim_left (Bool.and_elim_left (careful frozen)))
    | some escaping => exact keeps_runRecursive stage careful (keeps_evaluate stage source)

end

end PageTemplates.Run
