import Mathlib
import PageTemplates.Proofs.Sandbox.Statements
import PageTemplates.Render.Advance
import PageTemplates.Render.Call

/-!
Taking the next item of an iterator obeys. What a filter for items assigns to is a run of its own.
-/

namespace PageTemplates.Run

open Std.Do Template

set_option mvcgen.warning false

variable [Regime] [Watch]

section Places

mutual

theorem keeps_placeValue (stage : Stage) (place : Place) :
    ⦃watched⦄ placeValue stage place ⦃kept⦄ := by
  cases place with
  | slot own => exact keeps_slotValue stage own
  | member owner name =>
    exact keeps_bind (keeps_slotValue stage owner) fun value fine => keeps_item value _ fine
  | tuple places =>
    have each := keeps_placeValues stage places
    mvcgen [placeValue, each]
    all_goals grind -ring -linarith -order

theorem keeps_placeValues (stage : Stage) (places : List Place) :
    ⦃watched⦄ placeValue.placeValues stage places ⦃kept⦄ := by
  cases places with
  | nil => exact keeps_pure (harmless_nil.2 trivial)
  | cons place rest =>
    exact keeps_bind (keeps_placeValue stage place) fun value fine =>
      keeps_bind (keeps_placeValues stage rest) fun values held =>
        keeps_pure ((harmless_cons _ _).2 ⟨fine, held⟩)

end

attribute [spec] keeps_placeValue

end Places

section Starts

@[spec]
theorem keeps_startMap (value : Value) (given : Given) (context : Option Ref)
    (fine : harmless value) (givenFine : harmless given) :
    ⦃watched⦄ startMap value given context ⦃kept⦄ := by
  mvcgen [startMap]
  all_goals grind -ring -linarith -order

@[spec]
theorem keeps_startSelect (value : Value) (given : Given) (context : Option Ref)
    (negated byPath : Bool) (fine : harmless value) (givenFine : harmless given) :
    ⦃watched⦄ startSelect value given context negated byPath ⦃kept⦄ := by
  mvcgen [startSelect]
  all_goals grind -ring -linarith -order

@[spec]
theorem keeps_startFilter (filter : String) (value : Value) (given : Given) (context : Option Ref)
    (fine : harmless value) (givenFine : harmless given) :
    ⦃watched⦄ startFilter filter value given context ⦃kept⦄ := by
  mvcgen [startFilter]
  all_goals grind -ring -linarith -order

end Starts

section Items

theorem keeps_firstResult (source : Ref) {result : Value → Run (Option Value)}
    (each : ∀ item, harmless item → ⦃watched⦄ result item ⦃kept⦄) (bound : Nat) :
    ⦃watched⦄ firstResult source result bound ⦃kept⦄ := by
  induction bound with
  | zero => exact keeps_pure (harmless_none.2 trivial)
  | succ bound ih =>
    refine keeps_bind (keeps_advance source) fun item? fine => ?_
    cases item? with
    | none => exact keeps_pure (harmless_none.2 trivial)
    | some item =>
      refine keeps_bind (each item (fine item rfl)) fun found? foundFine => ?_
      cases found? with
      | none => exact ih
      | some found => exact keeps_pure foundFine

@[spec]
theorem keeps_takeItems (source : Ref) (count : Nat) (done : List Value) (fine : harmless done) :
    ⦃watched⦄ takeItems source count done ⦃kept⦄ := by
  induction count generalizing done with
  | zero =>
    mvcgen [takeItems]
    grind
  | succ count ih =>
    mvcgen [takeItems, ih]
    all_goals grind -ring -linarith -order

@[spec]
theorem keeps_isSelected (path : List Value) (test : Option (Value × Given)) (negated : Bool)
    (context : Option Ref) (item : Value) (testFine : harmless test) (fine : harmless item) :
    ⦃watched⦄ isSelected path test negated context item ⦃kept⦄ := by
  mvcgen [isSelected]
  all_goals grind -ring -linarith -order

@[spec]
theorem keeps_filledBatch (items : List Value) (size fill : Value) (fine : harmless items)
    (sizeFine : harmless size) (fillFine : harmless fill) :
    ⦃watched⦄ filledBatch items size fill ⦃kept⦄ := by
  mvcgen [filledBatch]
  all_goals grind -ring -linarith -order

@[spec]
theorem keeps_nextBatch (source : Ref) (size fill : Value) (sizeFine : harmless size)
    (fillFine : harmless fill) : ⦃watched⦄ nextBatch source size fill ⦃kept⦄ := by
  mvcgen [nextBatch]
  all_goals grind -ring -linarith -order

/-- What a list has at a place, with the state of its iterator after that. -/
theorem keeps_listed (source : Ref) (place : Nat) (next : Iteration) (fine : harmless next) :
    ⦃watched⦄ (do
      match ((← world).items? source).bind fun items => items[place]? with
      | some item => return some (item, next)
      | none => return none : Run Progress) ⦃kept⦄ := by
  refine keeps_bind keeps_world fun world sound => ?_
  cases there : (world.items? source).bind fun items => items[place]? with
  | none => exact keeps_pure (harmless_none.2 trivial)
  | some item =>
    obtain ⟨items, found, placed⟩ := Option.bind_eq_some_iff.1 there
    refine keeps_pure ((harmless_some _).2 ⟨?_, fine⟩)
    exact sound.items source items found item (Array.mem_of_getElem? placed)

omit [Watch] in
@[grind →]
theorem harmless_entryAt {entries : List (Value × Value)} {place : Nat} {entry : Value × Value}
    (there : (entries.drop place).head? = some entry) (fine : harmless entries) :
    harmless entry := harmless_head? (harmless_drop fine place) entry there

/-- One step of an iterator obeys. -/
@[spec]
theorem keeps_step (state : Iteration) (fine : harmless state) : ⦃watched⦄ step state ⦃kept⦄ := by
  have first := @keeps_firstResult
  cases state with
  | list source place => exact keeps_listed source place _ trivial
  | listBackwards source remaining =>
    cases remaining with
    | zero => exact keeps_pure (harmless_none.2 trivial)
    | succ place => exact keeps_listed source place _ trivial
  | loop source =>
    refine keeps_bind (keeps_loopAt source) fun state? here => ?_
    rcases state? with _ | ⟨_, state⟩
    · exact keeps_pure (harmless_none.2 trivial)
    obtain ⟨stateFine, free⟩ := here _ rfl
    refine keeps_bind (keeps_loopNext source state stateFine free) fun item? itemFine => ?_
    cases item? with
    | none => exact keeps_pure (harmless_none.2 trivial)
    | some item =>
      refine keeps_pure ((harmless_some _).2 ⟨(harmless_tuple _).2 ?_, trivial⟩)
      exact List.forall_mem_cons.2 ⟨itemFine _ rfl, List.forall_mem_singleton.2 (harmless_plain rfl)⟩
  | _ =>
    mvcgen [step, first]
    all_goals grind -ring -linarith -order

/-- Taking the next item of an iterator obeys. -/
theorem keeps_nextItem (address : Ref) : ⦃watched⦄ nextItem address ⦃kept⦄ := by
  mvcgen [nextItem]
  all_goals grind -ring -linarith -order

end Items

end PageTemplates.Run

/-!
Calling values obeys, if the functions of the host do. Macros and recursive loops set the variables
of a run of their own.
-/

namespace PageTemplates

open Std.Do Template

set_option mvcgen.warning false

/-- Whether a function obeys whatever is watched: it changes nothing that it is given, and hands out
no method that does. -/
structure Function.IsGentle [Regime] (function : Function) : Prop where
  signature : harmless function.signature
  body : ∀ [Watch] bound, harmless bound → ⦃watched⦄ function.body bound ⦃kept⦄

namespace Run

variable [Regime] [Watch]

section Builtins

@[spec]
theorem keeps_newRange (given : Given) : ⦃watched⦄ newRange given ⦃kept⦄ := by
  mvcgen [newRange]
  all_goals grind -ring -linarith -order

@[spec]
theorem keeps_boundedRange (given : Given) : ⦃watched⦄ boundedRange given ⦃kept⦄ := by
  mvcgen [boundedRange]
  all_goals grind -ring -linarith -order

@[spec]
theorem keeps_newEntries (given : Given) (fine : harmless given) :
    ⦃watched⦄ newEntries given ⦃kept⦄ := by
  mvcgen [newEntries]
  all_goals grind -ring -linarith -order

@[spec]
theorem keeps_newCycler (given : Given) (fine : harmless given) :
    ⦃watched⦄ newCycler given ⦃kept⦄ := by
  mvcgen [newCycler]
  all_goals grind -ring -linarith -order

omit [Watch] in
theorem harmless_withSelf {given : Given} (fine : harmless given) :
    harmless { given with positional := .none :: given.positional } :=
  ⟨(harmless_cons _ _).2 ⟨harmless_plain rfl, fine.1⟩, fine.2⟩

@[spec]
theorem keeps_newJoiner (given : Given) (fine : harmless given) :
    ⦃watched⦄ newJoiner given ⦃kept⦄ := by
  have signature : harmless joinerSignature := harmless_parameters rfl
  have withSelf := harmless_withSelf fine
  mvcgen [newJoiner]
  all_goals grind -ring -linarith -order

@[spec]
theorem keeps_fillerText (given : Given) (fine : harmless given) :
    ⦃watched⦄ fillerText given ⦃kept⦄ := by
  have signature : harmless fillerSignature := harmless_parameters rfl
  mvcgen [fillerText]
  all_goals grind -ring -linarith -order

@[spec]
theorem keeps_callBuiltin (name : String) (given : Given) (fine : harmless given) :
    ⦃watched⦄ callBuiltin name given ⦃kept⦄ := by
  mvcgen [callBuiltin]
  all_goals grind -ring -linarith -order

end Builtins

section Macros

theorem keeps_writtenBy {action : Run Unit} (runs : ⦃watched⦄ action ⦃kept⦄) :
    ⦃watched⦄ writtenBy action ⦃kept⦄ := by
  mvcgen [writtenBy, runs]
  all_goals grind -ring -linarith -order

@[spec]
theorem keeps_macroArguments (code : MacroCode) (given : Given) (fine : harmless given) :
    ⦃watched⦄ macroArguments code given ⦃kept⦄ := by
  mvcgen [macroArguments]
  all_goals grind -ring -linarith -order

@[spec]
theorem keeps_fillDefaults (stage : Stage) (depth skipped : Nat) (defaults : List Code) (place : Nat)
    (names : List String) (free : stage.IsFree) :
    ⦃watched⦄ fillDefaults stage depth skipped defaults place names ⦃kept⦄ := by
  induction names generalizing place with
  | nil =>
    mvcgen [fillDefaults]
  | cons name rest ih =>
    mvcgen [fillDefaults, ih]
    all_goals grind -ring -linarith -order

/-- What a macro writes when it runs. -/
theorem keeps_macroText {stage : Stage} {parameters : List String} {defaults : List Code}
    {frame : Frame} {body : List Step} {arguments : List (String × Value)} (free : stage.IsFree)
    (careful : Regime.preserving → Step.areCareful body = true) (fine : harmless arguments) :
    ⦃watched⦄ (writtenBy do
      enterFrame stage frame
      arguments.forM fun (name, value) => setSlot stage ⟨frame.depth, name⟩ value
      fillDefaults stage frame.depth (parameters.length - defaults.length) defaults 0 parameters
      runSteps stage body) ⦃kept⦄ := by
  refine keeps_writtenBy <| keeps_bind (keeps_enterFrame stage frame free) fun _ _ =>
    keeps_bind (keeps_forM arguments _ fun pair inside => ?_) fun _ _ =>
    keeps_bind (keeps_fillDefaults stage _ _ defaults 0 parameters free) fun _ _ =>
    keeps_runSteps free body careful
  exact keeps_setSlot stage _ pair.2 (fine pair inside).2 free

@[spec]
theorem keeps_callMacro (context : Option Ref) (state : MacroState) (given : Given)
    (fine : harmless state) (givenFine : harmless given) :
    ⦃watched⦄ callMacro context state given ⦃kept⦄ := by
  obtain ⟨code, outer, own, escapes⟩ := state
  obtain ⟨name, parameters, defaults, takesCaller, takesNamed, takesRest, frame, body, home⟩ := code
  have careful : Regime.preserving → Step.areCareful body = true := fine.1
  have text := @keeps_macroText
  mvcgen [callMacro, text]
  all_goals grind -ring -linarith -order

@[spec]
theorem keeps_runLoopFunction (code : LoopCode) (outer context : Ref) (height : Nat) (value : Value)
    (depth : Int) (careful : harmless code) (fine : harmless value) :
    ⦃watched⦄ runLoopFunction code outer context height value depth ⦃kept⦄ := by
  have again : harmless (some (code, outer, context, height)) :=
    (harmless_some _).2 ⟨careful, (harmless_inert _).2 trivial, (harmless_inert _).2 trivial,
      (harmless_inert _).2 trivial⟩
  rcases shape : code with
    ⟨place, loopSlot, source, test, frame, body, otherwiseFrame, otherwise, recursive⟩
  rw [shape] at careful again
  refine keeps_bind (keeps_activate _) fun activation unheld =>
    keeps_bind keeps_captureHeight fun inside _ => keeps_bind (keeps_writtenBy ?_) fun text _ =>
    keeps_safeWhere _ _ text
  have free : Stage.IsFree ⟨activation, context, inside + 1⟩ := unheld
  have plain : harmless place := fun frozen =>
    List.isEmpty_iff.1 (Bool.and_elim_left (Bool.and_elim_left (careful frozen)))
  have turn := keeps_runSteps free body fun frozen =>
    Bool.and_elim_right (Bool.and_elim_left (careful frozen))
  refine keeps_bind (keeps_loopSource _ place test value plain fine) fun items itemsFine =>
    keeps_bind (keeps_runTurns loopSlot frame depth free plain itemsFine again turn) fun ran _ => ?_
  split
  · exact keeps_pure trivial
  · exact keeps_inFrame otherwiseFrame free <|
      keeps_runSteps free otherwise fun frozen => Bool.and_elim_right (careful frozen)

@[spec]
theorem keeps_callLoop (state : LoopState) (given : Given) (fine : harmless state)
    (givenFine : harmless given) : ⦃watched⦄ callLoop state given ⦃kept⦄ := by
  have signature : harmless [Parameter.required "self", Parameter.required "iterable"] :=
    harmless_parameters rfl
  have withSelf := harmless_withSelf givenFine
  mvcgen [callLoop]
  all_goals grind -ring -linarith -order

@[spec]
theorem keeps_callBlockOf (name : String) (context : Ref) (depth : Nat) (given : Given)
    (fine : harmless given) : ⦃watched⦄ callBlockOf name context depth given ⦃kept⦄ := by
  have signature : harmless [Parameter.required "self"] := harmless_parameters rfl
  have withSelf := harmless_withSelf fine
  have written := @keeps_writtenBy
  have chains (state : Context) (stateFine : harmless state) := harmless_chain stateFine name
  mvcgen [callBlockOf, written]
  all_goals grind -ring -linarith -order

@[spec]
theorem keeps_callCell (context : Option Ref) (address : Ref) (content : Cell) (given : Given)
    (fine : harmless content) (free : Held address → content.isStill = true)
    (givenFine : harmless given) : ⦃watched⦄ callCell context address content given ⦃kept⦄ := by
  have signature : harmless [Parameter.required "self"] := harmless_parameters rfl
  have withSelf := harmless_withSelf givenFine
  mvcgen [callCell]
  all_goals grind -ring -linarith -order

end Macros

@[spec]
theorem keeps_apply (function : Function) (given : Given) (gentle : function.IsGentle)
    (fine : harmless given) : ⦃watched⦄ function.apply given ⦃kept⦄ := by
  have signature := gentle.signature
  have body bound := gentle.body bound
  mvcgen [Function.apply, body]
  all_goals grind -ring -linarith -order

/-- Calling a value obeys if the functions are gentle. -/
theorem keeps_callValue (functions : Array Function) (context : Option Ref) (target : Value)
    (given : Given) (gentle : ∀ function ∈ functions, function.IsGentle) (fine : harmless target)
    (givenFine : harmless given) : ⦃watched⦄ callValue functions context target given ⦃kept⦄ := by
  mvcgen [callValue]
  all_goals grind -ring -linarith -order

end Run

end PageTemplates
