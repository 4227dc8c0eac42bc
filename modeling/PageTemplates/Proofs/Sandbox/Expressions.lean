import Mathlib
import PageTemplates.Proofs.Sandbox.Filters
import PageTemplates.Render.Expression

/-!
Variables and contexts obey: code sets the variables of its own run only, and whatever it finds in a
variable or a context is harmless.
-/

namespace PageTemplates

open Std.Do Template

set_option mvcgen.warning false

/-- Whether the variables of the run that code is in may be set. -/
@[grind =]
def Stage.IsFree [Regime] [Watch] (stage : Stage) : Prop := ¬ Held stage.activation

namespace Run

variable [Regime] [Watch]

theorem harmless_findSlot {world : World} (sound : world.Sound) (slot : Slot) (bound : Nat)
    (address : Ref) : harmless (findSlot world slot bound address) := by
  induction bound generalizing address with
  | zero => exact harmless_none.2 trivial
  | succ bound ih =>
    unfold findSlot
    split
    · exact harmless_none.2 trivial
    · rename_i state there
      have fine := sound.cell (cell_of_activation there)
      split
      · rename_i value found
        exact (harmless_some _).2 (harmless_looked found fine)
      · cases state.outer with
        | none => exact harmless_none.2 trivial
        | some outer => exact ih outer

@[spec]
theorem keeps_slotValue (stage : Stage) (slot : Slot) : ⦃watched⦄ slotValue stage slot ⦃kept⦄ := by
  have found (world : World) (sound : world.Sound) :=
    harmless_findSlot sound slot (stage.activation + 1) stage.activation
  mvcgen [slotValue]
  all_goals grind -ring -linarith -order

omit [Watch] in
@[grind .]
theorem harmless_putPair {Key : Type} [BEq Key] [Inert Key] {key : Key} {value : Value}
    {entries : List (Key × Value)} (fine : harmless value) (entriesFine : harmless entries) :
    harmless (putPair key value entries) := by
  induction entries with
  | nil => exact (harmless_cons _ _).2 ⟨⟨Inert.inert _, fine⟩, harmless_nil.2 trivial⟩
  | cons entry rest ih =>
    obtain ⟨first, others⟩ := (harmless_cons _ _).1 entriesFine
    unfold putPair
    split
    · exact (harmless_cons _ _).2 ⟨⟨Inert.inert _, fine⟩, others⟩
    · exact (harmless_cons _ _).2 ⟨first, ih others⟩

/-- Variables of a run that is not held can get values. -/
theorem keeps_putActivation (address : Ref) (change : Activation → Activation)
    (fine : ∀ state, harmless state → harmless (change state)) (free : ¬ Held address) :
    ⦃watched⦄ (do
      match activation? (← world) address with
      | some state => put address (.activation (change state))
      | none => return ()) ⦃kept⦄ := by
  refine triple_iff.2 fun setting sound machine going => ?_
  simp only [bind_run, world_run]
  cases there : activation? machine.world address with
  | none => exact ⟨going, trivial⟩
  | some state =>
    have placed := cell_of_activation there
    refine ⟨⟨⟨going.captures, going.emissions⟩, ?_, going.unrefused⟩, trivial⟩
    exact World.Sound.put going.world (fine state (going.world.cell placed))
      (fun _ => going.world.placed _ _ placed) free

@[spec]
theorem keeps_setSlot (stage : Stage) (slot : Slot) (value : Value) (fine : harmless value)
    (free : stage.IsFree) : ⦃watched⦄ setSlot stage slot value ⦃kept⦄ :=
  keeps_putActivation stage.activation
    (fun state => { state with slots := putPair slot value state.slots })
    (fun _ => harmless_putPair fine) free

@[spec]
theorem keeps_layout? (stage : Stage) : ⦃watched⦄ layout? stage ⦃kept⦄ := by
  mvcgen [layout?]
  all_goals grind -ring -linarith -order

@[spec]
theorem keeps_contextState (address : Ref) : ⦃watched⦄ contextState address ⦃kept⦄ := by
  mvcgen [contextState]
  case vc3 => rename_i found; exact ⟨found.1, harmless_default_context⟩
  grind -ring -linarith -order

@[spec]
theorem keeps_changeContext (address : Ref) (change : Context → Context)
    (fine : ∀ state, harmless state → harmless (change state)) :
    ⦃watched⦄ changeContext address change ⦃kept⦄ := by
  mvcgen [changeContext]
  all_goals grind -ring -linarith -order

@[spec]
theorem keeps_resolve (address : Ref) (name : String) : ⦃watched⦄ resolve address name ⦃kept⦄ := by
  mvcgen [resolve]
  all_goals grind -ring -linarith -order

omit [Watch] in
theorem harmless_putAll {entries : List (Text × Value)} (fine : harmless entries)
    {start : List (Text × Value)} (startFine : harmless start) :
    harmless (entries.foldl (fun so entry => putPair entry.1 entry.2 so) start) := by
  induction entries generalizing start with
  | nil => exact startFine
  | cons entry rest ih =>
    obtain ⟨first, others⟩ := (harmless_cons _ _).1 fine
    exact ih others (harmless_putPair first.2 startFine)

omit [Watch] in
@[grind .]
theorem harmless_allNames {state : Context} (fine : harmless state) : harmless (allNames state) :=
  harmless_putAll fine.2.1 fine.1

@[spec]
theorem keeps_enterFrame (stage : Stage) (frame : Frame) (free : stage.IsFree) :
    ⦃watched⦄ enterFrame stage frame ⦃kept⦄ := by
  refine keeps_forM _ _ fun (name, load) _ => ?_
  cases load
  all_goals mvcgen
  all_goals grind -ring -linarith -order

@[spec]
theorem keeps_leaveFrame (stage : Stage) (frame : Frame) (free : stage.IsFree) :
    ⦃watched⦄ leaveFrame stage frame ⦃kept⦄ := by
  refine keeps_forM _ _ fun (name, load) _ => ?_
  mvcgen
  all_goals grind -ring -linarith -order

/-- A new run has variables of its own. -/
@[spec]
theorem keeps_activate (outer : Option Ref) :
    ⦃watched⦄ activate outer ⦃ending fun address => ¬ Held address⦄ :=
  keeps_allocate _ (harmless_nil.2 trivial)

@[spec]
theorem keeps_localValues (stage : Stage) (locals : Locals) :
    ⦃watched⦄ localValues stage locals ⦃kept⦄ := by
  refine keeps_filterMapM _ _ fun (name, slot) _ => ?_
  mvcgen
  all_goals grind -ring -linarith -order

@[spec]
theorem keeps_unpacked (value : Value) (count : Nat) (fine : harmless value) :
    ⦃watched⦄ unpacked value count ⦃kept⦄ := by
  mvcgen [unpacked]
  all_goals grind -ring -linarith -order

@[spec]
theorem keeps_publish (stage : Stage) (published : Published) :
    ⦃watched⦄ publish stage published ⦃kept⦄ := by
  refine keeps_forM _ _ fun (name, slot) _ => ?_
  mvcgen
  all_goals grind -ring -linarith -order

@[spec]
theorem keeps_publishHidden (stage : Stage) (name : String) (slot : Slot) :
    ⦃watched⦄ publishHidden stage name slot ⦃kept⦄ := by
  mvcgen [publishHidden]
  all_goals grind -ring -linarith -order

end Run

end PageTemplates

/-!
Evaluating expressions obeys, whatever variables are held: an expression reads variables, and sets
none of the run that it is part of.
-/

namespace PageTemplates.Run

open Std.Do Template

set_option mvcgen.warning false

variable [Regime] [Watch]

section Constants

mutual

theorem keeps_ofData (data : Data) : ⦃watched⦄ ofData data ⦃kept⦄ := by
  cases data with
  | list items =>
    have each := keeps_ofItems items
    mvcgen [ofData, each]
    all_goals grind -ring -linarith -order
  | tuple items =>
    have each := keeps_ofItems items
    mvcgen [ofData, each]
    all_goals grind -ring -linarith -order
  | set items =>
    have each := keeps_ofItems items
    mvcgen [ofData, each]
    all_goals grind -ring -linarith -order
  | dict entries =>
    have each := keeps_ofEntries entries
    mvcgen [ofData, each]
    all_goals grind -ring -linarith -order
  | mapping entries =>
    have each := keeps_ofEntries entries
    mvcgen [ofData, each]
    all_goals grind -ring -linarith -order
  | object attributes =>
    have each := keeps_ofAttributes attributes
    mvcgen [ofData, each]
    all_goals grind -ring -linarith -order
  | _ =>
    mvcgen [ofData]
    all_goals grind -ring -linarith -order

theorem keeps_ofItems (items : List Data) : ⦃watched⦄ ofItems items ⦃kept⦄ := by
  cases items with
  | nil => exact keeps_pure (harmless_nil.2 trivial)
  | cons item rest =>
    have first := keeps_ofData item
    have others := keeps_ofItems rest
    mvcgen [ofItems, first, others]
    all_goals grind -ring -linarith -order

theorem keeps_ofEntries (entries : List (Data × Data)) : ⦃watched⦄ ofEntries entries ⦃kept⦄ := by
  rcases entries with _ | ⟨⟨key, item⟩, rest⟩
  · exact keeps_pure (harmless_nil.2 trivial)
  · have first := keeps_ofData key
    have second := keeps_ofData item
    have others := keeps_ofEntries rest
    mvcgen [ofEntries, first, second, others]
    all_goals grind -ring -linarith -order

theorem keeps_ofAttributes (attributes : List (Text × Data)) :
    ⦃watched⦄ ofAttributes attributes ⦃kept⦄ := by
  rcases attributes with _ | ⟨⟨name, item⟩, rest⟩
  · exact keeps_pure (harmless_nil.2 trivial)
  · have first := keeps_ofData item
    have others := keeps_ofAttributes rest
    mvcgen [ofAttributes, first, others]
    all_goals grind -ring -linarith -order

end

end Constants

@[spec]
theorem keeps_constantValue (data : Data) : ⦃watched⦄ constantValue data ⦃kept⦄ := by
  have made := keeps_ofData data
  mvcgen [constantValue, made]
  all_goals grind -ring -linarith -order

@[spec]
theorem keeps_escapesNow (stage : Stage) (escaping : Escaping) :
    ⦃watched⦄ escapesNow stage escaping ⦃kept⦄ := by
  cases escaping
  all_goals mvcgen [escapesNow]
  all_goals grind -ring -linarith -order

@[spec]
theorem keeps_safeWhere (stage : Stage) (escaping : Escaping) (text : Text) :
    ⦃watched⦄ safeWhere stage escaping text ⦃kept⦄ := by
  mvcgen [safeWhere]
  all_goals grind -ring -linarith -order

@[spec]
theorem keeps_concatenated (escaping : Escaping) (parts : List Value) (fine : harmless parts) :
    ⦃watched⦄ concatenated escaping parts ⦃kept⦄ := by
  mvcgen [concatenated]
  all_goals grind -ring -linarith -order

@[spec]
theorem keeps_ruleMissing {Result : Type} (kind name : String) (known : kind ∈ ["filter", "test"]) :
    ⦃watched⦄ (ruleMissing kind name : Run Result) ⦃ending fun _ => False⦄ := by
  mvcgen [ruleMissing]
  all_goals grind -ring -linarith -order

@[spec]
theorem keeps_addNamed (callee : Text) (named : List (Text × Value))
    (entries : List (Value × Value)) (fine : harmless named) (entriesFine : harmless entries) :
    ⦃watched⦄ addNamed callee named entries ⦃kept⦄ := by
  induction entries generalizing named with
  | nil =>
    mvcgen [addNamed]
  | cons entry rest ih =>
    mvcgen [addNamed, ih]
    all_goals grind -ring -linarith -order

@[spec]
theorem keeps_gathered (callee : Text) (positional : List Value) (spread : Option Value)
    (named : List (Text × Value)) (spreadNamed : Option Value) (placed : harmless positional)
    (spreadFine : harmless spread) (namedFine : harmless named)
    (spreadNamedFine : harmless spreadNamed) :
    ⦃watched⦄ gathered callee positional spread named spreadNamed ⦃kept⦄ := by
  mvcgen [gathered]
  all_goals grind -ring -linarith -order

@[spec]
theorem keeps_callName : ⦃watched⦄ callName ⦃kept⦄ := by
  mvcgen [callName]
  all_goals grind -ring -linarith -order

@[spec]
theorem keeps_undefinedName (name : String) : ⦃watched⦄ undefinedName name ⦃kept⦄ := by
  mvcgen [undefinedName]
  all_goals grind -ring -linarith -order

@[spec]
theorem keeps_compareChain (left : Value) (operands : List (CompareOperator × Run Value))
    (fine : harmless left) (each : ∀ pair ∈ operands, ⦃watched⦄ pair.2 ⦃kept⦄) :
    ⦃watched⦄ compareChain left operands ⦃kept⦄ := by
  induction operands generalizing left with
  | nil =>
    mvcgen [compareChain]
  | cons pair rest ih =>
    obtain ⟨operator, operand⟩ := pair
    unfold compareChain
    refine keeps_bind (each _ List.mem_cons_self) fun right rightFine =>
      keeps_bind (keeps_compared operator left right rightFine) fun holds _ => ?_
    cases rest with
    | nil => exact keeps_pure (harmless_plain rfl)
    | cons next more =>
      dsimp only
      split
      · exact ih right rightFine fun other inside => each other (List.mem_cons_of_mem _ inside)
      · exact keeps_pure (harmless_plain rfl)

@[spec]
theorem keeps_variableValue (stage : Stage) (slot : Slot) (checked : Bool) :
    ⦃watched⦄ variableValue stage slot checked ⦃kept⦄ := by
  mvcgen [variableValue]
  all_goals grind -ring -linarith -order

section Parts

variable {first second third : Run Value}

theorem keeps_chosenValue {otherwise : Run (Option Value)} (complaint : Text)
    (test : ⦃watched⦄ first ⦃kept⦄) (chosen : ⦃watched⦄ second ⦃kept⦄)
    (other : ⦃watched⦄ otherwise ⦃kept⦄) :
    ⦃watched⦄ chosenValue first second otherwise complaint ⦃kept⦄ := by
  mvcgen [chosenValue, test, chosen, other]
  all_goals grind -ring -linarith -order

theorem keeps_filteredValue (stage : Stage) (name : String) {arguments : Text → Run Given}
    (target : ⦃watched⦄ first ⦃kept⦄) (given : ∀ callee, ⦃watched⦄ arguments callee ⦃kept⦄) :
    ⦃watched⦄ filteredValue stage name first arguments ⦃kept⦄ := by
  mvcgen [filteredValue, target, given]
  all_goals grind -ring -linarith -order

theorem keeps_testedValue (stage : Stage) (name : String) {arguments : Text → Run Given}
    (target : ⦃watched⦄ first ⦃kept⦄) (given : ∀ callee, ⦃watched⦄ arguments callee ⦃kept⦄) :
    ⦃watched⦄ testedValue stage name first arguments ⦃kept⦄ := by
  mvcgen [testedValue, target, given]
  all_goals grind -ring -linarith -order

theorem keeps_calledValue (stage : Stage) {arguments : Text → Run Given}
    (target : ⦃watched⦄ first ⦃kept⦄) (given : ∀ callee, ⦃watched⦄ arguments callee ⦃kept⦄) :
    ⦃watched⦄ calledValue stage first arguments ⦃kept⦄ := by
  mvcgen [calledValue, target, given]
  all_goals grind -ring -linarith -order

theorem keeps_sliceValue {start stop step : Run (Option Value)} (low : ⦃watched⦄ start ⦃kept⦄)
    (high : ⦃watched⦄ stop ⦃kept⦄) (stride : ⦃watched⦄ step ⦃kept⦄) :
    ⦃watched⦄ sliceValue start stop step ⦃kept⦄ := by
  refine keeps_bind low fun start startFine => keeps_bind high fun stop stopFine =>
    keeps_bind stride fun step stepFine => keeps_pure ?_
  have absent : harmless Value.none := harmless_plain rfl
  exact (harmless_slice _ _ _).2 ⟨harmless_getD startFine absent, harmless_getD stopFine absent,
    harmless_getD stepFine absent⟩

theorem keeps_eitherValue (wanted : Bool) (left : ⦃watched⦄ first ⦃kept⦄)
    (right : ⦃watched⦄ second ⦃kept⦄) : ⦃watched⦄ eitherValue wanted first second ⦃kept⦄ := by
  mvcgen [eitherValue, left, right]
  all_goals grind -ring -linarith -order

theorem keeps_withBoth {function : Value → Value → Run Value}
    (both : ∀ left right, harmless left → harmless right → ⦃watched⦄ function left right ⦃kept⦄)
    (left : ⦃watched⦄ first ⦃kept⦄) (right : ⦃watched⦄ second ⦃kept⦄) :
    ⦃watched⦄ withBoth function first second ⦃kept⦄ := keeps_bind left fun left leftFine => keeps_bind right fun right rightFine =>
    both left right leftFine rightFine

@[spec]
theorem keeps_capturedValue (stage : Stage) (escaping : Escaping) :
    ⦃watched⦄ capturedValue stage escaping ⦃kept⦄ := by
  mvcgen [capturedValue]
  all_goals grind -ring -linarith -order

theorem keeps_negatedValue (operand : ⦃watched⦄ first ⦃kept⦄) :
    ⦃watched⦄ negatedValue first ⦃kept⦄ := by
  mvcgen [negatedValue, operand]
  all_goals grind -ring -linarith -order

theorem keeps_concatenatedValue (escaping : Escaping) {parts : Run (List Value)}
    (each : ⦃watched⦄ parts ⦃kept⦄) : ⦃watched⦄ concatenatedValue escaping parts ⦃kept⦄ := by
  mvcgen [concatenatedValue, each]
  all_goals grind -ring -linarith -order

theorem keeps_entryValues {entries : List (Run Value × Run Value)}
    (each : ∀ entry ∈ entries, ⦃watched⦄ entry.1 ⦃kept⦄ ∧ ⦃watched⦄ entry.2 ⦃kept⦄) :
    ⦃watched⦄ entryValues entries ⦃kept⦄ := by
  induction entries with
  | nil => exact keeps_pure (harmless_nil.2 trivial)
  | cons entry rest ih =>
    obtain ⟨key, value⟩ := entry
    obtain ⟨keyKeeps, valueKeeps⟩ := each _ List.mem_cons_self
    have others := ih fun other inside => each other (List.mem_cons_of_mem _ inside)
    mvcgen [entryValues, keyKeeps, valueKeeps, others]
    all_goals grind -ring -linarith -order

theorem keeps_dictValue {entries : List (Run Value × Run Value)}
    (each : ∀ entry ∈ entries, ⦃watched⦄ entry.1 ⦃kept⦄ ∧ ⦃watched⦄ entry.2 ⦃kept⦄) :
    ⦃watched⦄ dictValue entries ⦃kept⦄ := by
  have made := keeps_entryValues each
  mvcgen [dictValue, made]
  all_goals grind -ring -linarith -order

theorem keeps_listOf {Item : Type} [Checkable Item] {one : Run Item} {rest : Run (List Item)}
    (here : ⦃watched⦄ one ⦃kept⦄) (others : ⦃watched⦄ rest ⦃kept⦄) :
    ⦃watched⦄ listOf one rest ⦃kept⦄ :=
  keeps_bind here fun _ fine => keeps_bind others fun _ held =>
    keeps_pure ((harmless_cons _ _).2 ⟨fine, held⟩)

theorem keeps_present (value : ⦃watched⦄ first ⦃kept⦄) : ⦃watched⦄ present first ⦃kept⦄ :=
  keeps_bind value fun _ fine => keeps_pure ((harmless_some _).2 fine)

theorem keeps_givenValues (callee : Text) (names : List String) {positional values : Run (List Value)}
    {spread spreadNamed : Run (Option Value)} (placed : ⦃watched⦄ positional ⦃kept⦄)
    (named : ⦃watched⦄ values ⦃kept⦄) (more : ⦃watched⦄ spread ⦃kept⦄)
    (moreNamed : ⦃watched⦄ spreadNamed ⦃kept⦄) :
    ⦃watched⦄ givenValues callee names positional values spread spreadNamed ⦃kept⦄ := by
  refine keeps_bind placed fun positional placedFine => keeps_bind more fun spread spreadFine =>
    keeps_bind named fun values valuesFine => keeps_bind moreNamed fun spreadNamed othersFine => ?_
  exact keeps_gathered callee _ _ _ _ placedFine spreadFine (harmless_zip _ valuesFine) othersFine

end Parts

mutual

/-- Evaluating an expression obeys. -/
theorem keeps_evaluate (stage : Stage) (code : Code) : ⦃watched⦄ evaluate stage code ⦃kept⦄ := by
  cases code with
  | constant data => exact keeps_constantValue data
  | «variable» slot checked => exact keeps_variableValue stage slot checked
  | tuple items =>
    refine keeps_bind (keeps_evaluateAll stage items) fun values fine => keeps_pure ?_
    exact (harmless_tuple values).2 fine
  | list items => exact keeps_bind (keeps_evaluateAll stage items) keeps_newList
  | dict keys values =>
    refine keeps_dictValue fun entry inside => ?_
    have among := List.of_mem_zip inside
    exact ⟨keeps_operandRuns stage keys _ among.1, keeps_operandRuns stage values _ among.2⟩
  | conditional test chosen otherwise complaint =>
    exact keeps_chosenValue complaint (keeps_evaluate stage test) (keeps_evaluate stage chosen)
      (keeps_evaluateOption stage otherwise)
  | captured escaping => exact keeps_capturedValue stage escaping
  | filtered filter target arguments =>
    exact keeps_filteredValue stage filter (keeps_evaluate stage target)
      (keeps_evaluateCall stage arguments)
  | tested test target arguments =>
    exact keeps_testedValue stage test (keeps_evaluate stage target)
      (keeps_evaluateCall stage arguments)
  | call target arguments =>
    exact keeps_calledValue stage (keeps_evaluate stage target) (keeps_evaluateCall stage arguments)
  | item target index =>
    exact keeps_withBoth (fun left right fine _ => keeps_itemOrMember left right fine)
      (keeps_evaluate stage target) (keeps_evaluate stage index)
  | sliceOf target start stop step =>
    exact keeps_withBoth (fun left right fine _ => keeps_item left right fine)
      (keeps_evaluate stage target)
      (keeps_sliceValue (keeps_evaluateOption stage start) (keeps_evaluateOption stage stop)
        (keeps_evaluateOption stage step))
  | slice start stop step =>
    exact keeps_sliceValue (keeps_evaluateOption stage start) (keeps_evaluateOption stage stop)
      (keeps_evaluateOption stage step)
  | member target name =>
    exact keeps_bind (keeps_evaluate stage target) fun value fine => keeps_memberOrItem value _ fine
  | concat escaping parts =>
    exact keeps_concatenatedValue escaping (keeps_evaluateAll stage parts)
  | compare first operators operands =>
    refine keeps_bind (keeps_evaluate stage first) fun value fine =>
      keeps_compareChain value _ fine fun pair inside => ?_
    exact keeps_operandRuns stage operands _ (List.of_mem_zip inside).2
  | conjunction left right =>
    exact keeps_eitherValue false (keeps_evaluate stage left) (keeps_evaluate stage right)
  | disjunction left right =>
    exact keeps_eitherValue true (keeps_evaluate stage left) (keeps_evaluate stage right)
  | negation operand => exact keeps_negatedValue (keeps_evaluate stage operand)
  | binary operator left right =>
    exact keeps_withBoth (keeps_binary operator) (keeps_evaluate stage left)
      (keeps_evaluate stage right)
  | minus operand =>
    exact keeps_bind (keeps_evaluate stage operand) fun value _ => keeps_signed true value
  | plus operand =>
    exact keeps_bind (keeps_evaluate stage operand) fun value _ => keeps_signed false value

theorem keeps_evaluateAll (stage : Stage) (codes : List Code) :
    ⦃watched⦄ evaluateAll stage codes ⦃kept⦄ := by
  cases codes with
  | nil => exact keeps_pure (harmless_nil.2 trivial)
  | cons code rest => exact keeps_listOf (keeps_evaluate stage code) (keeps_evaluateAll stage rest)

theorem keeps_evaluateOption (stage : Stage) (code? : Option Code) :
    ⦃watched⦄ evaluateOption stage code? ⦃kept⦄ := by
  cases code? with
  | none => exact keeps_pure (harmless_none.2 trivial)
  | some code => exact keeps_present (keeps_evaluate stage code)

theorem keeps_operandRuns (stage : Stage) (codes : List Code) :
    ∀ run ∈ operandRuns stage codes, ⦃watched⦄ run ⦃kept⦄ := by
  cases codes with
  | nil => exact List.forall_mem_nil _
  | cons code rest =>
    exact List.forall_mem_cons.2 ⟨keeps_evaluate stage code, keeps_operandRuns stage rest⟩

theorem keeps_evaluateCall (stage : Stage) (arguments : CallCode) (callee : Text) :
    ⦃watched⦄ evaluateCall stage arguments callee ⦃kept⦄ := by
  cases arguments with
  | mk positional names values spread spreadNamed =>
    exact keeps_givenValues callee names (keeps_evaluateAll stage positional)
      (keeps_evaluateAll stage values) (keeps_evaluateOption stage spread)
      (keeps_evaluateOption stage spreadNamed)

end

attribute [spec] keeps_evaluate

end PageTemplates.Run
