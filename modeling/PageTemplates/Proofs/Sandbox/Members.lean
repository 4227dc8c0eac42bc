import Mathlib
import PageTemplates.Proofs.Sandbox.Operators
import PageTemplates.Value.Braces

/-!
Reaching into values obeys. A guard that keeps values as they are shows no method that changes one:
of all the members a value has, these are the only ones that could do harm.
-/

namespace PageTemplates

open Std.Do

set_option mvcgen.warning false

/-- Whether no name is that of a method that changes a value. -/
def areGentle (names : List String) : Bool := names.all fun name => !changingNames.contains name

theorem areGentle_mem {names : List String} (gentle : areGentle names = true) {name : String}
    (inside : name ∈ names) : name ∉ changingNames := by
  simpa using List.all_eq_true.1 gentle name inside

theorem Value.commonSpecials_gentle : areGentle commonSpecials = true := by decide

theorem Value.specials_gentle (world : World) (value : Value) :
    areGentle (specials world value) = true := by
  unfold specials
  split
  all_goals try split
  all_goals decide

/-- The names among some that change a value are those for a class. -/
def areOnly (kind : String) (names : List String) : Bool :=
  names.all fun name =>
    !changingNames.contains name || (Run.changingMethods kind).contains name

/-- The methods of a value that change it are those that the guard knows for its class. -/
theorem Value.methodsOf_only (world : World) (value : Value) :
    areOnly (classOfValue world value).2 (methodsOf world value) = true := by
  have gentle {names : List String} (holds : areGentle names = true) (kind : String) :
      areOnly kind names = true := by
    refine List.all_eq_true.2 fun name inside => ?_
    simp [areGentle_mem holds inside]
  unfold methodsOf
  split
  case h_16 address =>
    cases found : world.cell? address with
    | none => exact gentle (by decide) _
    | some cell =>
      simp only [classOfValue, found, Option.map_some, Option.getD_some]
      cases cell
      case list => exact (by decide : areOnly "list" listMethods = true)
      case dict => exact (by decide : areOnly "dict" dictMethods = true)
      case set => exact (by decide : areOnly "set" setMethods = true)
      case mapping => exact gentle (by decide : areGentle mappingMethods = true) _
      case cycler => exact gentle (by decide : areGentle ["next", "reset"] = true) _
      case loop => exact gentle (by decide : areGentle ["cycle", "changed"] = true) _
      case iterator kind state =>
        split
        case h_7 => exact gentle (by decide : areGentle ["close", "send", "throw"] = true) _
        case h_8 => exact gentle (by decide : areGentle [] = true) _
        all_goals rename_i same; cases same
      all_goals exact gentle (by decide : areGentle [] = true) _
  all_goals exact gentle (by decide) _

namespace Text

theorem ofString_of_toString? {text : Text} {string : String}
    (same : toString? text = some string) : ofString string = text := by
  obtain ⟨characters, read, rfl⟩ := Option.map_eq_some_iff.1 same
  rw [ofString, String.toList_ofList]
  clear same
  induction text generalizing characters with
  | nil =>
    cases read
    rfl
  | cons point rest ih =>
    cases point with
    | surrogate value => cases read
    | scalar character =>
      obtain ⟨others, inner, rfl⟩ := Option.map_eq_some_iff.1 read
      rw [ofChars, List.map_cons, ← ofChars, ih others inner]

end Text

section Members

variable [Regime]

/-- Whether a value can be a member of another: a harmless one, or a method that changes values of
its class. -/
def IsMember (world : World) (owner : Value) (name : Text) (found : Value) : Prop :=
  harmless found ∨
    ∃ method ∈ Run.changingMethods (Value.classOfValue world owner).2, Text.ofString method = name

/-- Whether what is found, if anything, can be a member. -/
@[grind =]
def AreMember (world : World) (owner : Value) (name : Text) : Option Value → Prop
  | none => True
  | some found => IsMember world owner name found

variable {world : World} {owner found : Value} {name : Text}

@[grind .]
theorem harmless_unpreserved (value : Value) (changes : ¬ Regime.preserving) : harmless value :=
  fun preserves => absurd preserves changes

@[grind .]
theorem IsMember.of_harmless (fine : harmless found) : IsMember world owner name found := .inl fine

@[grind .]
theorem AreMember.of_harmless {found? : Option Value} (fine : harmless found?) :
    AreMember world owner name found? := by
  cases found? with
  | none => trivial
  | some found => exact .inl (fine found rfl)

@[grind .]
theorem harmless_dateMember? (date : Date) (name : String) :
    harmless (Value.dateMember? date name) := by
  unfold Value.dateMember?
  split
  all_goals grind -ring -linarith -order

@[grind .]
theorem harmless_timeMember? (time : DateTime) (name : String) :
    harmless (Value.timeMember? time name) := by
  unfold Value.timeMember?
  split
  all_goals grind -ring -linarith -order

theorem harmless_gentle {method : String} (fine : harmless owner) (gentle : method ∉ changingNames) :
    harmless (Value.method owner method) := (harmless_method _ _).2 ⟨fun _ => gentle, fine⟩

@[grind →]
theorem harmless_special {known : String} (fine : harmless owner)
    (special : (Value.specials world owner).contains known = true) :
    harmless (Value.method owner known) :=
  harmless_gentle fine
    (areGentle_mem (Value.specials_gentle world owner) (List.contains_iff_mem.1 special))

@[grind →]
theorem harmless_common {known : String} (fine : harmless owner)
    (special : Value.commonSpecials.contains known = true) :
    harmless (Value.method owner known) :=
  harmless_gentle fine
    (areGentle_mem Value.commonSpecials_gentle (List.contains_iff_mem.1 special))

@[grind →]
theorem IsMember.method {known : String} (fine : harmless owner)
    (there : (Value.methodsOf world owner).contains known = true)
    (named : Text.toString? name = some known) :
    IsMember world owner name (.method owner known) := by
  have only := List.all_eq_true.1 (Value.methodsOf_only world owner) known
    (List.contains_iff_mem.1 there)
  rw [Bool.or_eq_true] at only
  rcases only with gentle | changing
  · exact .inl (harmless_gentle fine (by simpa using gentle))
  · exact .inr ⟨known, List.contains_iff_mem.1 changing, Text.ofString_of_toString? named⟩

end Members

variable [Regime] [Watch]

namespace Run

@[spec]
theorem keeps_loopMember? (address : Ref) (state : LoopState) (name : String)
    (fine : harmless state) (free : ¬ Held address) :
    ⦃watched⦄ loopMember? address state name ⦃kept⦄ := by
  mvcgen [loopMember?]
  all_goals grind -ring -linarith -order

@[spec]
theorem keeps_noParentBlock (name : String) : ⦃watched⦄ noParentBlock name ⦃kept⦄ := by
  mvcgen [noParentBlock]
  all_goals grind -ring -linarith -order

@[spec]
theorem keeps_blockBelow (name : String) (context : Ref) (depth : Nat) :
    ⦃watched⦄ blockBelow name context depth ⦃kept⦄ := by
  mvcgen [blockBelow]
  all_goals grind -ring -linarith -order

@[spec]
theorem keeps_cellMember? (address : Ref) (content : Cell) (name : String)
    (fine : harmless content) (free : Held address → content.isStill = true) :
    ⦃watched⦄ cellMember? address content name ⦃kept⦄ := by
  mvcgen [cellMember?]
  all_goals grind -ring -linarith -order

@[spec]
theorem keeps_plainMember? (value : Value) (name : String) (fine : harmless value) :
    ⦃watched⦄ plainMember? value name ⦃kept⦄ := by
  mvcgen [plainMember?]
  all_goals grind -ring -linarith -order

/-- What a run comes to whose result is judged by the world that it leaves. -/
abbrev endingIn {Result : Type} (good : World → Result → Prop) : PostCond Result RunShape :=
  ⟨fun result setting machine =>
      ⌜(setting.Sound ∧ machine.Going) ∧ good machine.world result⌝,
    fun failure machine => ⌜machine.Stopped failure⌝, ()⟩

theorem world_is :
    ⦃watched⦄ world ⦃endingIn fun world result => result = world ∧ harmless result⦄ := by
  rintro setting machine ⟨sound, going⟩
  exact (wp_run _ _ _ _).2 ⟨⟨sound, going⟩, rfl, going.world⟩

@[spec]
theorem keeps_member? (value : Value) (name : Text) (fine : harmless value) :
    ⦃watched⦄ member? value name ⦃endingIn fun world found => AreMember world value name found⦄ := by
  mvcgen [member?, world_is, -keeps_world]
  all_goals grind -ring -linarith -order

@[spec]
theorem keeps_indexOf (kind : Text) (index : Value) : ⦃watched⦄ indexOf kind index ⦃kept⦄ := by
  mvcgen [indexOf]
  all_goals grind -ring -linarith -order

@[spec]
theorem keeps_sliceBound (bound : Value) : ⦃watched⦄ sliceBound bound ⦃kept⦄ := by
  mvcgen [sliceBound]
  all_goals grind -ring -linarith -order

@[spec]
theorem keeps_sliceBounds (start stop step : Value) :
    ⦃watched⦄ sliceBounds start stop step ⦃kept⦄ := by
  mvcgen [sliceBounds]
  all_goals grind -ring -linarith -order

omit [Regime] [Watch] in
@[grind .]
theorem harmless_pick {Item : Type} [Checkable Item] {items : List Item} (fine : harmless items)
    (places : List Nat) : harmless (Value.pick items.toArray places) := by
  intro item inside
  obtain ⟨place, -, there⟩ := List.mem_filterMap.1 inside
  exact fine item (List.mem_of_getElem? (by simpa using there))

@[spec]
theorem keeps_sliced (value start stop step : Value) (fine : harmless value) :
    ⦃watched⦄ sliced value start stop step ⦃kept⦄ := by
  mvcgen [sliced]
  all_goals grind -ring -linarith -order

@[spec]
theorem keeps_entryAt (entries : List (Value × Value)) (key : Value) (fine : harmless entries) :
    ⦃watched⦄ entryAt entries key ⦃kept⦄ := by
  mvcgen [entryAt]
  all_goals grind -ring -linarith -order

omit [Regime] [Watch] in
@[grind →]
theorem harmless_place {Item : Type} [Checkable Item] {items : List Item} {found : Item}
    {place? : Option Nat} (there : (place?.bind fun place => items[place]?) = some found)
    (fine : harmless items) : harmless found := by
  obtain ⟨place, -, there⟩ := Option.bind_eq_some_iff.1 there
  exact fine found (List.mem_of_getElem? there)

omit [Regime] [Watch] in
@[grind →]
theorem harmless_arrayPlace {Item : Type} [Checkable Item] {items : Array Item} {found : Item}
    {place? : Option Nat} (there : (place?.bind fun place => items[place]?) = some found)
    (fine : harmless items) : harmless found := by
  obtain ⟨place, -, there⟩ := Option.bind_eq_some_iff.1 there
  exact fine found (Array.mem_of_getElem? there)

@[spec]
theorem keeps_item (value index : Value) (fine : harmless value) :
    ⦃watched⦄ item value index ⦃kept⦄ := by
  mvcgen [item]
  all_goals grind -ring -linarith -order

@[spec]
theorem keeps_undefinedMember (owner name : Value) :
    ⦃watched⦄ undefinedMember owner name ⦃kept⦄ := by
  mvcgen [undefinedMember]
  all_goals grind -ring -linarith -order

@[spec]
theorem keeps_hiddenMember (owner : Value) (name : Text) :
    ⦃watched⦄ hiddenMember owner name ⦃kept⦄ := by
  mvcgen [hiddenMember]
  all_goals grind -ring -linarith -order

omit [Regime] [Watch] in
/-- Looking whether a member is visible changes nothing, and a guard that keeps values as they are
shows no method that changes values of the class. -/
theorem isVisible_run (owner : Value) (name : Text) (setting : Setting) (machine : Machine) :
    ∃ visible, isVisible owner name setting machine = .ok visible machine ∧
      (setting.environment.guard = .immutable → visible = true →
        ∀ method ∈ changingMethods (Value.classOfValue machine.world owner).2,
          Text.ofString method ≠ name) := by
  simp only [isVisible, bind_run, world_run]
  split
  · exact ⟨false, rfl, nofun⟩
  simp only [bind_run, environment_run]
  split
  · refine ⟨_, rfl, fun _ visible method inside same => ?_⟩
    simp only [Bool.not_eq_true', List.any_eq_false, decide_eq_true_eq] at visible
    exact visible method inside same
  · rename_i changes
    exact ⟨true, rfl, fun immutable => absurd immutable changes⟩

omit [Regime] [Watch] in
theorem shownMember_run {owner : Value} {name : Text} {visible : Bool} {setting : Setting}
    {machine : Machine} (runs : isVisible owner name setting machine = .ok visible machine)
    (found : Value) :
    shownMember owner name found setting machine =
      if setting.environment.guard = .open then .ok found machine
      else if visible then .ok found machine else hiddenMember owner name setting machine := by
  simp only [shownMember, bind_run, environment_run]
  split
  · rfl
  · simp only [bind_run, runs]
    cases visible <;> rfl

@[spec]
theorem keeps_shownMember (owner : Value) (name : Text) (found : Value) :
    ⦃fun setting machine =>
      ⌜(setting.Sound ∧ machine.Going) ∧ IsMember machine.world owner name found⌝⦄
    shownMember owner name found ⦃kept⦄ := by
  rintro setting machine ⟨⟨sound, going⟩, member⟩
  refine (wp_run _ _ _ _).2 ?_
  obtain ⟨visible, runs, hides⟩ := isVisible_run owner name setting machine
  rw [shownMember_run runs]
  by_cases unguarded : setting.environment.guard = .open
  · rw [if_pos unguarded]
    refine ⟨⟨sound, going⟩, harmless_unpreserved found fun preserves => ?_⟩
    rw [sound.environment, Regime.immutable preserves] at unguarded
    cases unguarded
  rw [if_neg unguarded]
  cases visible with
  | false =>
    rw [if_neg Bool.false_ne_true]
    exact (wp_run _ _ _ _).1 (keeps_hiddenMember owner name setting machine ⟨sound, going⟩)
  | true =>
    refine ⟨⟨sound, going⟩, fun preserves => ?_⟩
    rcases member with fine | ⟨method, changing, named⟩
    · exact fine preserves
    · have immutable := sound.environment ▸ Regime.immutable preserves
      exact absurd named (hides immutable rfl method changing)

section Clean

variable {First Result : Type}

/-- Whether a run leaves the machine as it is. -/
def Reads (run : Run Result) : Prop := ∀ setting machine,
  (∃ result, run setting machine = .ok result machine) ∨
    ∃ failure, run setting machine = .error failure machine

/-- Whether a run leaves the machine as it is where it fails. -/
def FailsClean (run : Run Result) : Prop := ∀ setting machine failure after,
  run setting machine = .error failure after → after = machine

omit [Regime] [Watch]

theorem Reads.failsClean {run : Run Result} (reads : Reads run) : FailsClean run := by
  intro setting machine failure after failed
  rcases reads setting machine with ⟨result, runs⟩ | ⟨failure, runs⟩ <;> rw [runs] at failed <;>
    cases failed
  rfl

theorem reads_pure (result : Result) : Reads (pure result) := fun _ _ => .inl ⟨result, rfl⟩

theorem reads_fail (failure : Failure) : Reads (fail failure : Run Result) :=
  fun _ _ => .inr ⟨failure, rfl⟩

theorem reads_world : Reads world := fun _ machine => .inl ⟨machine.world, rfl⟩

theorem reads_cell (address : Ref) : Reads (cell address) :=
  fun _ machine => .inl ⟨machine.world.cell? address, rfl⟩

theorem failsClean_bind {first : Run First} {rest : First → Run Result} (reads : Reads first)
    (clean : ∀ result, FailsClean (rest result)) : FailsClean (first >>= rest) := by
  intro setting machine failure after failed
  rw [bind_run] at failed
  rcases reads setting machine with ⟨result, runs⟩ | ⟨failure, runs⟩ <;> rw [runs] at failed
  · exact clean result setting machine _ _ failed
  · cases failed
    rfl

theorem reads_bind {first : Run First} {rest : First → Run Result} (reads : Reads first)
    (others : ∀ result, Reads (rest result)) : Reads (first >>= rest) := by
  intro setting machine
  rw [bind_run]
  rcases reads setting machine with ⟨result, runs⟩ | ⟨failure, runs⟩ <;> rw [runs]
  · exact others result setting machine
  · exact .inr ⟨failure, rfl⟩

theorem failsClean_newList (items : List Value) : FailsClean (newList items) := nofun

theorem reads_settled (result : Except Failure Result) : Reads (settled result) := by
  cases result
  · exact reads_fail _
  · exact reads_pure _

theorem reads_className (value : Value) : Reads (className value) :=
  reads_bind reads_world fun _ => reads_pure _

theorem reads_failIfUndefined (value : Value) : Reads (failIfUndefined value) := by
  refine reads_bind reads_world fun world => ?_
  split
  · exact reads_fail _
  · exact reads_pure _

theorem reads_indexOf (kind : Text) (index : Value) : Reads (indexOf kind index) := by
  unfold indexOf
  split
  · exact reads_pure _
  · exact reads_bind (reads_className _) fun _ => reads_fail _

theorem reads_sliceBound (bound : Value) : Reads (sliceBound bound) := by
  unfold sliceBound
  split
  · exact reads_pure _
  · split
    · exact reads_pure _
    · exact reads_fail _

theorem reads_sliceBounds (start stop step : Value) : Reads (sliceBounds start stop step) := by
  refine reads_bind (reads_sliceBound step) fun step => ?_
  dsimp only
  split
  · exact reads_bind (reads_fail _) fun _ => reads_bind (reads_sliceBound start) fun start =>
      reads_bind (reads_sliceBound stop) fun stop => reads_pure _
  · exact reads_bind (reads_sliceBound start) fun start =>
      reads_bind (reads_sliceBound stop) fun stop => reads_pure _

theorem reads_entryAt (entries : List (Value × Value)) (key : Value) :
    Reads (entryAt entries key) := by
  refine reads_bind (reads_bind reads_world fun _ => reads_settled _) fun _ =>
    reads_bind reads_world fun world => ?_
  split
  · exact reads_pure _
  · exact reads_bind (reads_bind reads_world fun _ => reads_settled _) fun _ => reads_fail _

theorem reads_picked {Item : Type} (items : List Item) (start stop step : Value) :
    Reads (do
      let (start, stop, step) ← sliceBounds start stop step
      return Value.pick items.toArray (Value.slicePlaces items.length start stop step)) :=
  reads_bind (reads_sliceBounds _ _ _) fun _ => reads_pure _

theorem failsClean_sliced (value start stop step : Value) :
    FailsClean (sliced value start stop step) := by
  refine failsClean_bind (reads_failIfUndefined value) fun _ => ?_
  dsimp only
  split
  case h_6 =>
    exact (reads_bind (reads_sliceBounds _ _ _) fun _ => reads_pure _).failsClean
  case h_7 address =>
    refine failsClean_bind (reads_cell address) fun _ => ?_
    split
    · exact failsClean_bind (reads_picked _ _ _ _) fun _ => failsClean_newList _
    · exact (reads_fail _).failsClean
    · exact (reads_fail _).failsClean
    · exact (reads_bind (reads_className _) fun _ => reads_fail _).failsClean
  case h_8 => exact (reads_bind (reads_className _) fun _ => reads_fail _).failsClean
  all_goals exact (reads_bind (reads_picked _ _ _ _) fun _ => reads_pure _).failsClean

theorem reads_place {Item : Type} (kind : Text) (index : Value) (items : List Item)
    (build : Item → Value) :
    Reads (do
      let number ← indexOf kind index
      match (Value.place? items.length number).bind fun place => items[place]? with
      | some found => return build found
      | none => fail (outOfRange kind)) := by
  refine reads_bind (reads_indexOf kind index) fun number => ?_
  split
  · exact reads_pure _
  · exact reads_fail _

theorem reads_missing (owner : Value) : Reads (do fail (.notSubscriptable (← className owner)) :
    Run Value) := reads_bind (reads_className _) fun _ => reads_fail _

/-- Taking an item makes nothing but the list of a slice, in the end. -/
theorem failsClean_item (value index : Value) : FailsClean (item value index) := by
  unfold item
  split
  · exact failsClean_sliced _ _ _ _
  refine (reads_bind (reads_failIfUndefined value) fun _ => ?_).failsClean
  dsimp only
  split
  case h_6 =>
    refine reads_bind (reads_indexOf _ _) fun number => ?_
    split
    · exact reads_pure _
    · exact reads_fail _
  case h_7 context =>
    refine reads_bind (reads_cell context) fun _ => ?_
    split
    · split
      · split
        · exact reads_pure _
        · exact reads_fail _
      · exact reads_fail _
    · exact reads_bind (reads_bind reads_world fun _ => reads_settled _) fun _ => reads_fail _
  case h_8 address =>
    refine reads_bind (reads_cell address) fun _ => ?_
    split
    · refine reads_bind (reads_indexOf _ _) fun number => ?_
      split
      · exact reads_pure _
      · exact reads_fail _
    · exact reads_entryAt _ _
    · exact reads_entryAt _ _
    · exact reads_missing _
  case h_9 => exact reads_missing _
  all_goals exact reads_place _ _ _ _

end Clean

/-- What leaves the machine as it is where it fails can be attempted, whatever the failure. -/
theorem keeps_attemptClean {Result : Type} [Checkable Result] (run : Run Result)
    (handles : Failure → Bool) (keeps : ⦃watched⦄ run ⦃kept⦄) (clean : FailsClean run) :
    ⦃watched⦄ attempt run handles ⦃kept⦄ := by
  refine triple_iff.2 fun setting sound machine going => ?_
  have held := triple_iff.1 keeps setting sound machine going
  rw [attempt, recovering_run, bind_run]
  cases outcome : run setting machine with
  | ok result after =>
    rw [outcome] at held
    exact ⟨held.1, (harmless_some _).2 held.2⟩
  | error failure after =>
    rw [outcome] at held
    by_cases handled : handles failure = true
    · cases clean setting machine failure after outcome
      have goes : ⦃watched⦄ (do closeCapturesTo machine.captures.length; return (none : Option Result))
          ⦃kept⦄ := by
        mvcgen
        grind
      simp only [handled, if_true]
      exact triple_iff.1 goes setting sound machine going
    · simp only [handled, if_false, Bool.false_eq_true]
      exact held

@[spec]
theorem keeps_memberOrItem (value : Value) (name : Text) (fine : harmless value) :
    ⦃watched⦄ memberOrItem value name ⦃kept⦄ := by
  have clean := failsClean_item value (.text name)
  mvcgen [memberOrItem, keeps_attemptClean, -keeps_attempt]
  all_goals grind -ring -linarith -order

@[spec]
theorem keeps_itemOrMember (value index : Value) (fine : harmless value) :
    ⦃watched⦄ itemOrMember value index ⦃kept⦄ := by
  have clean := failsClean_item value index
  mvcgen [itemOrMember, keeps_attemptClean, -keeps_attempt]
  all_goals grind -ring -linarith -order

end Run

namespace Braces

open Run

instance : Inert Step := .plain
instance : Inert Numbering := .plain
instance : Inert Part := .plain
instance : Inert Number.Spec := .plain

@[spec]
theorem keeps_firstValue (formatter : Formatter) (given : Given) (name : Text)
    (fine : harmless given) : ⦃watched⦄ firstValue formatter given name ⦃kept⦄ := by
  mvcgen [firstValue]
  all_goals grind -ring -linarith -order

@[spec]
theorem keeps_takeStep (formatter : Formatter) (value : Value) (step : Step)
    (fine : harmless value) (guards : Regime.preserving → formatter.guarded = true) :
    ⦃watched⦄ takeStep formatter value step ⦃kept⦄ := by
  mvcgen [takeStep]
  all_goals grind -ring -linarith -order

@[spec]
theorem keeps_specFor (className : Text) (numeric : Bool) (specification : Text) :
    ⦃watched⦄ specFor className numeric specification ⦃kept⦄ := by
  mvcgen [specFor]
  all_goals grind -ring -linarith -order

@[spec]
theorem keeps_formatValue (value : Value) (specification : Text) :
    ⦃watched⦄ formatValue value specification ⦃kept⦄ := by
  mvcgen [formatValue]
  all_goals grind -ring -linarith -order

@[spec]
theorem keeps_fillField (formatter : Formatter) (value : Value) (specification : Text) :
    ⦃watched⦄ fillField formatter value specification ⦃kept⦄ := by
  mvcgen [fillField]
  all_goals grind -ring -linarith -order

@[spec]
theorem keeps_convert (value : Value) (conversion : Option CodePoint) (fine : harmless value) :
    ⦃watched⦄ convert value conversion ⦃kept⦄ := by
  mvcgen [convert]
  all_goals grind -ring -linarith -order

theorem keeps_fillPattern (formatter : Formatter) (given : Given) (depth : Nat) (pattern : Text)
    (numbering : Numbering) (fine : harmless given)
    (guards : Regime.preserving → formatter.guarded = true) :
    ⦃watched⦄ fillPattern formatter given depth pattern numbering ⦃kept⦄ := by
  induction depth generalizing pattern numbering with
  | zero =>
    mvcgen [fillPattern]
    all_goals grind -ring -linarith -order
  | succ depth ih =>
    unfold fillPattern
    refine keeps_bind (keeps_settled _ fun _ _ _ _ => trivial) fun parts _ => ?_
    refine keeps_foldlM _ _ _ ⟨nofun, trivial⟩ fun part _ done _ => ?_
    have steps (steps : List Step) (start : Value) (fine : harmless start) :
        ⦃watched⦄ steps.foldlM (takeStep formatter) start ⦃kept⦄ :=
      keeps_foldlM _ _ _ fine fun step _ value fine => keeps_takeStep formatter value step fine guards
    mvcgen [steps, ih, -Spec.foldlM_list]
    all_goals grind -ring -linarith -order

@[spec]
theorem keeps_format (formatter : Formatter) (pattern : Text) (given : Given)
    (fine : harmless given) (guards : Regime.preserving → formatter.guarded = true) :
    ⦃watched⦄ format formatter pattern given ⦃kept⦄ := by
  mvcgen [format, keeps_fillPattern]
  all_goals grind -ring -linarith -order

end Braces
end PageTemplates
