import Mathlib
import PageTemplates.Proofs.Template.Careful
import PageTemplates.Proofs.World
import PageTemplates.Render.Variables
import PageTemplates.Rule

/-!
Rendering under watch. A regime says which environment code runs in, whether what is watched has to
stay as it is, and whether filters and tests that are refused are counted. A watch names things of a
world. A run obeys if it takes a sound world to a sound one: one in which everything is harmless and
the watched things are as they were. Only the filter for indentation, where it fails for a list, leaves
that list with a line break more.
-/

namespace PageTemplates

open Std.Do Template

set_option mvcgen.warning false

/-- The environment of code, and what is asked of it. -/
class Regime where
  environment : Environment
  preserving : Prop
  counting : Prop
  immutable : preserving → environment.guard = .immutable

namespace Cell

/-- Whether a thing holds the variables of a run. -/
@[simp, grind =]
def isActivation : Cell → Bool
  | .activation _ => true
  | _ => false

end Cell

/-- Things of a world that are looked after, from when on so much was written. -/
class Watch where
  origin : World
  held : Ref → Prop
  still : ∀ address, held address → ∃ cell, origin.cell? address = some cell ∧ cell.isStill = true
  earlier : List Emission

/-- What can be harmless. -/
class Checkable (Thing : Type) where
  passes : Thing → Prop

/-- Whether a thing is harmless. -/
def harmless {Thing : Type} [Checkable Thing] (thing : Thing) : Prop := Checkable.passes thing

/-- What is always harmless. -/
class Inert (Thing : Type) extends Checkable Thing where
  inert : ∀ thing, passes thing

/-- Things that hold no values. -/
abbrev Inert.plain {Thing : Type} : Inert Thing where
  passes _ := True
  inert _ := trivial

/-- The methods that change a value. -/
def changingNames : List String :=
  Run.changingMethods "list" ++ Run.changingMethods "dict" ++ Run.changingMethods "set"

namespace Value

mutual

/-- Whether no method that changes a value is at hand in a value. -/
def tame : Value → Bool
  | .tuple items => tameAll items
  | .group key members => tame key && tame members
  | .slice start stop step => tame start && tame stop && tame step
  | .method receiver name => !changingNames.contains name && tame receiver
  | _ => true

/-- Whether no method that changes a value is at hand in values. -/
def tameAll : List Value → Bool
  | [] => true
  | value :: rest => tame value && tameAll rest

end

theorem tameAll_iff {values : List Value} :
    tameAll values = true ↔ ∀ value ∈ values, tame value = true := by
  induction values with
  | nil => simp [tameAll]
  | cons value rest ih => simp [tameAll, ih]

end Value

section Harmless

variable [Regime] {First Second : Type} [Checkable First] [Checkable Second]

instance : Inert Unit := .plain
instance : Inert Bool := .plain
instance : Inert Nat := .plain
instance : Inert Int := .plain
instance : Inert Float := .plain
instance : Inert String := .plain
instance : Inert CodePoint := .plain
instance : Inert UInt8 := .plain
instance : Inert Failure := .plain
instance : Inert Slot := .plain
instance : Checkable (List First) := ⟨fun items => ∀ item ∈ items, harmless item⟩
instance {Thing : Type} [Inert Thing] : Inert (List Thing) where
  inert _ item _ := Inert.inert item
instance : Checkable (Array First) := ⟨fun items => ∀ item ∈ items, harmless item⟩
instance : Checkable (Option First) := ⟨fun item? => ∀ item, item? = some item → harmless item⟩
instance {Thing : Type} [Inert Thing] : Inert (Option Thing) where
  inert _ thing _ := Inert.inert thing
instance : Checkable (First × Second) := ⟨fun pair => harmless pair.1 ∧ harmless pair.2⟩
instance : Checkable Value := ⟨fun value => Regime.preserving → value.tame = true⟩
instance : Checkable Place := ⟨fun place => Regime.preserving → place.entered = []⟩
instance : Checkable Step := ⟨fun step => Regime.preserving → step.isCareful = true⟩
instance : Checkable Branch := ⟨fun branch => Regime.preserving → Branch.areCareful [branch] = true⟩
instance : Checkable LoopCode := ⟨fun loop => Regime.preserving → loop.isCareful = true⟩
instance : Checkable MacroCode := ⟨fun code => Regime.preserving → code.isCareful = true⟩
instance : Checkable BlockCode := ⟨fun code => Regime.preserving → code.isCareful = true⟩
instance : Checkable BlockEntry := ⟨fun entry => harmless entry.code⟩
instance : Checkable Entry := ⟨fun entry => Regime.preserving → entry.program.isCareful = true⟩
instance : Checkable Given := ⟨fun given => harmless given.positional ∧ harmless given.named⟩
instance : Checkable Bound :=
  ⟨fun bound => harmless bound.values ∧ harmless bound.rest ∧ harmless bound.named⟩
instance : Checkable Parameter := ⟨fun parameter => harmless parameter.default⟩
instance : Checkable Context := ⟨fun state =>
  harmless state.given ∧ harmless state.own ∧ harmless state.blocks ∧ harmless state.escapes⟩
instance : Checkable Activation := ⟨fun state => harmless state.slots⟩
instance : Checkable LoopState := ⟨fun state =>
  harmless state.source ∧ harmless state.ahead ∧ harmless state.current ∧ harmless state.before ∧
    harmless state.changed ∧ harmless state.recursive⟩
instance : Checkable MacroState := ⟨fun state => harmless state.code ∧ harmless state.escapes⟩

/-- Whether what an iterator has still to give is harmless. -/
def Iteration.isHarmless : Iteration → Prop
  | .values items => harmless items
  | .notStarted _ value given _ => harmless value ∧ harmless given
  | .mapped _ filter given _ => harmless filter ∧ harmless given
  | .picked _ _ fallback => harmless fallback
  | .selected _ _ test _ _ => harmless test
  | .batches _ size fill => harmless size ∧ harmless fill
  | .filtered _ place _ _ slots _ _ => harmless place ∧ harmless slots
  | .done => True
  | .list _ _ => True
  | .listBackwards _ _ => True
  | .range _ _ _ => True
  | .entries _ _ _ _ => True
  | .loop _ => True
  | .unique _ _ _ _ => True

instance : Checkable Iteration := ⟨Iteration.isHarmless⟩

/-- Whether a thing is harmless. -/
def Cell.isHarmless : Cell → Prop
  | .list items => harmless items
  | .dict entries => harmless entries
  | .set items => harmless items
  | .mapping entries => harmless entries
  | .object attributes => harmless attributes
  | .iterator _ state => harmless state
  | .namespace entries => harmless entries
  | .cycler items _ => harmless items
  | .joiner separator _ => harmless separator
  | .loop state => harmless state
  | .module _ body exports => harmless body ∧ harmless exports
  | .macroOf state => harmless state
  | .context state => harmless state
  | .activation state => harmless state
  | .sealed => True
  | .explosive => True

instance : Checkable Cell := ⟨Cell.isHarmless⟩

omit [Regime] in
@[grind norm]
theorem harmless_inert {Thing : Type} [Inert Thing] (thing : Thing) : harmless thing ↔ True :=
  iff_true_intro (Inert.inert thing)

omit [Regime] in
theorem harmless_list {items : List First} : harmless items ↔ ∀ item ∈ items, harmless item :=
  Iff.rfl

omit [Regime] in
theorem harmless_array {items : Array First} : harmless items ↔ ∀ item ∈ items, harmless item :=
  Iff.rfl

omit [Regime] in
@[grind norm]
theorem harmless_inerts {Thing : Type} [Inert Thing] (things : List Thing) :
    harmless things ↔ True :=
  iff_true_intro fun thing _ => (harmless_inert thing).2 trivial

omit [Regime] in
@[grind →]
theorem harmless_mem {items : List First} {item : First} (holds : harmless items)
    (inside : item ∈ items) : harmless item := holds item inside

omit [Regime] in
@[grind →]
theorem harmless_array_mem {items : Array First} {item : First} (holds : harmless items)
    (inside : item ∈ items) : harmless item := holds item inside

omit [Regime] in
@[grind norm]
theorem harmless_nil : harmless ([] : List First) ↔ True := iff_true_intro nofun

omit [Regime] in
@[grind =]
theorem harmless_cons (first : First) (rest : List First) :
    harmless (first :: rest) ↔ harmless first ∧ harmless rest := List.forall_mem_cons

omit [Regime] in
@[grind norm]
theorem harmless_append (first second : List First) :
    harmless (first ++ second) ↔ harmless first ∧ harmless second := List.forall_mem_append

omit [Regime] in
@[grind norm]
theorem harmless_reverse (items : List First) : harmless items.reverse ↔ harmless items := by
  simp [harmless_list]

omit [Regime] in
@[grind norm]
theorem harmless_toArray (items : List First) : harmless (Array.mk items) ↔ harmless items := by
  simp [harmless_array, harmless_list]

omit [Regime] in
@[grind norm]
theorem harmless_toList (items : Array First) : harmless items.toList ↔ harmless items := by
  simp [harmless_array, harmless_list]

omit [Regime] in
@[grind norm]
theorem harmless_array_append (first second : Array First) :
    harmless (first ++ second) ↔ harmless first ∧ harmless second := by
  simp [harmless_array, or_imp, forall_and]

omit [Regime] in
@[grind norm]
theorem harmless_push (items : Array First) (item : First) :
    harmless (items.push item) ↔ harmless items ∧ harmless item := by
  simp [harmless_array, or_imp, forall_and]

omit [Regime] in
theorem harmless_subset {items others : List First} (within : others ⊆ items)
    (holds : harmless items) : harmless others := fun item inside => holds item (within inside)

omit [Regime] in
@[grind .]
theorem harmless_take {items : List First} (holds : harmless items) (count : Nat) :
    harmless (items.take count) := harmless_subset (List.take_subset count items) holds

omit [Regime] in
@[grind .]
theorem harmless_drop {items : List First} (holds : harmless items) (count : Nat) :
    harmless (items.drop count) := harmless_subset (List.drop_subset count items) holds

omit [Regime] in
@[grind .]
theorem harmless_head? {items : List First} (holds : harmless items) : harmless items.head? :=
  fun item first => holds item (List.mem_of_mem_head? first)

omit [Regime] in
@[grind .]
theorem harmless_getElem? {items : List First} (holds : harmless items) (place : Nat) :
    harmless items[place]? := fun item there => holds item (List.mem_of_getElem? there)

omit [Regime] in
@[grind →]
theorem harmless_at {items : List First} {item : First} {place : Nat}
    (there : items[place]? = some item) (holds : harmless items) : harmless item :=
  harmless_getElem? holds place item there

omit [Regime] in
@[grind .]
theorem harmless_array_getElem? {items : Array First} (holds : harmless items) (place : Nat) :
    harmless items[place]? := fun item there => holds item (Array.mem_of_getElem? there)

omit [Regime] in
@[grind .]
theorem harmless_eraseIdx {items : List First} (holds : harmless items) (place : Nat) :
    harmless (items.eraseIdx place) := harmless_subset List.eraseIdx_subset holds

omit [Regime] in
@[grind .]
theorem harmless_insertIdx {items : List First} {item : First} (holds : harmless items)
    (fine : harmless item) (place : Nat) : harmless (items.insertIdx place item) := by
  intro other inside
  rcases List.eq_or_mem_of_mem_insertIdx inside with rfl | before
  · exact fine
  · exact holds other before

omit [Regime] in
@[grind .]
theorem harmless_insertIdxIfInBounds {items : Array First} {item : First} (holds : harmless items)
    (fine : harmless item) (place : Nat) : harmless (items.insertIdxIfInBounds place item) := by
  unfold Array.insertIdxIfInBounds
  split
  · intro other inside
    rcases Array.mem_insertIdx.1 inside with rfl | before
    · exact fine
    · exact holds other before
  · exact holds

omit [Regime] in
theorem harmless_modify {items : List First} (holds : harmless items) (place : Nat)
    {change : First → First} (fine : ∀ item, harmless item → harmless (change item)) :
    harmless (items.modify place change) := by
  intro item inside
  obtain ⟨other, there⟩ := List.mem_iff_getElem?.1 inside
  rw [List.getElem?_modify] at there
  obtain ⟨old, found, same⟩ := Option.map_eq_some_iff.1 there
  have oldFine := holds old (List.mem_of_getElem? found)
  split at same <;> subst same
  · exact fine _ oldFine
  · exact oldFine

omit [Regime] in
theorem harmless_array_modify {items : Array First} (holds : harmless items) (place : Nat)
    {change : First → First} (fine : ∀ item, harmless item → harmless (change item)) :
    harmless (items.modify place change) := by
  rw [← harmless_toList, Array.toList_modify]
  exact harmless_modify ((harmless_toList _).2 holds) place fine

omit [Regime] in
@[grind norm]
theorem harmless_ite (condition : Prop) [Decidable condition] (first second : First) :
    harmless (if condition then first else second) ↔
      if condition then harmless first else harmless second := by
  split <;> exact Iff.rfl

omit [Regime] in
@[grind =]
theorem harmless_none : harmless (none : Option First) ↔ True := iff_true_intro nofun

omit [Regime] in
@[grind =]
theorem harmless_some (item : First) : harmless (some item) ↔ harmless item :=
  ⟨fun holds => holds item rfl, fun holds _ same => Option.some.inj same ▸ holds⟩

omit [Regime] in
@[grind norm]
theorem harmless_pair (pair : First × Second) : harmless pair ↔ harmless pair.1 ∧ harmless pair.2 :=
  Iff.rfl

omit [Regime] in
@[grind .]
theorem harmless_zip {Name : Type} [Inert Name] (names : List Name) {items : List First}
    (fine : harmless items) : harmless (names.zip items) :=
  fun pair inside => ⟨Inert.inert _, fine pair.2 (List.of_mem_zip inside).2⟩

omit [Regime] in
@[grind =]
theorem harmless_map {Item : Type} (items : List Item) (form : Item → First) :
    harmless (items.map form) ↔ ∀ item ∈ items, harmless (form item) := List.forall_mem_map

omit [Regime] in
@[grind .]
theorem harmless_lookup [BEq First] {entries : List (First × Second)} (holds : harmless entries)
    (key : First) : harmless (entries.lookup key) := by
  induction entries with
  | nil => exact nofun
  | cons entry rest ih =>
    rw [List.lookup]
    split
    · exact (harmless_some _).2 (holds entry (by simp)).2
    · exact ih fun item inside => holds item (List.mem_cons_of_mem _ inside)

omit [Regime] in
@[grind →]
theorem harmless_looked [BEq First] {entries : List (First × Second)} {key : First}
    {found : Second} (there : entries.lookup key = some found) (holds : harmless entries) :
    harmless found := harmless_lookup holds key found there

omit [Regime] in
@[grind .]
theorem harmless_getD {item? : Option First} {fallback : First} (holds : harmless item?)
    (otherwise : harmless fallback) : harmless (item?.getD fallback) := by
  cases item? with
  | none => exact otherwise
  | some item => exact holds item rfl

omit [Regime] in
@[grind .]
theorem harmless_option_toList {item? : Option First} (holds : harmless item?) :
    harmless item?.toList := fun item inside => holds item (Option.mem_toList.1 inside)

omit [Regime] in
@[grind =]
theorem harmless_option_map {Item : Type} (item? : Option Item) (form : Item → First) :
    harmless (item?.map form) ↔ ∀ item, item? = some item → harmless (form item) := by
  constructor
  · rintro holds item rfl
    exact holds _ rfl
  · intro holds item there
    obtain ⟨origin, same, rfl⟩ := Option.map_eq_some_iff.1 there
    exact holds origin same

omit [Regime] in
@[grind .]
theorem harmless_second {pair? : Option (First × Second)} (holds : harmless pair?) :
    harmless (pair?.map Prod.snd) := by
  cases pair? with
  | none => exact nofun
  | some pair => exact (harmless_some _).2 (holds pair rfl).2

theorem harmless_value {value : Value} : harmless value ↔ (Regime.preserving → value.tame = true) :=
  Iff.rfl

@[grind =]
theorem harmless_tuple (items : List Value) : harmless (Value.tuple items) ↔ harmless items := by
  simp only [harmless_value, harmless_list, Value.tame, Value.tameAll_iff]
  exact ⟨fun holds item inside frozen => holds frozen item inside,
    fun holds frozen item inside => holds item inside frozen⟩

@[grind =]
theorem harmless_group (key members : Value) :
    harmless (Value.group key members) ↔ harmless key ∧ harmless members := by
  simp only [harmless_value, Value.tame, Bool.and_eq_true, forall_and]

@[grind =]
theorem harmless_slice (start stop step : Value) :
    harmless (Value.slice start stop step) ↔ harmless start ∧ harmless stop ∧ harmless step := by
  simp only [harmless_value, Value.tame, Bool.and_eq_true, forall_and, and_assoc]

theorem harmless_method (receiver : Value) (name : String) :
    harmless (Value.method receiver name) ↔
      (Regime.preserving → name ∉ changingNames) ∧ harmless receiver := by
  simp [harmless_value, Value.tame, forall_and]

/-- Whether a value holds no other value and is no method. -/
def Value.isPlain : Value → Bool
  | .tuple _ => false
  | .group _ _ => false
  | .slice _ _ _ => false
  | .method _ _ => false
  | .none => true
  | .bool _ => true
  | .int _ => true
  | .float _ => true
  | .text _ => true
  | .markup _ => true
  | .bytes _ => true
  | .date _ => true
  | .datetime _ => true
  | .range _ _ _ => true
  | .undefined .. => true
  | .missing => true
  | .function _ => true
  | .builtin _ => true
  | .classOf _ => true
  | .view _ _ => true
  | .template _ => true
  | .blockOf _ _ _ => true
  | .ref _ => true

@[grind .]
theorem harmless_plain {value : Value} (plain : value.isPlain = true) : harmless value := by
  intro _
  cases value <;> simp_all [Value.isPlain, Value.tame]

theorem harmless_iteration {state : Iteration} : harmless state ↔ state.isHarmless := Iff.rfl

theorem harmless_cell {cell : Cell} : harmless cell ↔ cell.isHarmless := Iff.rfl

theorem harmless_given {given : Given} :
    harmless given ↔ harmless given.positional ∧ harmless given.named := Iff.rfl

@[grind =]
theorem harmless_ofList (values : List Value) : harmless (Given.ofList values) ↔ harmless values :=
  and_iff_left nofun

theorem harmless_bound {bound : Bound} :
    harmless bound ↔ harmless bound.values ∧ harmless bound.rest ∧ harmless bound.named := Iff.rfl

theorem harmless_context {state : Context} :
    harmless state ↔ harmless state.given ∧ harmless state.own ∧ harmless state.blocks ∧
      harmless state.escapes := Iff.rfl

@[grind .]
theorem harmless_default_context : harmless (default : Context) :=
  ⟨nofun, nofun, nofun, harmless_plain rfl⟩

theorem harmless_activation {state : Activation} : harmless state ↔ harmless state.slots := Iff.rfl

theorem harmless_loop {state : LoopState} :
    harmless state ↔ harmless state.source ∧ harmless state.ahead ∧ harmless state.current ∧
      harmless state.before ∧ harmless state.changed ∧ harmless state.recursive := Iff.rfl

theorem harmless_macro {state : MacroState} :
    harmless state ↔ harmless state.code ∧ harmless state.escapes := Iff.rfl

theorem harmless_iterator {kind : String} {state : Iteration} :
    harmless (Cell.iterator kind state) ↔ state.isHarmless := Iff.rfl

attribute [grind =] harmless_iteration harmless_cell harmless_given harmless_bound
  harmless_context harmless_activation harmless_loop harmless_macro harmless_method harmless_iterator
  Iteration.isHarmless Cell.isHarmless Value.isPlain

end Harmless

attribute [grind →] Regime.immutable

/-- Whether a failure tells neither of templates that fail by themselves nor of a missing attribute. -/
@[grind =]
def Failure.IsCommon (failure : Failure) : Prop :=
  failure.cause ≠ .templateFailed ∧ failure.cause ≠ .missingAttribute

section Laws

variable [Regime] [Watch]

/-- Whether a thing has to stay as it is. -/
@[grind =]
def Held (address : Ref) : Prop := Regime.preserving ∧ Watch.held address

/-- A world in which everything is harmless and the watched things are as they were. -/
structure World.Sound (world : World) : Prop where
  cells : ∀ address cell, world.cell? address = some cell → harmless cell
  below : ∀ address, Held address → address < world.fresh
  placed : ∀ address state, world.cell? address = some (.activation state) → address < world.fresh
  kept : ∀ address cell, Held address → Watch.origin.cell? address = some cell →
    world.cell? address = some cell

instance : Checkable World := ⟨World.Sound⟩

@[grind =]
theorem harmless_world {world : World} : harmless world ↔ world.Sound := Iff.rfl

namespace World.Sound

variable {world : World} (sound : world.Sound)
include sound

@[grind →]
theorem cell {address : Ref} {found : Cell} (there : world.cell? address = some found) :
    harmless found := sound.cells _ _ there

@[grind .]
theorem entries (address : Ref) : harmless (world.entries? address) := by
  intro entries there
  unfold World.entries? at there
  split at there <;> cases there
  · rename_i found
    exact fun entry inside => sound.cell found entry (Array.mem_toList_iff.1 inside)
  · rename_i found
    exact sound.cell found

@[grind .]
theorem items (address : Ref) : harmless (world.items? address) := by
  intro items there
  unfold World.items? at there
  split at there <;> cases there
  rename_i found
  exact sound.cell found

@[grind →]
theorem entries_found {address : Ref} {entries : List (Value × Value)}
    (there : world.entries? address = some entries) : harmless entries :=
  sound.entries address entries there

/-- Only what stays as it is can be held. -/
theorem still {address : Ref} {found : Cell} (there : world.cell? address = some found)
    (held : Held address) : found.isStill = true := by
  obtain ⟨first, origin, still⟩ := Watch.still address held.2
  rw [sound.kept address first held origin, Option.some.injEq] at there
  exact there ▸ still

theorem put {address : Ref} {cell : Cell} (fine : harmless cell)
    (known : cell.isActivation = true → address < world.fresh) (free : ¬ Held address) :
    (world.put address cell).Sound where
  cells other found there := by
    rw [World.cell_put] at there
    split at there
    · exact Option.some.inj there ▸ fine
    · exact sound.cell there
  below other held := sound.below other held
  placed other state there := by
    rw [World.cell_put] at there
    split at there
    · rename_i same
      exact same ▸ known (Option.some.inj there ▸ rfl)
    · exact sound.placed other state there
  kept other found held origin := by
    have apart : other ≠ address := fun same => free (same ▸ held)
    rw [World.cell_put, if_neg apart]
    exact sound.kept other found held origin

theorem fresh_free : ¬ Held world.fresh := fun held => Nat.lt_irrefl _ (sound.below _ held)

theorem add {cell : Cell} (fine : harmless cell) : (world.add cell).2.Sound where
  cells other found there := by
    rw [World.cell_add] at there
    split at there
    · exact Option.some.inj there ▸ fine
    · exact sound.cell there
  below other held := Nat.lt_succ_of_lt (sound.below other held)
  placed other state there := by
    rw [World.cell_add] at there
    split at there
    · rename_i same
      exact same ▸ Nat.lt_succ_self _
    · exact Nat.lt_succ_of_lt (sound.placed other state there)
  kept other found held origin := by
    have apart : other ≠ world.fresh := fun same => sound.fresh_free (same ▸ held)
    rw [World.cell_add, if_neg apart]
    exact sound.kept other found held origin

end World.Sound

/-- Whether a list of a sound world took in a line break, as the failure tells: the filter for
indentation adds it before it fails. -/
def World.Broken (failure : Failure) (world : World) : Prop :=
  failure = .missingAttribute "list" "splitlines" ∧
    Regime.environment.filters.contains "indent" = true ∧
    ∃ (before : World) (address : Ref) (items : Array Value), harmless before ∧
      before.items? address = some items ∧
      world = before.put address (.list (items.push (.text "\n")))

/-- A machine whose captures are harmless, and whose worlds were sound whenever it wrote. -/
structure Machine.Sound (machine : Machine) : Prop where
  captures : harmless machine.captures
  emissions : ∃ later, machine.emissions = later ++ Watch.earlier ∧
    ∀ emission ∈ later, harmless emission.world

/-- A failure that says that there is no filter or test of a name. -/
def Failure.IsRefusal (failure : Failure) : Prop :=
  failure.cause = .templateFailed ∧ ∃ kind ∈ ["filter", "test"], ∃ rest : Text,
    failure.message = "No " ++ Text.ofString kind ++ " named " ++ rest

omit [Regime] [Watch] in
@[grind .]
theorem Failure.isRefusal {kind : String} (known : kind ∈ ["filter", "test"]) (rest : Text) :
    IsRefusal ⟨.templateFailed, "No " ++ Text.ofString kind ++ " named " ++ rest⟩ :=
  ⟨rfl, kind, known, rest, rfl⟩

omit [Regime] [Watch] in
@[grind .]
theorem Failure.IsRefusal.append {message : Text} (refusal : IsRefusal ⟨.templateFailed, message⟩)
    (more : Text) : IsRefusal ⟨.templateFailed, message ++ more⟩ := by
  obtain ⟨cause, kind, known, rest, shape⟩ := refusal
  exact ⟨cause, kind, known, rest ++ more, by rw [← List.append_assoc, ← shape]⟩

/-- A machine that can go on. -/
structure Machine.Going (machine : Machine) : Prop extends machine.Sound where
  world : harmless machine.world
  unrefused : Regime.counting → machine.refusals = 0

/-- A machine that stopped with a failure. -/
structure Machine.Stopped (failure : Failure) (machine : Machine) : Prop extends machine.Sound where
  world : harmless machine.world ∨ machine.world.Broken failure
  refused : Regime.counting →
    machine.refusals = 0 ∨ machine.refusals = 1 ∧ failure.IsRefusal

/-- After a common failure a machine can go on. -/
theorem Machine.Stopped.goes {failure : Failure} {machine : Machine}
    (stopped : machine.Stopped failure) (common : failure.IsCommon) : machine.Going where
  toSound := stopped.toSound
  world := stopped.world.resolve_right fun broken => common.2 (broken.1 ▸ rfl)
  unrefused counts := (stopped.refused counts).resolve_right fun refused => common.1 refused.2.1

/-- Whether an action takes a machine that can go on to one that can go on, with a result of a kind,
or stops. -/
def Obeys {Result : Type} (good : Result → Prop) (action : Act Result) : Prop :=
  ∀ machine : Machine, machine.Going →
    match action machine with
    | .ok result machine => machine.Going ∧ good result
    | .error failure machine => machine.Stopped failure

/-- Powers that obey. -/
structure Powers.Obedient (powers : Powers) : Prop where
  call : ∀ context target given, harmless target → harmless given →
    Obeys harmless (powers.call context target given)
  advance : ∀ iterator, Obeys harmless (powers.advance iterator)
  renderTemplate : ∀ name entry context, harmless entry →
    Obeys harmless (powers.renderTemplate name entry context)
  renderBlock : ∀ entry context, harmless entry → Obeys harmless (powers.renderBlock entry context)

end Laws

section Triples

variable [Regime]

/-- A setting of the regime: its templates are careful, and its powers obey whatever is watched. -/
structure Setting.Sound (setting : Setting) : Prop where
  environment : setting.environment = Regime.environment
  globals : harmless setting.environment.globals
  templates : harmless setting.templates
  powers : ∀ [Watch], setting.powers.Obedient

variable [Watch]

/-- The shape of what is said of a run. -/
abbrev RunShape : PostShape := .arg Setting (.except Failure (.arg Machine .pure))

/-- What a run starts from. -/
abbrev watched : Assertion RunShape := fun setting machine => ⌜setting.Sound ∧ machine.Going⌝

/-- What a run with a result of a kind comes to. -/
abbrev ending {Result : Type} (good : Result → Prop) : PostCond Result RunShape :=
  ⟨fun result setting machine => ⌜(setting.Sound ∧ machine.Going) ∧ good result⌝,
    fun failure machine => ⌜machine.Stopped failure⌝, ()⟩

/-- What a run with a harmless result comes to. -/
abbrev kept {Result : Type} [Checkable Result] : PostCond Result RunShape := ending harmless

omit [Regime] [Watch] in
theorem wp_run {Result : Type} (run : Run Result) (post : PostCond Result RunShape)
    (setting : Setting) (machine : Machine) :
    (wp⟦run⟧ post setting machine).down ↔
      match run setting machine with
      | .ok result machine => (post.1 result setting machine).down
      | .error failure machine => (post.2.1 failure machine).down := by
  simp only [WP.wp, PredTrans.apply_pushArg, PredTrans.apply_Functor_map, ReaderT.run]
  simp only [PredTrans.apply, EStateM.run]
  cases outcome : run setting machine <;> rfl

theorem triple_iff {Result : Type} {good : Result → Prop} {run : Run Result} :
    ⦃watched⦄ run ⦃ending good⦄ ↔
      ∀ setting : Setting, setting.Sound → Obeys good (run setting) := by
  constructor
  · intro holds setting sound machine going
    have outcome := (wp_run run _ setting machine).1 (holds setting machine ⟨sound, going⟩)
    cases result : run setting machine <;> simp_all
  · rintro obeys setting machine ⟨sound, going⟩
    refine (wp_run run _ setting machine).2 ?_
    have outcome := obeys setting sound machine going
    cases result : run setting machine <;> simp_all

end Triples

end PageTemplates
