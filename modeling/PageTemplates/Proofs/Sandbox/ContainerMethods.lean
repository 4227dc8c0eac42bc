import Mathlib
import PageTemplates.Proofs.Sandbox.Members
import PageTemplates.Value.ContainerMethods

/-!
Calling methods obeys. The methods that change a list or a dictionary are not at hand where it has to
stay as it is.
-/

namespace PageTemplates

open Std.Do Run

set_option mvcgen.warning false

variable [Regime] [Watch]

namespace ContainerMethods

omit [Watch] in
@[grind .]
theorem harmless_putEntry (world : World) {key value : Value} {entries : List (Value × Value)}
    (keyFine : harmless key) (valueFine : harmless value) (fine : harmless entries) :
    harmless (putEntry world key value entries) := by
  unfold putEntry
  split
  · exact harmless_modify fine _ fun _ old => ⟨old.1, valueFine⟩
  · exact (harmless_append _ _).2 ⟨fine, (harmless_cons _ _).2 ⟨⟨keyFine, valueFine⟩, nofun⟩⟩

@[spec]
theorem keeps_pairOf (place : Nat) (element : Value) (fine : harmless element) :
    ⦃watched⦄ pairOf place element ⦃kept⦄ := by
  mvcgen [pairOf]
  all_goals grind -ring -linarith -order

@[spec]
theorem keeps_entriesFrom (value : Value) (fine : harmless value) :
    ⦃watched⦄ entriesFrom value ⦃kept⦄ := by
  mvcgen [entriesFrom]
  all_goals grind -ring -linarith -order

@[spec]
theorem keeps_mergeEntries (entries added : List (Value × Value)) (fine : harmless entries)
    (addedFine : harmless added) : ⦃watched⦄ mergeEntries entries added ⦃kept⦄ := by
  induction added generalizing entries with
  | nil =>
    mvcgen [mergeEntries]
    all_goals grind -ring -linarith -order
  | cons entry rest ih =>
    mvcgen [mergeEntries, ih]
    all_goals grind -ring -linarith -order

omit [Watch] in
@[grind .]
theorem harmless_namedEntries {given : Given} (fine : harmless given) :
    harmless (namedEntries given) :=
  (harmless_map _ _).2 fun entry inside => ⟨harmless_plain rfl, (fine.2 entry inside).2⟩

@[spec]
theorem keeps_findItem (value : Value) (place : Nat) (items : List Value) :
    ⦃watched⦄ findItem value place items ⦃kept⦄ := by
  induction items generalizing place with
  | nil =>
    mvcgen [findItem]
    all_goals grind -ring -linarith -order
  | cons item rest ih =>
    mvcgen [findItem, ih]
    all_goals grind -ring -linarith -order

@[spec]
theorem keeps_countItems (value : Value) (items : List Value) :
    ⦃watched⦄ countItems value items ⦃kept⦄ := by
  induction items with
  | nil =>
    mvcgen [countItems]
    all_goals grind -ring -linarith -order
  | cons item rest ih =>
    mvcgen [countItems, ih]
    all_goals grind -ring -linarith -order

@[spec]
theorem keeps_runLength (falling : Bool) (before : Value) (items : List (Value × Value)) :
    ⦃watched⦄ runLength falling before items ⦃kept⦄ := by
  induction items generalizing before with
  | nil =>
    mvcgen [runLength]
    all_goals grind -ring -linarith -order
  | cons item rest ih =>
    mvcgen [runLength, ih]
    all_goals grind -ring -linarith -order

@[spec]
theorem keeps_insertionPlace (sorted : Array (Value × Value)) (key : Value) (bound low high : Nat) :
    ⦃watched⦄ insertionPlace sorted key bound low high ⦃kept⦄ := by
  induction bound generalizing low high with
  | zero =>
    mvcgen [insertionPlace]
    all_goals grind -ring -linarith -order
  | succ bound ih =>
    mvcgen [insertionPlace, ih]
    all_goals grind -ring -linarith -order

@[spec]
theorem keeps_insertAll (sorted : Array (Value × Value)) (items : List (Value × Value))
    (sortedFine : harmless sorted) (fine : harmless items) :
    ⦃watched⦄ insertAll sorted items ⦃kept⦄ := by
  induction items generalizing sorted with
  | nil =>
    mvcgen [insertAll]
    all_goals grind -ring -linarith -order
  | cons item rest ih =>
    mvcgen [insertAll, ih]
    all_goals grind -ring -linarith -order

@[spec]
theorem keeps_insertionSorted (items : List (Value × Value)) (fine : harmless items) :
    ⦃watched⦄ insertionSorted items ⦃kept⦄ := by
  mvcgen [insertionSorted]
  all_goals grind -ring -linarith -order

@[spec]
theorem keeps_mergeSorted (bound : Nat) (firsts seconds : List (Value × Value))
    (firstsFine : harmless firsts) (secondsFine : harmless seconds) :
    ⦃watched⦄ mergeSorted bound firsts seconds ⦃kept⦄ := by
  induction bound generalizing firsts seconds with
  | zero =>
    mvcgen [mergeSorted]
    all_goals grind -ring -linarith -order
  | succ bound ih =>
    cases firsts <;> cases seconds
    all_goals mvcgen [mergeSorted, ih]
    all_goals grind -ring -linarith -order

@[spec]
theorem keeps_sortRising (bound : Nat) (items : List (Value × Value)) (fine : harmless items) :
    ⦃watched⦄ sortRising bound items ⦃kept⦄ := by
  induction bound generalizing items with
  | zero =>
    mvcgen [sortRising]
    all_goals grind -ring -linarith -order
  | succ bound ih =>
    mvcgen [sortRising, ih]
    all_goals grind -ring -linarith -order

@[spec]
theorem keeps_sortKeyed (reverse : Bool) (items : List (Value × Value)) (fine : harmless items) :
    ⦃watched⦄ sortKeyed reverse items ⦃kept⦄ := by
  mvcgen [sortKeyed]
  all_goals grind -ring -linarith -order

@[spec]
theorem keeps_sortBy (reverse : Bool) (key : Value → Run Value) (values : List Value)
    (keeps : ∀ value, harmless value → ⦃watched⦄ key value ⦃kept⦄) (fine : harmless values) :
    ⦃watched⦄ sortBy reverse key values ⦃kept⦄ := by
  mvcgen [sortBy, keeps]
  all_goals grind -ring -linarith -order

@[spec]
theorem keeps_searchBound (length : Nat) (value : Option Value) (default : Nat) :
    ⦃watched⦄ searchBound length value default ⦃kept⦄ := by
  mvcgen [searchBound]
  all_goals grind -ring -linarith -order

@[spec]
theorem keeps_indexAmong (items arguments : List Value) (failure : Value → Run Failure)
    (keeps : ∀ value, ⦃watched⦄ failure value ⦃kept⦄) :
    ⦃watched⦄ indexAmong items arguments failure ⦃kept⦄ := by
  mvcgen [indexAmong, keeps]
  all_goals grind -ring -linarith -order

omit [Regime] [Watch] in
/-- The names that change a value are known. -/
theorem changing : "append" ∈ changingNames ∧ "clear" ∈ changingNames ∧ "pop" ∈ changingNames ∧
    "reverse" ∈ changingNames ∧ "insert" ∈ changingNames ∧ "sort" ∈ changingNames ∧
    "extend" ∈ changingNames ∧ "remove" ∈ changingNames ∧ "popitem" ∈ changingNames ∧
    "setdefault" ∈ changingNames ∧ "update" ∈ changingNames := by
  decide

section Lists

variable (address : Ref) (items : Array Value) (given : Given)

@[spec]
theorem keeps_setItems (items : List Value) (fine : harmless items) (free : ¬ Held address) :
    ⦃watched⦄ setItems address items ⦃kept⦄ := by
  mvcgen [setItems]
  all_goals grind -ring -linarith -order

@[spec]
theorem keeps_appendItem (fine : harmless items) (givenFine : harmless given)
    (free : ¬ Held address) : ⦃watched⦄ appendItem address items given ⦃kept⦄ := by
  mvcgen [appendItem]
  all_goals grind -ring -linarith -order

@[spec]
theorem keeps_extendItems (fine : harmless items) (givenFine : harmless given)
    (free : ¬ Held address) : ⦃watched⦄ extendItems address items given ⦃kept⦄ := by
  mvcgen [extendItems]
  all_goals grind -ring -linarith -order

@[spec]
theorem keeps_insertItem (fine : harmless items) (givenFine : harmless given)
    (free : ¬ Held address) : ⦃watched⦄ insertItem address items given ⦃kept⦄ := by
  mvcgen [insertItem]
  all_goals grind -ring -linarith -order

@[spec]
theorem keeps_removeItem (fine : harmless items) (givenFine : harmless given)
    (free : ¬ Held address) : ⦃watched⦄ removeItem address items given ⦃kept⦄ := by
  mvcgen [removeItem]
  all_goals grind -ring -linarith -order

@[spec]
theorem keeps_popItem (fine : harmless items) (givenFine : harmless given)
    (free : ¬ Held address) : ⦃watched⦄ popItem address items given ⦃kept⦄ := by
  mvcgen [popItem]
  all_goals grind -ring -linarith -order

@[spec]
theorem keeps_sortKey (key : Option Value) (value : Value) (keyFine : harmless key)
    (fine : harmless value) : ⦃watched⦄ sortKey key value ⦃kept⦄ := by
  mvcgen [sortKey]
  all_goals grind -ring -linarith -order

@[spec]
theorem keeps_sortItems (fine : harmless items) (givenFine : harmless given)
    (free : ¬ Held address) : ⦃watched⦄ sortItems address items given ⦃kept⦄ := by
  mvcgen [sortItems]
  all_goals grind -ring -linarith -order

@[spec]
theorem keeps_callList (method : String) (fine : harmless items) (givenFine : harmless given)
    (free : method ∈ changingNames → ¬ Held address) :
    ⦃watched⦄ callList address items method given ⦃kept⦄ := by
  have changing := changing
  mvcgen [callList]
  all_goals grind -ring -linarith -order

end Lists

section Entries

variable (address : Ref) (entries : List (Value × Value)) (owner : Text) (given : Given)

@[spec]
theorem keeps_fromKeys (fine : harmless given) : ⦃watched⦄ fromKeys given ⦃kept⦄ := by
  mvcgen [fromKeys]
  all_goals grind -ring -linarith -order

@[spec]
theorem keeps_setEntries (fine : harmless entries) (free : ¬ Held address) :
    ⦃watched⦄ setEntries address entries ⦃kept⦄ := by
  mvcgen [setEntries]
  all_goals grind -ring -linarith -order

@[spec]
theorem keeps_getEntry (fine : harmless entries) (givenFine : harmless given) :
    ⦃watched⦄ getEntry entries owner given ⦃kept⦄ := by
  mvcgen [getEntry]
  all_goals grind -ring -linarith -order

@[spec]
theorem keeps_popEntry (fine : harmless entries) (givenFine : harmless given)
    (free : ¬ Held address) : ⦃watched⦄ popEntry address entries owner given ⦃kept⦄ := by
  mvcgen [popEntry]
  all_goals grind -ring -linarith -order

@[spec]
theorem keeps_popLastEntry (fine : harmless entries) (free : ¬ Held address) :
    ⦃watched⦄ popLastEntry address entries owner given ⦃kept⦄ := by
  have turned entry before (same : entries.reverse = entry :: before) :
      harmless (entry :: before) := same ▸ (harmless_reverse entries).2 fine
  mvcgen [popLastEntry]
  all_goals grind -ring -linarith -order

@[spec]
theorem keeps_defaultEntry (fine : harmless entries) (givenFine : harmless given)
    (free : ¬ Held address) : ⦃watched⦄ defaultEntry address entries owner given ⦃kept⦄ := by
  mvcgen [defaultEntry]
  all_goals grind -ring -linarith -order

@[spec]
theorem keeps_updateEntries (fine : harmless entries) (givenFine : harmless given)
    (free : ¬ Held address) : ⦃watched⦄ updateEntries address entries owner given ⦃kept⦄ := by
  mvcgen [updateEntries]
  all_goals grind -ring -linarith -order

@[spec]
theorem keeps_callDict (method : String) (fine : harmless entries) (givenFine : harmless given)
    (free : method ∈ changingNames → ¬ Held address) :
    ⦃watched⦄ callDict address entries owner method given ⦃kept⦄ := by
  have changing := changing
  mvcgen [callDict]
  all_goals grind -ring -linarith -order

end Entries

@[spec]
theorem keeps_callTuple (items : List Value) (method : String) (given : Given)
    (givenFine : harmless given) : ⦃watched⦄ callTuple items method given ⦃kept⦄ := by
  mvcgen [callTuple]
  all_goals grind -ring -linarith -order

@[spec]
theorem keeps_callRange (items : List Value) (method : String) (given : Given)
    (givenFine : harmless given) : ⦃watched⦄ callRange items method given ⦃kept⦄ := by
  mvcgen [callRange]
  all_goals grind -ring -linarith -order

end ContainerMethods
end PageTemplates
