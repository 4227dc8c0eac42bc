import PageTemplates.Proofs.Configuration.Paths

/-!
Sound configurations: their mappings refer to cells that they have, and the keys of a mapping are fit and
differ from one another. The configuration of a dictionary is sound, and putting a value into a sound
configuration keeps it so.
-/

namespace PageTemplates

namespace Data

/-- Data whose dictionaries, those in lists aside, have keys that are fit and differ from one another. -/
inductive Proper : Data → Prop where
  | dict {entries : List (Data × Data)} (keys : ∀ entry ∈ entries, entry.1.IsKey)
      (distinct : entries.Pairwise fun one other => one.1.equals other.1 = false)
      (values : ∀ entry ∈ entries, entry.2.Proper) : Proper (.dict entries)
  | mapping {entries : List (Data × Data)} (keys : ∀ entry ∈ entries, entry.1.IsKey)
      (distinct : entries.Pairwise fun one other => one.1.equals other.1 = false)
      (values : ∀ entry ∈ entries, entry.2.Proper) : Proper (.mapping entries)
  | other {data : Data} (simple : ∀ entries, data ≠ .dict entries ∧ data ≠ .mapping entries) :
      Proper data

theorem proper_of_key {data : Data} (key : data.IsKey) : data.Proper := by
  refine .other fun entries => ⟨?_, ?_⟩
  · rintro rfl
    cases key
  · rintro rfl
    cases key

end Data

namespace Configuration

section

variable {cells : Cells} {target : Nat}

theorem size_put (key : Data) (value : Tree) : (cells.put target key value).size = cells.size := by
  simp [Cells.put]

theorem entries_put (key : Data) (value : Tree) (inside : target < cells.size) :
    (cells.put target key value).entries target = (cells.entries target).put key value := by
  simp [Cells.put, Cells.entries, Array.getD_eq_getD_getElem?, inside]

theorem entries_put_other (key : Data) (value : Tree) {number : Nat} (other : number ≠ target) :
    (cells.put target key value).entries number = cells.entries number := by
  simp [Cells.put, Cells.entries, Array.getD_eq_getD_getElem?, Ne.symm other]

end

/-- A tree refers to no cell from a number on. What lies in the cells does not matter. -/
def Tree.Fits (size : Nat) (tree : Tree) : Prop := ∀ number, tree.Reach #[] number → number < size

/-- The entries of a mapping are sound. -/
def Fit (size : Nat) (entries : Entries) : Prop :=
  entries.Proper ∧ ∀ entry ∈ entries, entry.2.Fits size

/-- The entries of all mappings are sound. -/
def AllFit (size : Nat) (cells : Cells) : Prop := ∀ number, Fit size (cells.entries number)

section

variable {cells : Cells} {size : Nat}

theorem entries_outside {number : Nat} (outside : cells.size ≤ number) : cells.entries number = [] := by
  rw [Cells.entries, Array.getD_eq_getD_getElem?, Array.getElem?_eq_none outside]
  rfl

theorem fit_nil : Fit size [] := ⟨Entries.proper_nil, nofun⟩

theorem fits_mono {larger : Nat} (least : size ≤ larger) {tree : Tree} (fits : tree.Fits size) :
    tree.Fits larger :=
  fun number reach => lt_of_lt_of_le (fits number reach) least

theorem fit_mono {larger : Nat} (least : size ≤ larger) {entries : Entries} (fit : Fit size entries) :
    Fit larger entries :=
  ⟨fit.1, fun entry member => fits_mono least (fit.2 entry member)⟩

theorem fits_leaf (data : Data) : (Tree.leaf data).Fits size := by
  intro number reach
  cases reach with
  | within inside _ => cases inside

theorem fits_mapping {number : Nat} (inside : number < size) : (Tree.mapping number).Fits size := by
  intro other reach
  cases reach with
  | here => exact inside
  | within member _ =>
      rw [Tree.inside, entries_outside (Nat.zero_le _)] at member
      cases member

theorem fits_list {items : List Tree} (each : ∀ item ∈ items, item.Fits size) :
    (Tree.list items).Fits size := by
  intro number reach
  cases reach with
  | within member reach => exact each _ member number reach

theorem fits_tuple {items : List Tree} (each : ∀ item ∈ items, item.Fits size) :
    (Tree.tuple items).Fits size := by
  intro number reach
  cases reach with
  | within member reach => exact each _ member number reach

theorem fits_part {tree part : Tree} (fits : tree.Fits size) (member : part ∈ tree.inside #[]) :
    part.Fits size :=
  fun number reach => fits number (.within member reach)

/-- Nothing lies within a tree but cells that are there. -/
theorem reach_lt (all : AllFit size cells) {tree : Tree} (fits : tree.Fits size) {number : Nat}
    (reach : tree.Reach cells number) : number < size := by
  induction reach with
  | here number => exact fits number (.here number)
  | @within tree part number member _ ih =>
      apply ih
      cases tree with
      | leaf data => cases member
      | list items => exact fits_part fits member
      | tuple items => exact fits_part fits member
      | mapping outer =>
          obtain ⟨entry, inside, rfl⟩ := List.mem_map.mp member
          exact (all outer).2 entry inside

theorem allFit_push (all : AllFit size cells) {entries : Entries} (fit : Fit size entries) :
    AllFit size (cells.push entries) := by
  intro number
  rw [Cells.entries, Array.getD_eq_getD_getElem?, Array.getElem?_push]
  split
  · exact fit
  · have before := all number
    rwa [Cells.entries, Array.getD_eq_getD_getElem?] at before

theorem allFit_set (all : AllFit size cells) {entries : Entries} (fit : Fit size entries)
    (place : Nat) : AllFit size (cells.setIfInBounds place entries) := by
  intro number
  rw [Cells.entries, Array.getD_eq_getD_getElem?, Array.getElem?_setIfInBounds]
  split
  · split
    · exact fit
    · exact fit_nil
  · have before := all number
    rwa [Cells.entries, Array.getD_eq_getD_getElem?] at before

theorem fit_put {key : Data} (known : key.IsKey) {value : Tree} (fits : value.Fits size)
    {entries : Entries} (fit : Fit size entries) : Fit size (entries.put key value) := by
  refine ⟨Entries.put_proper known value fit.1, fun entry member => ?_⟩
  rcases Entries.mem_put member with kept | ⟨here, _⟩
  · exact fit.2 entry kept
  · rw [here]
    exact fits

theorem allFit_put (all : AllFit size cells) {key : Data} (known : key.IsKey) {value : Tree}
    (fits : value.Fits size) (target : Nat) : AllFit size (cells.put target key value) :=
  allFit_set all (fit_put known fits (all target)) target

end

/-- A configuration refers to cells that it has, and the keys of its mappings are fit and differ from one
another. -/
structure Sound (configuration : Configuration) : Prop where
  all : AllFit configuration.cells.size configuration.cells
  inside : configuration.root < configuration.cells.size

theorem Sound.proper {configuration : Configuration} (sound : configuration.Sound) (number : Nat) :
    (configuration.cells.entries number).Proper :=
  (sound.all number).1

theorem Sound.closed {configuration : Configuration} (sound : configuration.Sound) (number : Nat)
    (reach : (Tree.mapping configuration.root).Reach configuration.cells number) :
    number < configuration.cells.size :=
  reach_lt sound.all (fits_mapping sound.inside) reach

theorem sound_empty : empty.Sound := by
  refine ⟨fun number => ?_, Nat.lt_succ_self 0⟩
  have nothing : Cells.entries #[[]] number = [] := by
    cases number with
    | zero => rfl
    | succ number => rfl
  rw [show empty.cells = #[[]] from rfl, nothing]
  exact fit_nil

/-- Further cells have come behind others, and all are sound. -/
structure Grown (cells after : Cells) : Prop where
  least : cells.size ≤ after.size
  all : AllFit after.size after

theorem ofData_dict (entries : List (Data × Data)) (cells : Cells) :
    (Tree.ofData (.dict entries)).run cells =
      (.mapping ((Tree.ofEntries entries).run cells).2.size,
        ((Tree.ofEntries entries).run cells).2.push ((Tree.ofEntries entries).run cells).1) := by
  rw [Tree.ofData]
  rfl

theorem ofEntries_cons (key value : Data) (rest : List (Data × Data)) (cells : Cells) :
    (Tree.ofEntries ((key, value) :: rest)).run cells =
      ((key, ((Tree.ofData value).run cells).1) ::
          ((Tree.ofEntries rest).run ((Tree.ofData value).run cells).2).1,
        ((Tree.ofEntries rest).run ((Tree.ofData value).run cells).2).2) := by
  rw [Tree.ofEntries]
  rfl

theorem entries_fit {entries : List (Data × Data)} (keys : ∀ entry ∈ entries, entry.1.IsKey)
    (distinct : entries.Pairwise fun one other => one.1.equals other.1 = false) {trees : Entries}
    (same : trees.map Prod.fst = entries.map Prod.fst) {size : Nat}
    (fits : ∀ entry ∈ trees, entry.2.Fits size) : Fit size trees := by
  refine ⟨⟨fun entry member => ?_, ?_⟩, fits⟩
  · have among : entry.1 ∈ entries.map Prod.fst := by
      rw [← same]
      exact List.mem_map_of_mem member
    obtain ⟨given, member, key⟩ := List.mem_map.mp among
    rw [← key]
    exact keys given member
  · have apart : (entries.map Prod.fst).Pairwise fun one other => one.equals other = false :=
      List.pairwise_map.mpr distinct
    rw [← same] at apart
    exact List.pairwise_map.mp apart

mutual

/-- The tree of proper data refers to cells that it was given. -/
theorem ofData_fit (data : Data) (proper : data.Proper) (cells : Cells)
    (all : AllFit cells.size cells) :
    Grown cells ((Tree.ofData data).run cells).2 ∧
      ((Tree.ofData data).run cells).1.Fits ((Tree.ofData data).run cells).2.size := by
  cases data with
  | dict entries =>
      cases proper with
      | dict keys distinct values =>
          obtain ⟨grown, same, fits⟩ := ofEntries_fit entries values cells all
          have fit := entries_fit keys distinct same fits
          rw [ofData_dict]
          refine ⟨⟨?_, ?_⟩, ?_⟩
          · have least := grown.least
            rw [Array.size_push]
            omega
          · rw [Array.size_push]
            exact allFit_push (fun number => fit_mono (Nat.le_succ _) (grown.all number))
              (fit_mono (Nat.le_succ _) fit)
          · rw [Array.size_push]
            exact fits_mapping (Nat.lt_succ_self _)
      | other simple => exact ((simple entries).1 rfl).elim
  | _ => exact ⟨⟨le_rfl, all⟩, fits_leaf _⟩

theorem ofEntries_fit (entries : List (Data × Data)) (values : ∀ entry ∈ entries, entry.2.Proper)
    (cells : Cells) (all : AllFit cells.size cells) :
    Grown cells ((Tree.ofEntries entries).run cells).2 ∧
      ((Tree.ofEntries entries).run cells).1.map Prod.fst = entries.map Prod.fst ∧
      ∀ entry ∈ ((Tree.ofEntries entries).run cells).1,
        entry.2.Fits ((Tree.ofEntries entries).run cells).2.size := by
  cases entries with
  | nil => exact ⟨⟨le_rfl, all⟩, rfl, nofun⟩
  | cons entry rest =>
      obtain ⟨key, value⟩ := entry
      obtain ⟨value_proper, values⟩ := List.forall_mem_cons.mp values
      obtain ⟨first, fits⟩ := ofData_fit value value_proper cells all
      obtain ⟨others, same, rest_fit⟩ := ofEntries_fit rest values _ first.all
      rw [ofEntries_cons]
      refine ⟨⟨first.least.trans others.least, others.all⟩, by rw [List.map_cons, same]; rfl, ?_⟩
      exact List.forall_mem_cons.mpr ⟨fits_mono others.least fits, rest_fit⟩

end

theorem ofEntries_run (entries : List (Data × Data)) :
    ofEntries entries = ⟨((Tree.ofEntries entries).run #[]).2.size,
      ((Tree.ofEntries entries).run #[]).2.push ((Tree.ofEntries entries).run #[]).1⟩ :=
  rfl

theorem sound_ofEntries {entries : List (Data × Data)} (keys : ∀ entry ∈ entries, entry.1.IsKey)
    (distinct : entries.Pairwise fun one other => one.1.equals other.1 = false)
    (values : ∀ entry ∈ entries, entry.2.Proper) : (ofEntries entries).Sound := by
  have none_yet : AllFit (#[] : Cells).size #[] := by
    intro number
    rw [entries_outside (Nat.zero_le _)]
    exact fit_nil
  obtain ⟨grown, same, fits⟩ := ofEntries_fit entries values #[] none_yet
  have fit := entries_fit keys distinct same fits
  rw [ofEntries_run]
  refine ⟨?_, ?_⟩
  · rw [Array.size_push]
    exact allFit_push (fun number => fit_mono (Nat.le_succ _) (grown.all number))
      (fit_mono (Nat.le_succ _) fit)
  · rw [Array.size_push]
    exact Nat.lt_succ_self _

theorem assign_last (value : Data) (name : Text) (target : Nat) (cells : Cells) :
    assign value [name] target cells =
      Cells.put ((Tree.ofData value).run cells).2 target (.text name)
        ((Tree.ofData value).run cells).1 :=
  rfl

/-- A value is put at a path of names. -/
theorem assign_fit {value : Data} (proper : value.Proper) (path : List Text) (target : Nat)
    (cells : Cells) (all : AllFit cells.size cells) : Grown cells (assign value path target cells) := by
  induction path generalizing target cells with
  | nil => exact ⟨le_rfl, all⟩
  | cons name path ih =>
      cases path with
      | nil =>
          obtain ⟨grown, fits⟩ := ofData_fit value proper cells all
          rw [assign_last]
          refine ⟨?_, ?_⟩
          · rw [size_put]
            exact grown.least
          · rw [size_put]
            have known : (Data.text name).IsKey := rfl
            exact allFit_put grown.all known fits target
      | cons second path =>
          simp only [assign]
          split
          · exact ih _ cells all
          · have pushed : AllFit (cells.push []).size (cells.push []) := by
              rw [Array.size_push]
              exact allFit_push (fun number => fit_mono (Nat.le_succ _) (all number)) fit_nil
            have known : (Data.text name).IsKey := rfl
            have opened : AllFit (Cells.put (cells.push []) target (.text name) (.mapping cells.size)).size
                (Cells.put (cells.push []) target (.text name) (.mapping cells.size)) := by
              rw [size_put]
              refine allFit_put pushed known (fits_mapping ?_) target
              rw [Array.size_push]
              omega
            obtain ⟨least, last⟩ := ih cells.size _ opened
            refine ⟨le_trans ?_ least, last⟩
            rw [size_put, Array.size_push]
            omega

theorem sound_assigned {configuration : Configuration} (sound : configuration.Sound) {value : Data}
    (proper : value.Proper) (path : List Text) : (configuration.assigned path value).Sound := by
  have grown := assign_fit proper path configuration.root configuration.cells sound.all
  exact ⟨grown.all, lt_of_lt_of_le sound.inside grown.least⟩


end Configuration

end PageTemplates
