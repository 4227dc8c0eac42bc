import Mathlib.Data.Finset.Card
import Mathlib.Order.Interval.Finset.Nat
import PageTemplates.Proofs.Configuration.Layers

/-!
What is read off a configuration as data. The bound on how many cells lie within one another does not
matter: in what shows data no cell lies within itself, so there are not more of them than cells.
-/

namespace PageTemplates.Configuration

namespace Tree

section

variable {cells : Cells}

theorem shows_unique {tree : Tree} {one other : Data} (first : tree.Shows cells one)
    (second : tree.Shows cells other) : one = other := by
  induction first generalizing other with
  | leaf data =>
      cases second
      rfl
  | @list items data length _ ih =>
      cases second with
      | @list _ others also each =>
          congr 1
          refine List.ext_getElem (length.symm.trans also) fun place here there => ?_
          have inside : place < items.length := by rw [length]; exact here
          exact ih place items[place] _ (List.getElem?_eq_getElem inside)
            (List.getElem?_eq_getElem here)
            (each place _ _ (List.getElem?_eq_getElem inside) (List.getElem?_eq_getElem there))
  | @tuple items data length _ ih =>
      cases second with
      | @tuple _ others also each =>
          congr 1
          refine List.ext_getElem (length.symm.trans also) fun place here there => ?_
          have inside : place < items.length := by rw [length]; exact here
          exact ih place items[place] _ (List.getElem?_eq_getElem inside)
            (List.getElem?_eq_getElem here)
            (each place _ _ (List.getElem?_eq_getElem inside) (List.getElem?_eq_getElem there))
  | @mapping number data keys _ ih =>
      cases second with
      | @mapping _ others also each =>
          have length : (cells.entries number).length = data.length := by
            simpa using congrArg List.length keys
          have also_length : (cells.entries number).length = others.length := by
            simpa using congrArg List.length also
          congr 1
          refine List.ext_getElem (length.symm.trans also_length) fun place here there => ?_
          have inside : place < (cells.entries number).length := by rw [length]; exact here
          refine Prod.ext ?_ ?_
          · have same : data.map Prod.fst = others.map Prod.fst := keys.symm.trans also
            have at_place := congrArg (fun list => list[place]?) same
            simpa [here, there] using at_place
          · exact ih place _ _ (List.getElem?_eq_getElem inside) (List.getElem?_eq_getElem here)
              (each place _ _ (List.getElem?_eq_getElem inside) (List.getElem?_eq_getElem there))

/-- What lies in a tree shows less than the tree does. -/
theorem shows_inside {tree part : Tree} {value : Data} (shows : tree.Shows cells value)
    (member : part ∈ tree.inside cells) :
    ∃ inner, part.Shows cells inner ∧ sizeOf inner < sizeOf value := by
  cases shows with
  | leaf => cases member
  | @list items data length each =>
      obtain ⟨place, inside, rfl⟩ := List.mem_iff_getElem.mp member
      have within : place < data.length := by rw [← length]; exact inside
      refine ⟨data[place], each place _ _ (List.getElem?_eq_getElem inside)
        (List.getElem?_eq_getElem within), ?_⟩
      have smaller := List.sizeOf_lt_of_mem (List.getElem_mem within)
      simp only [Data.list.sizeOf_spec]
      omega
  | @tuple items data length each =>
      obtain ⟨place, inside, rfl⟩ := List.mem_iff_getElem.mp member
      have within : place < data.length := by rw [← length]; exact inside
      refine ⟨data[place], each place _ _ (List.getElem?_eq_getElem inside)
        (List.getElem?_eq_getElem within), ?_⟩
      have smaller := List.sizeOf_lt_of_mem (List.getElem_mem within)
      simp only [Data.tuple.sizeOf_spec]
      omega
  | @mapping number data keys each =>
      obtain ⟨entry, among, rfl⟩ := List.mem_map.mp member
      obtain ⟨place, inside, rfl⟩ := List.mem_iff_getElem.mp among
      have length : (cells.entries number).length = data.length := by
        simpa using congrArg List.length keys
      have within : place < data.length := by rw [← length]; exact inside
      refine ⟨data[place].2, each place _ _ (List.getElem?_eq_getElem inside)
        (List.getElem?_eq_getElem within), ?_⟩
      have smaller := List.sizeOf_lt_of_mem (List.getElem_mem within)
      have pair : sizeOf data[place].2 < sizeOf data[place] := by
        cases data[place]
        simp
      simp only [Data.dict.sizeOf_spec]
      omega

theorem shows_reach {tree : Tree} {value : Data} {number : Nat} (shows : tree.Shows cells value)
    (reach : tree.Reach cells number) :
    ∃ inner, (mapping number).Shows cells inner ∧ sizeOf inner ≤ sizeOf value := by
  induction reach generalizing value with
  | here number => exact ⟨value, shows, le_rfl⟩
  | within member _ ih =>
      obtain ⟨part, part_shows, smaller⟩ := shows_inside shows member
      obtain ⟨inner, inner_shows, least⟩ := ih part_shows
      exact ⟨inner, inner_shows, by omega⟩

/-- A mapping that shows data does not lie within itself. -/
theorem not_reach_itself {number : Nat} {value : Data} (shows : (mapping number).Shows cells value)
    {part : Tree} (member : part ∈ (mapping number).inside cells) : ¬part.Reach cells number := by
  intro reach
  obtain ⟨inner, part_shows, smaller⟩ := shows_inside shows member
  obtain ⟨again, again_shows, least⟩ := shows_reach part_shows reach
  have same := shows_unique shows again_shows
  rw [← same] at least
  omega

theorem itemsData_eq (cell : Nat → Data) (items : List Tree) :
    itemsData cell items = items.map (toData cell) := by
  induction items with
  | nil => rfl
  | cons item items ih => rw [itemsData, List.map_cons, ih]

/-- The data of a tree with enough cells to go: `around` are the cells that lie around it. -/
theorem toData_of_shows {size : Nat} {tree : Tree} {value : Data} (shows : tree.Shows cells value)
    (bound : Nat) (around : Finset Nat) (inside : around ⊆ Finset.range size)
    (closed : ∀ number, tree.Reach cells number → number < size)
    (apart : ∀ number, tree.Reach cells number → number ∉ around)
    (enough : size < bound + around.card) : tree.toData (cellData cells bound) = value := by
  induction shows generalizing bound around with
  | leaf data => rfl
  | @list items data length each ih =>
      rw [toData, itemsData_eq]
      congr 1
      refine List.ext_getElem (by rw [List.length_map, length]) fun place here there => ?_
      have within : place < items.length := by rw [length]; exact there
      have member : items[place] ∈ (list items).inside cells := List.getElem_mem within
      rw [List.getElem_map]
      exact ih place _ _ (List.getElem?_eq_getElem within) (List.getElem?_eq_getElem there) bound
        around inside (fun number reach => closed number (.within member reach))
        (fun number reach => apart number (.within member reach)) enough
  | @tuple items data length each ih =>
      rw [toData, itemsData_eq]
      congr 1
      refine List.ext_getElem (by rw [List.length_map, length]) fun place here there => ?_
      have within : place < items.length := by rw [length]; exact there
      have member : items[place] ∈ (tuple items).inside cells := List.getElem_mem within
      rw [List.getElem_map]
      exact ih place _ _ (List.getElem?_eq_getElem within) (List.getElem?_eq_getElem there) bound
        around inside (fun number reach => closed number (.within member reach))
        (fun number reach => apart number (.within member reach)) enough
  | @mapping number data keys each ih =>
      have shows : (mapping number).Shows cells (.dict data) := .mapping keys each
      have here := closed number (.here number)
      have outside := apart number (.here number)
      have further : insert number around ⊆ Finset.range size :=
        Finset.insert_subset (Finset.mem_range.mpr here) inside
      have most := Finset.card_le_card further
      rw [Finset.card_insert_of_notMem outside, Finset.card_range] at most
      have length : (cells.entries number).length = data.length := by
        simpa using congrArg List.length keys
      cases bound with
      | zero => omega
      | succ bound =>
          rw [toData, cellData]
          congr 1
          refine List.ext_getElem (by rw [List.length_map, length]) fun place first second => ?_
          have within : place < (cells.entries number).length := by rw [length]; exact second
          have entry := List.getElem_mem within
          have member : (cells.entries number)[place].2 ∈ (mapping number).inside cells :=
            List.mem_map_of_mem entry
          rw [List.getElem_map]
          refine Prod.ext ?_ ?_
          · have at_place := congrArg (fun list => list[place]?) keys
            simpa [within, second] using at_place
          · refine ih place _ _ (List.getElem?_eq_getElem within) (List.getElem?_eq_getElem second)
              bound (insert number around) further
              (fun inner reach => closed inner (.within member reach)) (fun inner reach => ?_) ?_
            · rw [Finset.mem_insert, not_or]
              refine ⟨?_, apart inner (.within member reach)⟩
              rintro rfl
              exact not_reach_itself shows member reach
            · rw [Finset.card_insert_of_notMem outside]
              omega

end

end Tree

/-- The data that a setting shows is what is read off it. -/
theorem get_of_shows {configuration : Configuration} (sound : configuration.Sound) {path : Text}
    {found : Tree} (leads : configuration.at? ((Text.splitAll "." path).map .text) = some found)
    {value : Data} (shows : found.Shows configuration.cells value) :
    configuration.get? path = some value := by
  have read : configuration.dataOf found = value := by
    refine Tree.toData_of_shows shows _ ∅ (Finset.empty_subset _)
      (fun number reach => sound.closed number (Tree.reach_of_at leads reach))
      (fun number _ => Finset.notMem_empty number) ?_
    rw [Finset.card_empty]
    omega
  rw [get?, leads, Option.map_some, read]

/-- What a configuration has at a path of names is what is read off it. -/
theorem get_of_has {configuration : Configuration} (sound : configuration.Sound) {path : Text}
    {value : Data} (has : configuration.Has ((Text.splitAll "." path).map .text) value) :
    configuration.get? path = some value := by
  obtain ⟨found, leads, _, shows⟩ := has
  exact get_of_shows sound leads shows

end PageTemplates.Configuration
