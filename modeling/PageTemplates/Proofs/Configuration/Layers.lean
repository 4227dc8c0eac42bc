import PageTemplates.Proofs.Configuration.Merge
import PageTemplates.Proofs.Results

/-!
Layers that are put on one another. A layer is numbered behind the configuration that it is merged into,
and says the same there. What all layers come to is told by the layers alone, as long as no mapping that
merging goes into stands in several places.
-/

namespace PageTemplates.Configuration

namespace Tree

theorem shiftedItems_eq (count : Nat) (items : List Tree) :
    shiftedItems count items = items.map (shifted count) := by
  induction items with
  | nil => rfl
  | cons item items ih => rw [shiftedItems, List.map_cons, ih]

end Tree

theorem get_shifted (count : Nat) (key : Data) (entries : Entries) :
    (entries.shifted count).get? key = (entries.get? key).map (Tree.shifted count) := by
  induction entries with
  | nil => rfl
  | cons entry rest ih =>
      rw [Entries.shifted] at ih ⊢
      rw [List.map_cons, Entries.get_cons, ih, Entries.get_cons]
      split <;> rfl

theorem shifted_proper (count : Nat) {entries : Entries} (proper : entries.Proper) :
    (entries.shifted count).Proper := by
  constructor
  · intro entry member
    obtain ⟨before, inside, rfl⟩ := List.mem_map.mp member
    exact proper.keys before inside
  · exact List.pairwise_map.mpr proper.distinct

/-- The cells of a layer stand behind others. -/
def Behind (cells others : Cells) (count : Nat) : Prop :=
  ∀ number, others.entries (number + count) = (cells.entries number).shifted count

namespace Tree

section

variable {cells others : Cells} {count : Nat}

theorem inside_shifted (behind : Behind cells others count) (tree : Tree) :
    (tree.shifted count).inside others = (tree.inside cells).map (shifted count) := by
  cases tree with
  | leaf data => rfl
  | list items => rw [shifted, inside, inside, shiftedItems_eq]
  | tuple items => rw [shifted, inside, inside, shiftedItems_eq]
  | mapping number =>
      rw [shifted, inside, inside, behind number, Entries.shifted, List.map_map, List.map_map]
      rfl

theorem at_shifted (behind : Behind cells others count) (path : List Data) (tree : Tree) :
    (tree.shifted count).at? others path = (tree.at? cells path).map (shifted count) := by
  induction path generalizing tree with
  | nil => rfl
  | cons key path ih =>
      cases tree with
      | mapping number =>
          rw [shifted, at_mapping, at_mapping, behind number, get_shifted]
          cases (cells.entries number).get? key with
          | none => rfl
          | some value => exact ih value
      | _ => rfl

theorem reach_shifted (behind : Behind cells others count) {tree : Tree} {number : Nat}
    (reach : (tree.shifted count).Reach others number) :
    ∃ before, number = before + count ∧ tree.Reach cells before := by
  generalize moved : tree.shifted count = start at reach
  induction reach generalizing tree with
  | here number =>
      cases tree with
      | mapping before =>
          cases moved
          exact ⟨before, rfl, .here before⟩
      | _ => cases moved
  | within inside _ ih =>
      subst moved
      rw [inside_shifted behind] at inside
      obtain ⟨part, member, same⟩ := List.mem_map.mp inside
      obtain ⟨before, rfl, reach⟩ := ih same
      exact ⟨before, rfl, .within member reach⟩

theorem fits_shifted {size : Nat} {tree : Tree} (fits : tree.Fits size) (count : Nat) :
    (tree.shifted count).Fits (size + count) := by
  intro number reach
  have behind : Behind #[] #[] count := by
    intro number
    rw [entries_outside (Nat.zero_le _), entries_outside (Nat.zero_le _)]
    rfl
  obtain ⟨before, rfl, within⟩ := reach_shifted behind reach
  exact Nat.add_lt_add_right (fits before within) count

theorem isMapping_shifted (tree : Tree) : (tree.shifted count).isMapping = tree.isMapping := by
  cases tree <;> rfl

theorem shows_shifted (behind : Behind cells others count) {tree : Tree} {value : Data}
    (shows : tree.Shows cells value) : (tree.shifted count).Shows others value := by
  induction shows with
  | leaf data => exact .leaf data
  | list length _ ih =>
      rw [shifted, shiftedItems_eq]
      refine .list (by rw [List.length_map, length]) fun place item value here there => ?_
      rw [List.getElem?_map, Option.map_eq_some_iff] at here
      obtain ⟨before, here, rfl⟩ := here
      exact ih place before value here there
  | tuple length _ ih =>
      rw [shifted, shiftedItems_eq]
      refine .tuple (by rw [List.length_map, length]) fun place item value here there => ?_
      rw [List.getElem?_map, Option.map_eq_some_iff] at here
      obtain ⟨before, here, rfl⟩ := here
      exact ih place before value here there
  | @mapping number data keys _ ih =>
      have same := behind number
      refine .mapping ?_ fun place entry pair here there => ?_
      · rw [same, Entries.shifted, List.map_map, ← keys]
        rfl
      · rw [same, Entries.shifted, List.getElem?_map, Option.map_eq_some_iff] at here
        obtain ⟨before, here, rfl⟩ := here
        exact ih place before pair here there

theorem shows_of_shifted (behind : Behind cells others count) {tree : Tree} {value : Data}
    (shows : (tree.shifted count).Shows others value) : tree.Shows cells value := by
  generalize moved : tree.shifted count = start at shows
  induction shows generalizing tree with
  | leaf data =>
      cases tree with
      | leaf other =>
          cases moved
          exact .leaf data
      | _ => cases moved
  | @list items data length _ ih =>
      cases tree with
      | list before =>
          rw [shifted, shiftedItems_eq] at moved
          cases moved
          refine .list (by rw [← length, List.length_map]) fun place item value here there => ?_
          exact ih place (item.shifted count) value (by rw [List.getElem?_map, here]; rfl) there rfl
      | _ => cases moved
  | @tuple items data length _ ih =>
      cases tree with
      | tuple before =>
          rw [shifted, shiftedItems_eq] at moved
          cases moved
          refine .tuple (by rw [← length, List.length_map]) fun place item value here there => ?_
          exact ih place (item.shifted count) value (by rw [List.getElem?_map, here]; rfl) there rfl
      | _ => cases moved
  | @mapping number data keys _ ih =>
      cases tree with
      | mapping before =>
          cases moved
          have same := behind before
          refine .mapping ?_ fun place entry pair here there => ?_
          · rw [← keys, same, Entries.shifted, List.map_map]
            rfl
          · refine ih place (entry.1, entry.2.shifted count) pair ?_ there rfl
            rw [same, Entries.shifted, List.getElem?_map, here]
            rfl
      | _ => cases moved

theorem has_shifted (behind : Behind cells others count) (path : List Data) (value : Data)
    (tree : Tree) : (tree.shifted count).Has others path value ↔ tree.Has cells path value := by
  unfold Has
  rw [at_shifted behind]
  constructor
  · rintro ⟨found, leads, other, shows⟩
    obtain ⟨before, original, rfl⟩ := Option.map_eq_some_iff.mp leads
    rw [isMapping_shifted] at other
    exact ⟨before, original, other, shows_of_shifted behind shows⟩
  · rintro ⟨found, leads, other, shows⟩
    refine ⟨found.shifted count, by rw [leads]; rfl, ?_, shows_shifted behind shows⟩
    rwa [isMapping_shifted]

theorem silent_shifted (behind : Behind cells others count) (path : List Data) (tree : Tree) :
    (tree.shifted count).Silent others path ↔ tree.Silent cells path := by
  simp only [silent_iff, at_shifted behind, Option.map_eq_none_iff, Option.map_eq_some_iff,
    forall_exists_index, and_imp]
  refine and_congr_right fun _ => ⟨fun mappings before found opening leads => ?_,
    fun mappings before found opening inner leads same => ?_⟩
  · rw [← @isMapping_shifted count]
    exact mappings before _ opening found leads rfl
  · rw [← same, isMapping_shifted]
    exact mappings before inner opening leads

end

end Tree

theorem fit_shifted {size : Nat} (count : Nat) {entries : Entries} (fit : Fit size entries) :
    Fit (size + count) (entries.shifted count) := by
  refine ⟨shifted_proper count fit.1, fun entry member => ?_⟩
  obtain ⟨before, inside, rfl⟩ := List.mem_map.mp member
  exact Tree.fits_shifted (fit.2 before inside) count

theorem shallow_shifted {cells others : Cells} {count bound number : Nat}
    (behind : Behind cells others count) (shallow : Shallow cells bound number) :
    Shallow others bound (number + count) := by
  induction bound generalizing number with
  | zero => exact shallow
  | succ bound ih =>
      intro key inner member
      rw [behind number] at member
      obtain ⟨⟨other, tree⟩, original, same⟩ := List.mem_map.mp member
      cases tree with
      | mapping before =>
          cases same
          exact ih (shallow key before original)
      | _ => cases same

/-- A layer has a value, which is no mapping, at a path. -/
def Has (layer : Configuration) (path : List Data) (value : Data) : Prop :=
  (Tree.mapping layer.root).Has layer.cells path value

/-- A layer has something at a path, or something that is no mapping on the way to it. -/
def Touches (layer : Configuration) (path : List Data) : Prop :=
  layer.at? path ≠ none ∨ ∃ before found, before <+: path ∧ before ≠ path ∧
    layer.at? before = some found ∧ found.isMapping = false

/-- Each mapping of a configuration that stands where a layer has a mapping as well stands there only. -/
def Untangled (so layer : Configuration) : Prop :=
  ∀ path number other, so.at? path = some (.mapping number) → layer.at? path = some (.mapping other) →
    ∀ one place, (Tree.mapping so.root).part? so.cells one = some (.mapping number) →
      (Tree.mapping so.root).part? so.cells place = some (.mapping number) → one = place

theorem not_touches (layer : Configuration) (path : List Data) :
    ¬layer.Touches path ↔ (Tree.mapping layer.root).Silent layer.cells path := by
  rw [Tree.silent_iff, Touches, not_or, not_not]
  refine and_congr_right fun nowhere => ⟨fun clear before found opening leads => ?_,
    fun mappings => ?_⟩
  · cases kind : found.isMapping with
    | true => rfl
    | false =>
        refine (clear ⟨before, found, opening, fun same => ?_, leads, kind⟩).elim
        rw [same] at leads
        exact nomatch nowhere.symm.trans leads
  · rintro ⟨before, found, opening, _, leads, kind⟩
    rw [mappings before found opening leads] at kind
    cases kind

/-- Where merging meets a mapping, both sides have one at the same path. -/
theorem paths_of_met {cells : Cells} {source target number : Nat}
    (met : Met cells (cells.entries source) target number) :
    ∃ path other, (Tree.mapping target).at? cells path = some (.mapping number) ∧
      (Tree.mapping source).at? cells path = some (.mapping other) := by
  generalize given : cells.entries source = rest at met
  induction met generalizing source with
  | here rest target => exact ⟨[], source, rfl, rfl⟩
  | @deeper rest target new old number key found known _ ih =>
      obtain ⟨path, other, leads, also⟩ := ih rfl
      subst given
      refine ⟨key :: path, other, ?_, ?_⟩
      · rw [Tree.at_mapping, known]
        exact leads
      · rw [Tree.at_mapping, found]
        exact also

section

variable {so layer : Configuration}

theorem beside_before {number : Nat} (inside : number < so.cells.size) :
    (so.beside layer).entries number = so.cells.entries number := by
  rw [beside, Cells.entries, Cells.entries, Array.getD_eq_getD_getElem?,
    Array.getD_eq_getD_getElem?, Array.getElem?_append_left inside]

theorem beside_behind (so layer : Configuration) :
    Behind layer.cells (so.beside layer) so.cells.size := by
  intro number
  rw [beside, Cells.entries, Cells.entries, Array.getD_eq_getD_getElem?, Array.getD_eq_getD_getElem?,
    Array.getElem?_append_right (by omega), Nat.add_sub_cancel, Array.getElem?_map]
  cases layer.cells[number]? <;> rfl

theorem size_beside : (so.beside layer).size = so.cells.size + layer.cells.size := by
  simp [beside]

theorem beside_agree (sound : so.Sound) : (Tree.mapping so.root).Agree so.cells (so.beside layer) :=
  fun number reach => beside_before (sound.closed number reach)

theorem beside_fit (sound : so.Sound) (other : layer.Sound) :
    AllFit (so.beside layer).size (so.beside layer) := by
  intro number
  rw [size_beside]
  rcases Nat.lt_or_ge number so.cells.size with inside | outside
  · rw [beside_before inside]
    exact fit_mono (Nat.le_add_right _ _) (sound.all number)
  · obtain ⟨before, rfl⟩ := Nat.exists_eq_add_of_le' outside
    rw [beside_behind so layer before]
    have fit := fit_shifted so.cells.size (other.all before)
    rwa [Nat.add_comm] at fit

/-- A layer can be merged into a configuration: the cells of the two are apart. -/
theorem ready_beside (sound : so.Sound) (other : layer.Sound) (untangled : so.Untangled layer) :
    Ready (so.beside layer) (layer.root + so.cells.size)
      ((so.beside layer).entries (layer.root + so.cells.size)) so.root := by
  have agree : (Tree.mapping so.root).Agree so.cells (so.beside layer) := beside_agree sound
  have behind := beside_behind so layer
  have within : ∀ number, Met (so.beside layer)
      ((so.beside layer).entries (layer.root + so.cells.size)) so.root number →
      number < so.cells.size := by
    intro number met
    obtain ⟨place, stands⟩ := place_of_met met
    have reach := Tree.reach_of_place stands (.here number)
    exact sound.closed number ((Tree.agree_reach agree).mp reach)
  have proper : ∀ number, ((so.beside layer).entries number).Proper :=
    fun number => (beside_fit sound other number).1
  refine ⟨proper, proper _, fun entry member => member,
    fun number met => ?_, fun number met reach => ?_, fun number met one place stands also => ?_⟩
  · have inside := within number met
    rw [size_beside]
    omega
  · obtain ⟨before, rfl, _⟩ := @Tree.reach_shifted _ _ _ behind (.mapping layer.root) _ reach
    have inside := within _ met
    omega
  · obtain ⟨path, also_number, leads, shifted⟩ := paths_of_met met
    have there : (Tree.mapping (layer.root + so.cells.size)).at? (so.beside layer) path =
        (layer.at? path).map (Tree.shifted so.cells.size) :=
      Tree.at_shifted behind path (.mapping layer.root)
    rw [there, Option.map_eq_some_iff] at shifted
    obtain ⟨tree, layered, same⟩ := shifted
    rw [Tree.agree_at agree] at leads
    rw [Tree.agree_places agree] at stands also
    cases tree with
    | mapping inner => exact untangled path number inner leads layered one place stands also
    | _ => cases same

theorem sound_merged {next : Configuration} (sound : so.Sound) (other : layer.Sound)
    (merged : so.merged layer = .ok next) : next.Sound := by
  obtain ⟨cells, done, rfl⟩ := Results.map_ok.mp merged
  obtain ⟨all, same⟩ := mergeCell_fit _ _ _ _ (beside_fit sound other) done
  refine ⟨?_, ?_⟩
  · change AllFit cells.size cells
    rw [same]
    exact all
  · change so.root < cells.size
    rw [same, size_beside]
    exact Nat.lt_add_right _ sound.inside

/-- What merging a layer into a configuration leads to. -/
theorem merged_outcome (sound : so.Sound) (other : layer.Sound) (untangled : so.Untangled layer) :
    (∃ next, so.merged layer = .ok next ∧ ∀ path value, next.Has path value ↔
        layer.Has path value ∨ (so.Has path value ∧ ¬layer.Touches path)) ∨
      (so.merged layer = .error .tooDeep ∧ ¬Shallow layer.cells depthLimit layer.root) := by
  have behind := beside_behind so layer
  have agree : (Tree.mapping so.root).Agree so.cells (so.beside layer) := beside_agree sound
  rcases mergeCell_outcome depthLimit (ready_beside sound other untangled) with
    ⟨after, done, merged⟩ | ⟨failed, deep⟩
  · refine .inl ⟨⟨so.root, after⟩, by rw [Configuration.merged, done]; rfl, fun path value => ?_⟩
    rw [not_touches]
    cases path with
    | nil =>
        have nowhere : ∀ configuration : Configuration, ¬configuration.Has [] value :=
          fun configuration => Tree.not_has_here
        simp [nowhere]
    | cons key path =>
        have layered := Tree.has_shifted behind (key :: path) value (.mapping layer.root)
        have silent := Tree.silent_shifted behind (key :: path) (.mapping layer.root)
        have kept := Tree.agree_has agree (key :: path) value
        rw [Tree.shifted, Tree.has_mapping] at layered
        rw [Tree.shifted, Tree.Silent] at silent
        rw [Has, merged.has, layered, kept, silent]
        rfl
  · refine .inr ⟨by rw [Configuration.merged, failed]; rfl, fun shallow => deep ?_⟩
    exact shallow_shifted behind shallow

end

end PageTemplates.Configuration
