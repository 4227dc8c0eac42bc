import PageTemplates.Proofs.Configuration.Alike

/-!
What giving a setting a value comes to. The path leaves the mappings that are there at one of them, and there
one key gets a value: what the rest of the path and the value are made of. All other mappings stay as they
are, so a change shows wherever that one mapping stands.
-/

namespace PageTemplates.Configuration

/-- Names as keys. -/
def keysOf (path : List Text) : List Data := path.map .text

/-- The data that has a value at a path of names, and nothing else. -/
def nested : List Text → Data → Data
  | [], value => value
  | name :: path, value => .dict [(.text name, nested path value)]

section Laid

variable {cells after later : Cells}

/-- Later cells have those from a number on as they were. -/
def HasFrom (low : Nat) (cells later : Cells) : Prop :=
  ∀ number, low ≤ number → number < cells.size → later.entries number = cells.entries number

/-- A tree that is made of data in cells of its own, behind those that were there. -/
structure Laid (cells after : Cells) (tree : Tree) (data : Data) : Prop where
  least : cells.size ≤ after.size
  frame : ∀ number < cells.size, after.entries number = cells.entries number
  made : ∀ later, HasFrom cells.size after later → tree.Made later data
  fresh : ∀ later, HasFrom cells.size after later → ∀ number, tree.Reach later number →
    cells.size ≤ number ∧ number < after.size

/-- Entries that are made of those of a dictionary in cells of their own. -/
structure LaidEntries (cells after : Cells) (trees : Entries) (data : List (Data × Data)) : Prop where
  least : cells.size ≤ after.size
  frame : ∀ number < cells.size, after.entries number = cells.entries number
  keys : trees.map Prod.fst = data.map Prod.fst
  made : ∀ later, HasFrom cells.size after later → ∀ (place : Nat) entry pair,
    trees[place]? = some entry → data[place]? = some pair → entry.2.Made later pair.2
  fresh : ∀ later, HasFrom cells.size after later → ∀ entry ∈ trees, ∀ number,
    entry.2.Reach later number → cells.size ≤ number ∧ number < after.size

theorem entries_push {number : Nat} (inside : number < cells.size) (entries : Entries) :
    Cells.entries (cells.push entries) number = cells.entries number := by
  simp [Cells.entries, Array.getD_eq_getD_getElem?, Array.getElem?_push, inside.ne]

theorem entries_pushed (cells : Cells) (entries : Entries) :
    Cells.entries (cells.push entries) cells.size = entries := by
  simp [Cells.entries, Array.getD_eq_getD_getElem?]

/-- The mapping of a dictionary stands in the cell behind those of what is inside it. -/
theorem laid_dict {trees : Entries} {data : List (Data × Data)}
    (laid : LaidEntries cells after trees data) :
    Laid cells (after.push trees) (.mapping after.size) (.dict data) := by
  have least := laid.least
  have inner : ∀ later, HasFrom cells.size (after.push trees) later →
      later.entries after.size = trees ∧ HasFrom cells.size after later := by
    intro later same
    rw [HasFrom, Array.size_push] at same
    refine ⟨?_, fun number low high => ?_⟩
    · rw [same after.size least (Nat.lt_succ_self _), entries_pushed]
    · rw [same number low (Nat.lt_succ_of_lt high), entries_push high]
  refine ⟨?_, fun number inside => ?_, fun later same => ?_, fun later same number reach => ?_⟩
  · rw [Array.size_push]
    omega
  · rw [entries_push (by omega), laid.frame number inside]
  · obtain ⟨here, below⟩ := inner later same
    refine .mapping (by rw [here]; exact laid.keys) fun place entry pair first second => ?_
    rw [here] at first
    exact laid.made later below place entry pair first second
  · obtain ⟨here, below⟩ := inner later same
    rw [Array.size_push]
    cases reach with
    | here => exact ⟨least, Nat.lt_succ_self _⟩
    | within inside reach =>
        rw [Tree.inside, here] at inside
        obtain ⟨entry, member, rfl⟩ := List.mem_map.mp inside
        obtain ⟨low, high⟩ := laid.fresh later below entry member number reach
        exact ⟨low, Nat.lt_succ_of_lt high⟩

/-- Entries are laid one behind the other. -/
theorem laid_cons {last : Cells} {tree : Tree} {value : Data} {trees : Entries}
    {data : List (Data × Data)} (key : Data) (first : Laid cells after tree value)
    (rest : LaidEntries after last trees data) :
    LaidEntries cells last ((key, tree) :: trees) ((key, value) :: data) := by
  have least := first.least
  have most := rest.least
  have front : ∀ later, HasFrom cells.size last later → HasFrom cells.size after later :=
    fun later same number low high =>
      (same number low (by omega)).trans (rest.frame number high)
  have behind : ∀ later, HasFrom cells.size last later → HasFrom after.size last later :=
    fun later same number low high => same number (by omega) high
  refine ⟨by omega, fun number inside => ?_, ?_, fun later same place entry pair here there => ?_,
    fun later same entry member number reach => ?_⟩
  · rw [rest.frame number (by omega), first.frame number inside]
  · rw [List.map_cons, List.map_cons, rest.keys]
  · cases place with
    | zero =>
        cases here
        cases there
        exact first.made later (front later same)
    | succ place => exact rest.made later (behind later same) place entry pair here there
  · rcases List.mem_cons.mp member with rfl | among
    · obtain ⟨low, high⟩ := first.fresh later (front later same) number reach
      exact ⟨low, by omega⟩
    · obtain ⟨low, high⟩ := rest.fresh later (behind later same) entry among number reach
      exact ⟨by omega, high⟩

mutual

theorem ofData_laid (data : Data) (cells : Cells) :
    Laid cells ((Tree.ofData data).run cells).2 ((Tree.ofData data).run cells).1 data := by
  cases data with
  | dict entries =>
      rw [ofData_dict]
      exact laid_dict (ofEntries_laid entries cells)
  | _ =>
      refine ⟨le_rfl, fun _ _ => rfl, fun later _ => .leaf nofun, fun later _ number reach => ?_⟩
      cases reach with
      | within inside _ => cases inside

theorem ofEntries_laid (entries : List (Data × Data)) (cells : Cells) :
    LaidEntries cells ((Tree.ofEntries entries).run cells).2 ((Tree.ofEntries entries).run cells).1
      entries := by
  cases entries with
  | nil =>
      exact ⟨le_rfl, fun _ _ => rfl, rfl, fun later _ place entry pair here => (nomatch here),
        fun later _ entry member => (nomatch member)⟩
  | cons entry rest =>
      obtain ⟨key, value⟩ := entry
      rw [ofEntries_cons]
      exact laid_cons key (ofData_laid value cells) (ofEntries_laid rest _)

end

end Laid

/-- One key of one mapping has got a value that is made of data, in cells of its own. -/
structure Replaced (cells after : Cells) (target : Nat) (name : Text) (tree : Tree) (data : Data) :
    Prop where
  present : target < cells.size
  changed : after.entries target = (cells.entries target).put (.text name) tree
  frame : ∀ number < cells.size, number ≠ target → after.entries number = cells.entries number
  made : tree.Made after data
  fresh : ∀ number, tree.Reach after number → cells.size ≤ number

/-- A path leaves the mappings that are there: some names lead to one of them, and the next name leads to
no other unless it is the last. -/
structure Leaves (cells : Cells) (number : Nat) (front : List Text) (target : Nat) (name : Text)
    (rest : List Text) : Prop where
  here : (Tree.mapping number).at? cells (keysOf front) = some (.mapping target)
  opened : rest ≠ [] → ∀ inner, (cells.entries target).get? (.text name) ≠ some (.mapping inner)

theorem leaves_exists (cells : Cells) (path : List Text) (listed : path ≠ []) (number : Nat) :
    ∃ front target name rest, path = front ++ name :: rest ∧
      Leaves cells number front target name rest := by
  induction path generalizing number with
  | nil => exact absurd rfl listed
  | cons name path ih =>
      by_cases last : path = []
      · subst last
        exact ⟨[], number, name, [], rfl, rfl, fun more => absurd rfl more⟩
      · by_cases there : ∃ inner, (cells.entries number).get? (.text name) = some (.mapping inner)
        · obtain ⟨inner, known⟩ := there
          obtain ⟨front, target, leaving, rest, rfl, leaves⟩ := ih last inner
          refine ⟨name :: front, target, leaving, rest, rfl, ?_, leaves.opened⟩
          rw [keysOf, List.map_cons, Tree.at_mapping, known]
          exact leaves.here
        · exact ⟨[], number, name, path, rfl, rfl, fun _ inner known => there ⟨inner, known⟩⟩

section Assign

variable {cells : Cells} {number target : Nat} {front rest : List Text} {name : Text}

theorem assign_open {value : Data} {second : Text} {path : List Text}
    (other : ∀ inner, (cells.entries target).get? (.text name) ≠ some (.mapping inner)) :
    assign value (name :: second :: path) target cells =
      assign value (second :: path) cells.size
        (Cells.put (cells.push []) target (.text name) (.mapping cells.size)) := by
  rw [assign]
  · split
    · rename_i inner known
      exact absurd known (other inner)
    · rfl
  · intro same
    cases same

theorem assign_down {value : Data} {path : List Text} (listed : path ≠ []) {inner : Nat}
    (known : (cells.entries target).get? (.text name) = some (.mapping inner)) :
    assign value (name :: path) target cells = assign value path inner cells := by
  obtain ⟨second, path, rfl⟩ := List.exists_cons_of_ne_nil listed
  rw [assign, known]
  intro same
  cases same

/-- A value is given where the path leaves the mappings. -/
theorem assign_leaves (leaves : Leaves cells number front target name rest) (value : Data) :
    assign value (front ++ name :: rest) number cells = assign value (name :: rest) target cells := by
  obtain ⟨here, opened⟩ := leaves
  induction front generalizing number with
  | nil =>
      cases here
      rfl
  | cons first front ih =>
      obtain ⟨outer, tree, same, known, below⟩ := Tree.mapping_at here
      cases same
      obtain ⟨inner, rfl⟩ := Tree.mapping_of_at below
      rw [List.cons_append, assign_down (by simp) known, ih below]

/-- What the rest of a path and a value are made of is put where the path leaves the mappings. -/
theorem assign_replaced (value : Data) (present : target < cells.size)
    (opened : rest ≠ [] → ∀ inner, (cells.entries target).get? (.text name) ≠ some (.mapping inner)) :
    ∃ tree, Replaced cells (assign value (name :: rest) target cells) target name tree
      (nested rest value) := by
  induction rest generalizing cells target name with
  | nil =>
      have laid := ofData_laid value cells
      have least := laid.least
      have later : HasFrom cells.size ((Tree.ofData value).run cells).2
          (Cells.put ((Tree.ofData value).run cells).2 target (.text name)
            ((Tree.ofData value).run cells).1) :=
        fun number low _ => entries_put_other _ _ (by omega)
      rw [assign_last]
      refine ⟨_, present, ?_, fun number inside other => ?_, laid.made _ later,
        fun number reach => (laid.fresh _ later number reach).1⟩
      · rw [entries_put _ _ (by omega), laid.frame target present]
      · rw [entries_put_other _ _ other, laid.frame number inside]
  | cons second rest ih =>
      rw [assign_open (opened (List.cons_ne_nil second rest))]
      have size : (Cells.put (cells.push []) target (.text name) (.mapping cells.size)).size =
          cells.size + 1 := by
        rw [size_put, Array.size_push]
      have empty : (Cells.put (cells.push []) target (.text name) (.mapping cells.size)).entries
          cells.size = [] := by
        rw [entries_put_other _ _ present.ne', entries_pushed]
      obtain ⟨tree, inner⟩ := @ih (Cells.put (cells.push []) target (.text name) (.mapping cells.size))
        cells.size second (by omega) fun _ inner known => by rw [empty] at known; cases known
      have only := inner.changed
      rw [empty] at only
      refine ⟨.mapping cells.size, present, ?_, fun number inside other => ?_, ?_, fun number reach => ?_⟩
      · rw [inner.frame target (by omega) present.ne, entries_put _ _ (by rw [Array.size_push]; omega),
          entries_push present]
      · rw [inner.frame number (by omega) inside.ne, entries_put_other _ _ other, entries_push inside]
      · refine .mapping (by rw [only]; rfl) fun place entry pair here there => ?_
        rw [only] at here
        cases place with
        | zero =>
            cases here
            cases there
            exact inner.made
        | succ place => cases here
      · cases reach with
        | here => exact le_rfl
        | within inside reach =>
            rw [Tree.inside, only] at inside
            cases List.mem_singleton.mp inside
            have least := inner.fresh number reach
            omega

end Assign

section Alike

variable {so next other : Configuration} {target : Nat} {name : Text} {one two : Tree} {data : Data}

/-- Two trees are one that was there before, or both are made of the same data. -/
def Known (so next other : Configuration) (one two : Tree) : Prop :=
  one = two ∧ one.Fits so.cells.size ∨
    ∃ data, one.Made next.cells data ∧ two.Made other.cells data

theorem known_entries {entries : Entries} (fit : Fit so.cells.size entries) (key : Data) :
    Option.Rel (Known so next other) (entries.get? key) (entries.get? key) := by
  refine get_paired rfl (fun place one two here there => ?_) key
  rw [here] at there
  cases there
  exact .inl ⟨rfl, fit.2 one (List.mem_of_getElem? here)⟩

/-- Configurations in which one key has got values that are made of the same data are alike. -/
theorem alike_of_replaced (sound : so.Sound) (root : next.root = so.root) (same : other.root = so.root)
    (first : Replaced so.cells next.cells target name one data)
    (second : Replaced so.cells other.cells target name two data) : next.Alike other := by
  refine ⟨Known so next other, ?_, ?_⟩
  · rw [root, same]
    exact .inl ⟨rfl, fits_mapping sound.inside⟩
  · rintro one' two' (⟨rfl, fits⟩ | ⟨data', made, also⟩)
    · cases one' with
      | leaf data => exact .leaf data
      | list items =>
          refine .list (List.forall₂_same.mpr fun item member => .inl ⟨rfl, ?_⟩)
          exact fits_part fits member
      | tuple items =>
          refine .tuple (List.forall₂_same.mpr fun item member => .inl ⟨rfl, ?_⟩)
          exact fits_part fits member
      | mapping number =>
          refine .mapping fun key => ?_
          by_cases here : number = target
          · subst here
            have keys := (sound.proper number).keys
            have known : (Data.text name).IsKey := rfl
            rw [first.changed, second.changed, Entries.get_put known _ keys,
              Entries.get_put known _ keys]
            split
            · exact .some (.inr ⟨data, first.made, second.made⟩)
            · exact known_entries (sound.all number) key
          · have inside := fits number (.here number)
            rw [first.frame number inside here, second.frame number inside here]
            exact known_entries (sound.all number) key
    · exact (matches_of_made made also).mono fun _ _ both => .inr both

end Alike

section Merge

variable {cells : Cells} {source number target bound : Nat} {front rest : List Text} {name : Text}
  {key : Data} {value : Tree} {data : Data}

theorem mergeEntry_down {deeper : Nat → Nat → Cells → Except Failure Cells} {old : Nat} (new : Nat)
    (known : (cells.entries target).get? key = some (.mapping old)) :
    mergeEntry deeper target key (.mapping new) cells = deeper new old cells := by
  simp only [mergeEntry, known]

theorem mergeEntry_put {deeper : Nat → Nat → Cells → Except Failure Cells}
    (replaces : ∀ old new, (cells.entries target).get? key = some (.mapping old) →
      value ≠ .mapping new) :
    mergeEntry deeper target key value cells = .ok (cells.put target key value) := by
  unfold mergeEntry
  split
  · rename_i old new known
    exact absurd rfl (replaces old new known)
  · rfl

/-- Merging a mapping with one entry is merging the entry. -/
theorem mergeCell_single (only : cells.entries source = [(key, value)]) :
    mergeCell (bound + 1) source target cells =
      (mergeEntry (mergeCell bound) target key value cells).bind fun after =>
        if (after.entries source).length = 1 then .ok after else .error changedSize := by
  rw [mergeCell, only]
  simp only [List.length_singleton]
  rw [mergeEntries, only]
  simp only [List.length_singleton, if_true]
  rfl

theorem made_nested {tree : Tree} {path : List Text} (made : tree.Made cells (nested (name :: path) data)) :
    ∃ number inner, tree = .mapping number ∧ cells.entries number = [(.text name, inner)] ∧
      inner.Made cells (nested path data) := by
  rw [nested] at made
  cases made with
  | leaf simple => exact absurd rfl (simple _)
  | @mapping number _ keys each =>
      obtain ⟨⟨other, inner⟩, only, same⟩ := List.map_eq_singleton_iff.mp keys
      cases same
      exact ⟨number, inner, rfl, only, each 0 _ _ (by rw [only]; rfl) rfl⟩

theorem nested_mapping {tree : Tree} (made : tree.Made cells (nested (front ++ name :: rest) data)) :
    ∃ number, tree = .mapping number := by
  cases front with
  | nil | cons first front =>
      obtain ⟨number, _, same, _⟩ := made_nested made
      exact ⟨number, same⟩

/-- A mapping whose merging would go too far down is not merged. -/
theorem merge_too_deep (leaves : Leaves cells number front target name rest)
    (made : (Tree.mapping source).Made cells (nested (front ++ name :: rest) data))
    (deep : bound ≤ front.length) : mergeCell bound source number cells = .error .tooDeep := by
  obtain ⟨here, opened⟩ := leaves
  induction front generalizing number source bound with
  | nil =>
      cases Nat.le_zero.mp deep
      rfl
  | cons first front ih =>
      cases bound with
      | zero => rfl
      | succ bound =>
          obtain ⟨_, given, same, only, below⟩ := made_nested made
          cases same
          obtain ⟨_, tree, same, known, leads⟩ := Tree.mapping_at here
          cases same
          obtain ⟨old, rfl⟩ := Tree.mapping_of_at leads
          obtain ⟨new, rfl⟩ := nested_mapping below
          rw [mergeCell_single only, mergeEntry_down new known,
            ih below (Nat.le_of_succ_le_succ deep) leads]
          rfl

/-- Merging data that has one value at a path puts what it is made of where the path leaves the mappings. -/
theorem merge_leaves (leaves : Leaves cells number front target name rest)
    (made : (Tree.mapping source).Made cells (nested (front ++ name :: rest) data))
    (outside : ¬(Tree.mapping source).Reach cells target) (enough : front.length < bound)
    (replaces : rest = [] → (∃ entries, data = .dict entries) →
      ∀ inner, (cells.entries target).get? (.text name) ≠ some (.mapping inner)) :
    ∃ tree, tree.Made cells (nested rest data) ∧
      (∀ inner, tree.Reach cells inner → (Tree.mapping source).Reach cells inner) ∧
      mergeCell bound source number cells = .ok (cells.put target (.text name) tree) := by
  obtain ⟨here, opened⟩ := leaves
  induction front generalizing number source bound with
  | nil =>
      obtain ⟨bound, rfl⟩ := Nat.exists_eq_succ_of_ne_zero (Nat.ne_zero_of_lt enough)
      cases here
      obtain ⟨_, given, same, only, below⟩ := made_nested made
      cases same
      have kept : (cells.put target (.text name) given).entries source = cells.entries source :=
        entries_put_other _ _ fun same => outside (by rw [← same]; exact .here source)
      refine ⟨given, below, fun inner reach => ?_, ?_⟩
      · exact .within (by rw [Tree.inside, only]; exact List.mem_singleton_self _) reach
      · have entry : mergeEntry (mergeCell bound) target (.text name) given cells =
            .ok (cells.put target (.text name) given) := by
          refine mergeEntry_put fun old new known same => ?_
          subst same
          by_cases last : rest = []
          · subst last
            cases below with
            | mapping keys each => exact replaces rfl ⟨_, rfl⟩ old known
          · exact opened last old known
        rw [mergeCell_single only, entry]
        simp only [Except.bind, kept, only, List.length_singleton, if_true]
  | cons first front ih =>
      obtain ⟨bound, rfl⟩ := Nat.exists_eq_succ_of_ne_zero (Nat.ne_zero_of_lt enough)
      obtain ⟨_, given, same, only, below⟩ := made_nested made
      cases same
      obtain ⟨_, tree, same, known, leads⟩ := Tree.mapping_at here
      cases same
      obtain ⟨old, rfl⟩ := Tree.mapping_of_at leads
      obtain ⟨new, rfl⟩ := nested_mapping below
      have within : ∀ inner, (Tree.mapping new).Reach cells inner →
          (Tree.mapping source).Reach cells inner :=
        fun inner reach => .within (by rw [Tree.inside, only]; exact List.mem_singleton_self _) reach
      have further : front.length < bound := Nat.lt_of_succ_lt_succ enough
      obtain ⟨tree, inner_made, reach, merged⟩ :=
        ih below (fun reach => outside (within target reach)) further leads
      have kept : (cells.put target (.text name) tree).entries source = cells.entries source :=
        entries_put_other _ _ fun same => outside (by rw [← same]; exact .here source)
      refine ⟨tree, inner_made, fun inner there => within inner (reach inner there), ?_⟩
      rw [mergeCell_single only, mergeEntry_down new known, merged]
      simp only [Except.bind, kept, only, List.length_singleton, if_true]

end Merge

section Layer

variable {so layer : Configuration} {front rest : List Text} {target : Nat} {name : Text} {data : Data}

theorem Sound.leaves_present (sound : so.Sound) (leaves : Leaves so.cells so.root front target name rest) :
    target < so.cells.size :=
  sound.closed target (Tree.reach_of_at leaves.here (.here target))

/-- Giving a setting a value puts what it is made of where the path leaves the mappings. -/
theorem assigned_replaced (sound : so.Sound) (leaves : Leaves so.cells so.root front target name rest)
    (value : Data) : ∃ tree, Replaced so.cells (so.assigned (front ++ name :: rest) value).cells target
      name tree (nested rest value) := by
  rw [assigned, assign_leaves leaves]
  exact assign_replaced value (sound.leaves_present leaves) leaves.opened

theorem made_ofEntries (entries : List (Data × Data)) :
    (Tree.mapping (ofEntries entries).root).Made (ofEntries entries).cells (.dict entries) := by
  have laid := laid_dict (ofEntries_laid entries #[])
  rw [ofEntries_run]
  exact laid.made _ fun _ _ _ => rfl

/-- Merging data that has one value at a path puts what it is made of where the path leaves the mappings,
unless this is too far down. -/
theorem merged_replaced (sound : so.Sound) (leaves : Leaves so.cells so.root front target name rest)
    (made : (Tree.mapping layer.root).Made layer.cells (nested (front ++ name :: rest) data))
    (replaces : rest = [] → (∃ entries, data = .dict entries) →
      ∀ inner, (so.cells.entries target).get? (.text name) ≠ some (.mapping inner)) :
    (∃ other tree, so.merged layer = .ok other ∧ other.root = so.root ∧
        Replaced so.cells other.cells target name tree (nested rest data)) ∨
      (so.merged layer = .error .tooDeep ∧ depthLimit ≤ front.length) := by
  have behind := beside_behind so layer
  have present := sound.leaves_present leaves
  have before : (so.beside layer).entries target = so.cells.entries target := beside_before present
  have placed : Leaves (so.beside layer) so.root front target name rest := by
    refine ⟨?_, ?_⟩
    · rw [Tree.agree_at (beside_agree sound)]
      exact leaves.here
    · rw [before]
      exact leaves.opened
  have moved := Tree.made_shifted behind made
  have fresh : ∀ number, (Tree.mapping (layer.root + so.cells.size)).Reach (so.beside layer) number →
      so.cells.size ≤ number := by
    intro number reach
    obtain ⟨inner, rfl, _⟩ := @Tree.reach_shifted _ _ _ behind (.mapping layer.root) _ reach
    exact Nat.le_add_left _ _
  have outside : ¬(Tree.mapping (layer.root + so.cells.size)).Reach (so.beside layer) target :=
    fun reach => absurd (fresh target reach) (Nat.not_le.mpr present)
  rcases Nat.lt_or_ge front.length depthLimit with enough | deep
  · obtain ⟨tree, tree_made, within, merged⟩ := merge_leaves placed moved outside enough
      (by rw [before]; exact replaces)
    have agree : tree.Agree (so.beside layer) ((so.beside layer).put target (.text name) tree) :=
      fun number reach => entries_put_other _ _ fun same => outside (within _ (same ▸ reach))
    refine .inl ⟨⟨so.root, (so.beside layer).put target (.text name) tree⟩, tree, ?_, rfl, present, ?_,
      fun number inside other => ?_, Tree.made_of_agree agree tree_made, fun number reach => ?_⟩
    · rw [Configuration.merged, merged]
      rfl
    · rw [entries_put _ _ (by rw [size_beside]; omega), before]
    · rw [entries_put_other _ _ other, beside_before inside]
    · exact fresh number (within number ((Tree.agree_reach agree).mp reach))
  · refine .inr ⟨?_, deep⟩
    rw [Configuration.merged, merge_too_deep placed moved deep]
    rfl

end Layer

end PageTemplates.Configuration
