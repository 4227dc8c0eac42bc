import PageTemplates.Proofs.Configuration.Layers

/-!
Layers that are put on one another without tangles: no mapping that merging goes into stands in several
places. This can be computed where the places of a configuration are not too long.
-/

namespace PageTemplates.Configuration

namespace Tree

/-- What stands in the places of a tree that are not longer than a bound. -/
def spots (cells : Cells) : (bound : Nat) → (tree : Tree) → List (List Nat × Tree)
  | 0, tree => [([], tree)]
  | bound + 1, tree =>
    ([], tree) :: (tree.inside cells).zipIdx.flatMap fun (part, number) =>
      (spots cells bound part).map fun (place, found) => (number :: place, found)

/-- Whether a tree is the mapping of a cell. -/
def isCell (number : Nat) : Tree → Bool
  | .mapping other => other == number
  | _ => false

section

variable {cells : Cells}

theorem mem_spots {place : List Nat} {bound : Nat} (short : place.length ≤ bound) {tree found : Tree}
    (stands : tree.part? cells place = some found) : (place, found) ∈ tree.spots cells bound := by
  induction place generalizing bound tree with
  | nil =>
      cases stands
      cases bound <;> exact List.mem_cons_self
  | cons number place ih =>
      cases bound with
      | zero => cases short
      | succ bound =>
          rw [part?] at stands
          split at stands
          · rename_i part here
            refine List.mem_cons_of_mem _ (List.mem_flatMap.mpr ⟨(part, number), ?_, ?_⟩)
            · exact List.mem_zipIdx_iff_getElem?.mpr here
            · exact List.mem_map_of_mem (ih (Nat.le_of_succ_le_succ short) stands)
          · cases stands

theorem part_prefix {place : List Nat} {tree found : Tree} (stands : tree.part? cells place = some found)
    (count : Nat) : ∃ part, tree.part? cells (place.take count) = some part := by
  induction place generalizing tree count with
  | nil => exact ⟨tree, by rw [List.take_nil]; rfl⟩
  | cons number place ih =>
      cases count with
      | zero => exact ⟨tree, rfl⟩
      | succ count =>
          rw [part?] at stands
          split at stands
          · rename_i part here
            obtain ⟨inner, leads⟩ := ih stands count
            exact ⟨inner, by rw [List.take_succ_cons, part?, here]; exact leads⟩
          · cases stands

/-- If all places up to a bound are shorter than it, then there are no others. -/
theorem spots_complete {bound : Nat} {tree : Tree}
    (short : ∀ spot ∈ tree.spots cells bound, spot.1.length < bound) {place : List Nat} {found : Tree}
    (stands : tree.part? cells place = some found) : (place, found) ∈ tree.spots cells bound := by
  refine mem_spots ?_ stands
  by_contra long
  obtain ⟨part, leads⟩ := part_prefix stands bound
  have length : (place.take bound).length = bound := by
    rw [List.length_take]
    omega
  have clash : (place.take bound).length < bound := short _ (mem_spots length.le leads)
  omega

end

end Tree

/-- Whether the mapping of a cell stands in one place at most. -/
def lone (so : Configuration) (bound number : Nat) : Bool :=
  let spots := (Tree.mapping so.root).spots so.cells bound
  spots.all (fun spot => spot.1.length < bound) &&
    spots.all fun one => spots.all fun other =>
      !(one.2.isCell number && other.2.isCell number) || one.1 == other.1

/-- Whether the mappings that merging goes into, below two cells, stand in one place each. -/
def meetsLone (so layer : Configuration) (bound : Nat) : (depth : Nat) → (old new : Nat) → Bool
  | 0, _, _ => false
  | depth + 1, old, new =>
    so.lone bound old && (layer.cells.entries new).all fun (key, value) =>
      match (so.cells.entries old).get? key, value with
      | some (.mapping inner), .mapping other => meetsLone so layer bound depth inner other
      | _, _ => true

/-- Whether layers come without tangles on a configuration. -/
def neverTangled (bound : Nat) : (so : Configuration) → (layers : List Configuration) → Bool
  | _, [] => true
  | so, layer :: rest =>
    so.meetsLone layer bound bound so.root layer.root &&
      match so.merged layer with
      | .ok next => neverTangled bound next rest
      | .error _ => true

/-- No layer is merged into a mapping that stands in several places of what the layers before it come to. -/
def NeverTangled : (so : Configuration) → (layers : List Configuration) → Prop
  | _, [] => True
  | so, layer :: rest =>
    so.Untangled layer ∧ ∀ next, so.merged layer = .ok next → NeverTangled next rest

section

variable {so layer : Configuration} {bound : Nat}

theorem one_place {number : Nat} (lone : so.lone bound number = true) (one place : List Nat)
    (first : (Tree.mapping so.root).part? so.cells one = some (.mapping number))
    (second : (Tree.mapping so.root).part? so.cells place = some (.mapping number)) : one = place := by
  obtain ⟨short, once⟩ := Bool.and_eq_true_iff.mp lone
  have shorter : ∀ spot ∈ (Tree.mapping so.root).spots so.cells bound, spot.1.length < bound :=
    fun spot member => of_decide_eq_true (List.all_eq_true.mp short spot member)
  have pair := List.all_eq_true.mp (List.all_eq_true.mp once _ (Tree.spots_complete shorter first)) _
    (Tree.spots_complete shorter second)
  simpa [Tree.isCell] using pair

theorem lone_of_meetsLone (sound : so.Sound) (other_sound : layer.Sound) {depth old new : Nat} (meets : so.meetsLone layer bound depth old new = true)
    {path : List Data} {number other : Nat}
    (here : (Tree.mapping old).at? so.cells path = some (.mapping number))
    (there : (Tree.mapping new).at? layer.cells path = some (.mapping other)) :
    so.lone bound number = true := by
  induction path generalizing depth old new with
  | nil =>
      cases here
      cases depth with
      | zero => cases meets
      | succ depth => exact (Bool.and_eq_true_iff.mp meets).1
  | cons key path ih =>
      cases depth with
      | zero => cases meets
      | succ depth =>
          obtain ⟨_, inner, same, known, here⟩ := Tree.mapping_at here
          cases same
          obtain ⟨_, given, same, found, there⟩ := Tree.mapping_at there
          cases same
          obtain ⟨old_inner, rfl⟩ := Tree.mapping_of_at here
          obtain ⟨new_inner, rfl⟩ := Tree.mapping_of_at there
          obtain ⟨alike, member, equal⟩ := Entries.mem_of_get found
          have fit := (other_sound.proper new).keys _ member
          rw [Entries.get_of_equal fit equal (sound.proper old).keys] at known
          have below := List.all_eq_true.mp (Bool.and_eq_true_iff.mp meets).2 _ member
          simp only [known] at below
          exact ih below here there

theorem untangled_of_meetsLone (sound : so.Sound) (other_sound : layer.Sound)
    (meets : so.meetsLone layer bound bound so.root layer.root = true) : so.Untangled layer :=
  fun _ _ _ here there => one_place (lone_of_meetsLone sound other_sound meets here there)

theorem never_tangled (layers : List Configuration) (so : Configuration) (sound : so.Sound)
    (each : ∀ layer ∈ layers, layer.Sound) (checked : neverTangled bound so layers = true) :
    NeverTangled so layers := by
  induction layers generalizing so with
  | nil => trivial
  | cons layer rest ih =>
      obtain ⟨layer_sound, rest_sound⟩ := List.forall_mem_cons.mp each
      obtain ⟨meets, later⟩ := Bool.and_eq_true_iff.mp checked
      have untangled := untangled_of_meetsLone sound layer_sound meets
      refine ⟨untangled, fun next merged => ?_⟩
      rw [merged] at later
      exact ih next (sound_merged sound layer_sound merged) rest_sound later

end

end PageTemplates.Configuration
