import PageTemplates.Proofs.Configuration.Entries

/-!
What lies within a tree of settings: the cells that can be reached from it, the places where a mapping
stands, and the values at paths of keys. All of this depends on the cells that can be reached only, so it
stays as it is when other cells change.
-/

namespace PageTemplates.Configuration

namespace Tree

/-- The trees right inside a tree. -/
def inside (cells : Cells) : Tree → List Tree
  | .leaf _ => []
  | .list items => items
  | .tuple items => items
  | .mapping number => (cells.entries number).map Prod.snd

/-- What stands in a place: a place is the numbers of the parts that lead to it. -/
def part? (cells : Cells) : (place : List Nat) → Tree → Option Tree
  | [], tree => some tree
  | number :: place, tree =>
    match (tree.inside cells)[number]? with
    | some part => part? cells place part
    | none => none

/-- The cells that lie within a tree. -/
inductive Reach (cells : Cells) : Tree → Nat → Prop where
  | here (number : Nat) : Reach cells (.mapping number) number
  | within {tree part : Tree} {number : Nat} (inside : part ∈ tree.inside cells)
      (reach : Reach cells part number) : Reach cells tree number

/-- The data that a tree shows. What contains itself shows none. -/
inductive Shows (cells : Cells) : Tree → Data → Prop where
  | leaf (data : Data) : Shows cells (.leaf data) data
  | list {items : List Tree} {data : List Data} (length : items.length = data.length)
      (each : ∀ (place : Nat) item value, items[place]? = some item → data[place]? = some value →
        Shows cells item value) : Shows cells (.list items) (.list data)
  | tuple {items : List Tree} {data : List Data} (length : items.length = data.length)
      (each : ∀ (place : Nat) item value, items[place]? = some item → data[place]? = some value →
        Shows cells item value) : Shows cells (.tuple items) (.tuple data)
  | mapping {number : Nat} {data : List (Data × Data)}
      (keys : (cells.entries number).map Prod.fst = data.map Prod.fst)
      (each : ∀ (place : Nat) entry pair, (cells.entries number)[place]? = some entry →
        data[place]? = some pair → Shows cells entry.2 pair.2) :
      Shows cells (.mapping number) (.dict data)

/-- A tree has a value at a path: the path leads to something that is no mapping and shows the value. -/
def Has (cells : Cells) (path : List Data) (value : Data) (tree : Tree) : Prop :=
  ∃ found, tree.at? cells path = some found ∧ found.isMapping = false ∧ found.Shows cells value

/-- A tree says nothing about a path: its mappings come to an end before the path does, for want of a
key. -/
def Silent (cells : Cells) : (path : List Data) → Tree → Prop
  | [], _ => False
  | key :: path, .mapping number =>
      ∀ value, (cells.entries number).get? key = some value → Silent cells path value
  | _ :: _, _ => False

section

variable {cells : Cells}

theorem at_mapping (key : Data) (path : List Data) (number : Nat) :
    (mapping number).at? cells (key :: path) =
      ((cells.entries number).get? key).bind (at? cells path) := by
  simp only [at?, entries?, Option.bind_some]
  cases Entries.get? key (cells.entries number) <;> rfl

theorem at_other {tree : Tree} (other : tree.isMapping = false) (key : Data) (path : List Data) :
    tree.at? cells (key :: path) = none := by
  cases tree <;> first | rfl | cases other

theorem mapping_at {key : Data} {path : List Data} {tree found : Tree}
    (leads : tree.at? cells (key :: path) = some found) :
    ∃ number value, tree = .mapping number ∧ (cells.entries number).get? key = some value ∧
      value.at? cells path = some found := by
  cases tree with
  | mapping number =>
      rw [at_mapping] at leads
      obtain ⟨value, known, leads⟩ := Option.bind_eq_some_iff.mp leads
      exact ⟨number, value, rfl, known, leads⟩
  | _ => cases leads

theorem mapping_of_at {path : List Data} {tree : Tree} {number : Nat}
    (leads : tree.at? cells path = some (.mapping number)) : ∃ outer, tree = .mapping outer := by
  cases path with
  | nil => exact ⟨number, Option.some.inj leads⟩
  | cons key path =>
      obtain ⟨outer, _, same, _⟩ := mapping_at leads
      exact ⟨outer, same⟩

theorem has_mapping {key : Data} {path : List Data} {value : Data} {number : Nat} :
    (mapping number).Has cells (key :: path) value ↔
      ∃ inner, (cells.entries number).get? key = some inner ∧ inner.Has cells path value := by
  simp only [Has, at_mapping, Option.bind_eq_some_iff]
  constructor
  · rintro ⟨found, ⟨inner, known, leads⟩, rest⟩
    exact ⟨inner, known, found, leads, rest⟩
  · rintro ⟨inner, known, found, leads, rest⟩
    exact ⟨found, ⟨inner, known, leads⟩, rest⟩

theorem not_has_here {number : Nat} {value : Data} : ¬(mapping number).Has cells [] value := by
  rintro ⟨found, leads, other, _⟩
  cases leads
  cases other

theorem not_has_below {tree : Tree} (other : tree.isMapping = false) (key : Data) (path : List Data)
    (value : Data) : ¬tree.Has cells (key :: path) value := by
  rintro ⟨found, leads, _⟩
  rw [at_other other] at leads
  cases leads

theorem not_silent_other {tree : Tree} (other : tree.isMapping = false) (path : List Data) :
    ¬tree.Silent cells path := by
  cases path with
  | nil => exact id
  | cons key path => cases tree <;> first | exact id | cases other

/-- A tree says nothing about a path if nothing stands at it, nor anything but mappings on the way. -/
theorem silent_iff (path : List Data) (tree : Tree) :
    tree.Silent cells path ↔ tree.at? cells path = none ∧
      ∀ before found, before <+: path → tree.at? cells before = some found →
        found.isMapping = true := by
  induction path generalizing tree with
  | nil => simp [Silent, at?]
  | cons key path ih =>
      by_cases other : tree.isMapping = false
      · constructor
        · exact fun silent => (not_silent_other other _ silent).elim
        · rintro ⟨_, mappings⟩
          have here := mappings [] tree (List.nil_prefix) rfl
          rw [other] at here
          cases here
      · cases tree with
        | mapping number =>
            simp only [Silent, at_mapping]
            cases known : (cells.entries number).get? key with
            | none =>
                refine ⟨fun _ => ⟨rfl, fun before found opening leads => ?_⟩, fun _ => nofun⟩
                cases before with
                | nil =>
                    cases leads
                    rfl
                | cons first before =>
                    obtain ⟨rfl, _⟩ := List.cons_prefix_cons.mp opening
                    rw [at_mapping, known] at leads
                    cases leads
            | some value =>
                simp only [Option.some.injEq, forall_eq', Option.bind_some, ih]
                refine and_congr_right fun _ => ⟨fun mappings before found opening leads => ?_,
                  fun mappings before found opening leads => ?_⟩
                · cases before with
                  | nil =>
                      cases leads
                      rfl
                  | cons first before =>
                      obtain ⟨rfl, below⟩ := List.cons_prefix_cons.mp opening
                      rw [at_mapping, known] at leads
                      exact mappings before found below leads
                · refine mappings (key :: before) found (List.cons_prefix_cons.mpr ⟨rfl, opening⟩) ?_
                  rw [at_mapping, known]
                  exact leads
        | _ => exact (other rfl).elim

theorem reach_of_place {place : List Nat} {tree part : Tree} {number : Nat}
    (here : tree.part? cells place = some part) (reach : part.Reach cells number) :
    tree.Reach cells number := by
  induction place generalizing tree with
  | nil =>
      cases here
      exact reach
  | cons first place ih =>
      rw [part?] at here
      split at here
      · rename_i inner found
        exact .within (List.mem_of_getElem? found) (ih here)
      · cases here

/-- What lies within a tree stands somewhere in it. -/
theorem place_of_reach {tree : Tree} {number : Nat} (reach : tree.Reach cells number) :
    ∃ place, tree.part? cells place = some (.mapping number) := by
  induction reach with
  | here number => exact ⟨[], rfl⟩
  | within inside _ ih =>
      obtain ⟨place, here⟩ := ih
      obtain ⟨first, found⟩ := List.mem_iff_getElem?.mp inside
      exact ⟨first :: place, by rw [part?, found]; exact here⟩

theorem part_of_entry {number place : Nat} {key : Data} {value : Tree}
    (here : (cells.entries number)[place]? = some (key, value)) (rest : List Nat) :
    (mapping number).part? cells (place :: rest) = value.part? cells rest := by
  rw [part?, inside, List.getElem?_map, here]
  rfl

theorem entry_of_part {number place : Nat} {rest : List Nat} {part : Tree}
    (here : (mapping number).part? cells (place :: rest) = some part) :
    ∃ key value, (cells.entries number)[place]? = some (key, value) ∧
      value.part? cells rest = some part := by
  rw [part?, inside, List.getElem?_map] at here
  cases found : (cells.entries number)[place]? with
  | none =>
      rw [found] at here
      cases here
  | some entry =>
      rw [found] at here
      exact ⟨entry.1, entry.2, rfl, here⟩

theorem reach_of_entry {number inner : Nat} {entry : Data × Tree}
    (member : entry ∈ cells.entries number) (reach : entry.2.Reach cells inner) :
    (mapping number).Reach cells inner :=
  .within (List.mem_map_of_mem member) reach

theorem reach_of_at {path : List Data} {tree found : Tree} {number : Nat}
    (leads : tree.at? cells path = some found) (reach : found.Reach cells number) :
    tree.Reach cells number := by
  induction path generalizing tree with
  | nil =>
      cases leads
      exact reach
  | cons key path ih =>
      obtain ⟨outer, value, rfl, known, leads⟩ := mapping_at leads
      obtain ⟨place, other, here, _⟩ := Entries.place_of_get known
      exact reach_of_entry (List.mem_of_getElem? here) (ih leads)

end

/-- Two lots of cells agree about all that lies within a tree. -/
def Agree (cells others : Cells) (tree : Tree) : Prop :=
  ∀ number, tree.Reach cells number → others.entries number = cells.entries number

section

variable {cells others : Cells}

theorem agree_inside {tree : Tree} (agree : tree.Agree cells others) :
    tree.inside others = tree.inside cells := by
  cases tree with
  | mapping number => rw [inside, inside, agree number (.here number)]
  | _ => rfl

theorem agree_part {tree part : Tree} (agree : tree.Agree cells others)
    (inside : part ∈ tree.inside cells) : part.Agree cells others :=
  fun number reach => agree number (.within inside reach)

theorem agree_value {number : Nat} {key : Data} {value : Tree}
    (agree : (mapping number).Agree cells others)
    (known : (cells.entries number).get? key = some value) : value.Agree cells others := by
  obtain ⟨place, other, here, _⟩ := Entries.place_of_get known
  exact fun inner reach => agree inner (reach_of_entry (List.mem_of_getElem? here) reach)

theorem agree_reach {tree : Tree} (agree : tree.Agree cells others) {number : Nat} :
    tree.Reach others number ↔ tree.Reach cells number := by
  constructor
  · intro reach
    induction reach with
    | here number => exact .here number
    | within inside _ ih =>
        rw [agree_inside agree] at inside
        exact .within inside (ih (agree_part agree inside))
  · intro reach
    induction reach with
    | here number => exact .here number
    | within inside _ ih =>
        refine .within ?_ (ih (agree_part agree inside))
        rwa [agree_inside agree]

theorem agree_at {tree : Tree} (agree : tree.Agree cells others) (path : List Data) :
    tree.at? others path = tree.at? cells path := by
  induction path generalizing tree with
  | nil => rfl
  | cons key path ih =>
      cases tree with
      | mapping number =>
          rw [at_mapping, at_mapping, agree number (.here number)]
          refine Option.bind_congr fun value known => ih (agree_value agree known)
      | _ => rfl

theorem agree_places {tree : Tree} (agree : tree.Agree cells others) (place : List Nat) :
    tree.part? others place = tree.part? cells place := by
  induction place generalizing tree with
  | nil => rfl
  | cons first place ih =>
      rw [part?, part?, agree_inside agree]
      cases found : (tree.inside cells)[first]? with
      | none => rfl
      | some part => exact ih (agree_part agree (List.mem_of_getElem? found))

theorem shows_of_agree {tree : Tree} {value : Data} (agree : tree.Agree cells others)
    (shows : tree.Shows cells value) : tree.Shows others value := by
  induction shows with
  | leaf data => exact .leaf data
  | list length _ ih =>
      exact .list length fun place item value here there =>
        ih place item value here there (agree_part agree (List.mem_of_getElem? here))
  | tuple length _ ih =>
      exact .tuple length fun place item value here there =>
        ih place item value here there (agree_part agree (List.mem_of_getElem? here))
  | @mapping number data keys _ ih =>
      have same := agree number (.here number)
      refine .mapping (by rw [same]; exact keys) fun place entry pair here there => ?_
      rw [same] at here
      exact ih place entry pair here there
        (agree_part agree (List.mem_map_of_mem (List.mem_of_getElem? here)))

theorem agree_symm {tree : Tree} (agree : tree.Agree cells others) : tree.Agree others cells :=
  fun number reach => (agree number ((agree_reach agree).mp reach)).symm

theorem agree_has {tree : Tree} (agree : tree.Agree cells others) (path : List Data) (value : Data) :
    tree.Has others path value ↔ tree.Has cells path value := by
  unfold Has
  rw [agree_at agree]
  refine exists_congr fun found => and_congr_right fun leads => and_congr_right fun _ => ?_
  have within : found.Agree cells others := fun number reach => agree number (reach_of_at leads reach)
  exact ⟨shows_of_agree (agree_symm within), shows_of_agree within⟩

theorem agree_silent {tree : Tree} (agree : tree.Agree cells others) (path : List Data) :
    tree.Silent others path ↔ tree.Silent cells path := by
  simp only [silent_iff, agree_at agree]

end

end Tree

end PageTemplates.Configuration
