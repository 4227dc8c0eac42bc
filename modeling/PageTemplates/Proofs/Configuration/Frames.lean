import PageTemplates.Proofs.Configuration.Assigned
import PageTemplates.Proofs.Json.Read

/-!
What giving a setting a value leaves alone. If each mapping that the path goes through stands in one place
only, then nothing changes at a path that parts from it, and other paths go through mappings that stand in
one place as before.
-/

namespace PageTemplates.Configuration

/-- Keys part from names: before either come to their end, they differ. -/
def Apart : List Text → List Data → Prop
  | name :: names, key :: keys => (Data.text name).equals key = false ∨ Apart names keys
  | _, _ => False

/-- Paths part from one another if neither goes on where the other ends. -/
theorem apart_iff {path other : List Text} :
    Apart path (keysOf other) ↔ ¬path <+: other ∧ ¬other <+: path := by
  induction path generalizing other with
  | nil => simp [Apart]
  | cons name path ih =>
      cases other with
      | nil => simp [Apart, keysOf]
      | cons first other =>
          have below := @ih other
          rw [keysOf] at below ⊢
          rw [List.map_cons, Apart, below, Json.text_equals, List.cons_prefix_cons,
            List.cons_prefix_cons]
          by_cases same : name = first
          · simp [same]
          · simp [same, Ne.symm same]

/-- A mapping stands in one place of a tree at most. -/
def Tree.Once (cells : Cells) (tree : Tree) (number : Nat) : Prop :=
  ∀ one other, tree.part? cells one = some (.mapping number) →
    tree.part? cells other = some (.mapping number) → one = other

/-- Each mapping that a path goes through stands in one place. -/
def Solitary (so : Configuration) (path : List Text) : Prop :=
  ∀ front, front <+: path → front ≠ path → ∀ number,
    so.at? (keysOf front) = some (.mapping number) → (Tree.mapping so.root).Once so.cells number

/-- What a path leads to in a tree is what it led to, with all that lies within it. -/
def Tree.Kept (cells after : Cells) (tree : Tree) (path : List Data) : Prop :=
  tree.at? after path = tree.at? cells path ∧
    ∀ found, tree.at? cells path = some found → found.Agree cells after

/-- What stands at a path is what stood there, with all that lies within it. -/
def Kept (so next : Configuration) (path : List Data) : Prop :=
  next.root = so.root ∧ (Tree.mapping so.root).Kept so.cells next.cells path

/-- A value that no entry had is the value of one entry once it is put. -/
theorem Entries.put_one_place {key : Data} {value : Tree} {entries : Entries}
    (strange : ∀ entry ∈ entries, entry.2 ≠ value) {one two : Nat} {first second : Data}
    (here : (entries.put key value)[one]? = some (first, value))
    (there : (entries.put key value)[two]? = some (second, value)) : one = two := by
  induction entries generalizing one two with
  | nil =>
      have first_place := (List.getElem?_eq_some_iff.mp here).1
      have second_place := (List.getElem?_eq_some_iff.mp there).1
      simp only [put, List.length_singleton] at first_place second_place
      omega
  | cons entry rest ih =>
      obtain ⟨other, old⟩ := entry
      obtain ⟨differs, strange⟩ := List.forall_mem_cons.mp strange
      rw [put] at here there
      split at here
      · rename_i same
        rw [if_pos same] at there
        have first_only : ∀ {place : Nat} {key : Data}, ((other, value) :: rest)[place]? = some (key, value) →
            place = 0 := by
          intro place key stands
          cases place with
          | zero => rfl
          | succ place => exact absurd rfl (strange _ (List.mem_of_getElem? stands))
        rw [first_only here, first_only there]
      · rename_i apart
        rw [if_neg apart] at there
        cases one with
        | zero =>
            cases here
            exact absurd rfl differs
        | succ one =>
            cases two with
            | zero =>
                cases there
                exact absurd rfl differs
            | succ two => rw [ih strange here there]

namespace Tree

section

variable {cells : Cells} {tree : Tree} {data : Data} {number target : Nat}

theorem at_append (path more : List Data) (tree : Tree) :
    tree.at? cells (path ++ more) = (tree.at? cells path).bind (at? cells more) := by
  induction path generalizing tree with
  | nil => rfl
  | cons key path ih =>
      cases tree with
      | mapping number =>
          rw [List.cons_append, at_mapping, at_mapping, Option.bind_assoc]
          exact Option.bind_congr fun inner _ => ih inner
      | _ => rfl

/-- What a path leads to stands in a place. -/
theorem place_of_at {path : List Data} {found : Tree} (leads : tree.at? cells path = some found) :
    ∃ place : List Nat, place.length = path.length ∧ tree.part? cells place = some found := by
  induction path generalizing tree with
  | nil => exact ⟨[], rfl, leads⟩
  | cons key path ih =>
      obtain ⟨number, value, rfl, known, leads⟩ := mapping_at leads
      obtain ⟨first, other, here, _⟩ := Entries.place_of_get known
      obtain ⟨place, length, stands⟩ := ih leads
      exact ⟨first :: place, congrArg Nat.succ length, by rw [part_of_entry here, stands]⟩

theorem once_below {place : Nat} {key : Data} {inner : Tree}
    (here : (cells.entries number)[place]? = some (key, inner))
    (once : (mapping number).Once cells target) : inner.Once cells target := by
  intro one other first second
  have same := once (place :: one) (place :: other) (by rw [part_of_entry here, first])
    (by rw [part_of_entry here, second])
  exact (List.cons.inj same).2

theorem at_only {name : Text} {inner : Tree} (only : cells.entries number = [(.text name, inner)])
    (path : List Text) :
    (mapping number).at? cells (keysOf (name :: path)) = inner.at? cells (keysOf path) := by
  rw [keysOf, List.map_cons, at_mapping, only, Entries.get_cons, Json.text_equals, decide_eq_true rfl,
    if_pos rfl]
  rfl

theorem made_at {path : List Text} (made : tree.Made cells (nested path data)) :
    ∃ found, tree.at? cells (keysOf path) = some found ∧ found.Made cells data := by
  induction path generalizing tree with
  | nil => exact ⟨tree, rfl, made⟩
  | cons name path ih =>
      obtain ⟨number, inner, rfl, only, below⟩ := made_nested made
      obtain ⟨found, leads, last⟩ := ih below
      exact ⟨found, (at_only only path).trans leads, last⟩

theorem made_way {path front : List Text} (made : tree.Made cells (nested path data))
    (opening : front <+: path) (proper : front ≠ path) :
    ∃ number, tree.at? cells (keysOf front) = some (.mapping number) := by
  induction front generalizing tree path with
  | nil =>
      obtain ⟨name, path, rfl⟩ := List.exists_cons_of_ne_nil proper.symm
      obtain ⟨number, inner, rfl, _⟩ := made_nested made
      exact ⟨number, rfl⟩
  | cons name front ih =>
      obtain ⟨first, path, rfl⟩ := List.exists_cons_of_ne_nil (opening.ne_nil (List.cons_ne_nil _ _))
      obtain ⟨rfl, below⟩ := List.cons_prefix_cons.mp opening
      obtain ⟨number, inner, rfl, only, inner_made⟩ := made_nested made
      obtain ⟨last, leads⟩ := ih inner_made below fun same => proper (congrArg _ same)
      exact ⟨last, (at_only only front).trans leads⟩

theorem made_apart {path : List Text} {keys : List Data} (made : tree.Made cells (nested path data))
    (apart : Apart path keys) : tree.at? cells keys = none := by
  induction path generalizing tree keys with
  | nil => cases apart
  | cons name path ih =>
      cases keys with
      | nil => cases apart
      | cons key keys =>
          obtain ⟨number, inner, rfl, only, below⟩ := made_nested made
          rw [at_mapping, only, Entries.get_cons]
          split
          · rename_i same
            rcases apart with differs | apart
            · rw [same] at differs
              cases differs
            · exact ih below apart
          · rfl

/-- In what is made of data, the mappings of the path stand in one place. -/
theorem made_once {path front : List Text} (made : tree.Made cells (nested path data))
    (opening : front <+: path) (proper : front ≠ path)
    (leads : tree.at? cells (keysOf front) = some (.mapping number)) : tree.Once cells number := by
  induction front generalizing tree path with
  | nil =>
      obtain ⟨name, path, rfl⟩ := List.exists_cons_of_ne_nil proper.symm
      obtain ⟨outer, inner, rfl, only, below⟩ := made_nested made
      cases leads
      have root : ∀ place, (mapping number).part? cells place = some (.mapping number) → place = [] := by
        intro place stands
        cases place with
        | nil => rfl
        | cons first place =>
            obtain ⟨key, part, here, stands⟩ := entry_of_part stands
            have member : part ∈ (mapping number).inside cells :=
              List.mem_map_of_mem (List.mem_of_getElem? here)
            exact absurd (reach_of_place stands (.here number)) (not_reach_itself made.shows member)
      exact fun one other first second => (root one first).trans (root other second).symm
  | cons name front ih =>
      obtain ⟨first, path, rfl⟩ := List.exists_cons_of_ne_nil (opening.ne_nil (List.cons_ne_nil _ _))
      obtain ⟨rfl, below⟩ := List.cons_prefix_cons.mp opening
      obtain ⟨outer, inner, rfl, only, inner_made⟩ := made_nested made
      rw [at_only only] at leads
      have once := ih inner_made below (fun same => proper (congrArg _ same)) leads
      have reach := reach_of_at leads (.here number)
      have step : ∀ place, (mapping outer).part? cells place = some (.mapping number) →
          ∃ rest, place = 0 :: rest ∧ inner.part? cells rest = some (.mapping number) := by
        intro place stands
        cases place with
        | nil =>
            cases stands
            have member : inner ∈ (mapping number).inside cells := by
              rw [inside, only]
              exact List.mem_singleton_self _
            exact absurd reach (not_reach_itself made.shows member)
        | cons first place =>
            obtain ⟨key, part, here, stands⟩ := entry_of_part stands
            rw [only] at here
            cases first with
            | zero =>
                cases here
                exact ⟨place, rfl, stands⟩
            | succ first => cases here
      intro one other first second
      obtain ⟨rest, rfl, stands⟩ := step one first
      obtain ⟨more, rfl, also⟩ := step other second
      rw [once rest more stands also]

end

end Tree

section Replaced

variable {cells after : Cells} {number target : Nat} {front rest : List Text} {name : Text} {tree : Tree}
  {value : Data}

theorem Replaced.agree {data : Data} (replaced : Replaced cells after target name tree data) {other : Tree}
    (closed : ∀ inner, other.Reach cells inner → inner < cells.size)
    (outside : ¬other.Reach cells target) : other.Agree cells after :=
  fun inner reach => replaced.frame inner (closed inner reach) fun same => outside (same ▸ reach)

/-- A mapping that stands in one place does not stand on the way to itself. -/
theorem once_apart (once : (Tree.mapping number).Once cells target) {key : Data} {path : List Data}
    (here : (Tree.mapping number).at? cells (key :: path) = some (.mapping target)) : number ≠ target := by
  rintro rfl
  obtain ⟨place, length, stands⟩ := Tree.place_of_at here
  rw [once place [] stands rfl] at length
  cases length

/-- What stands under another key does not contain a mapping that stands in one place. -/
theorem once_elsewhere (proper : (cells.entries number).Proper)
    (once : (Tree.mapping number).Once cells target) {first key : Data} (fit : first.IsKey)
    {inner other : Tree} (known : (cells.entries number).get? first = some inner)
    (reach : inner.Reach cells target) (found : (cells.entries number).get? key = some other)
    (differs : first.equals key = false) : ¬other.Reach cells target := by
  intro also
  obtain ⟨one, one_key, one_here, one_same⟩ := Entries.place_of_get known
  obtain ⟨two, two_key, two_here, two_same⟩ := Entries.place_of_get found
  obtain ⟨below, stands⟩ := Tree.place_of_reach reach
  obtain ⟨under, also_stands⟩ := Tree.place_of_reach also
  have same := once (one :: below) (two :: under) (by rw [Tree.part_of_entry one_here, stands])
    (by rw [Tree.part_of_entry two_here, also_stands])
  cases (List.cons.inj same).1
  rw [one_here] at two_here
  cases two_here
  have known_fit := proper.keys _ (List.mem_of_getElem? one_here)
  have back := Data.equals_symm _ _ known_fit one_same
  rw [Data.equals_trans _ _ _ fit back two_same] at differs
  cases differs

theorem kept_of_agree {other : Tree} (agree : other.Agree cells after) (path : List Data) :
    other.Kept cells after path :=
  ⟨Tree.agree_at agree path, fun _ leads inner reach => agree inner (Tree.reach_of_at leads reach)⟩

theorem kept_below {key : Data} {path : List Data}
    (same : (after.entries number).get? key = (cells.entries number).get? key)
    (kept : ∀ inner, (cells.entries number).get? key = some inner → inner.Kept cells after path) :
    (Tree.mapping number).Kept cells after (key :: path) := by
  rw [Tree.Kept, Tree.at_mapping, Tree.at_mapping, same]
  cases known : (cells.entries number).get? key with
  | none => exact ⟨rfl, nofun⟩
  | some inner => exact kept inner known

/-- At a path that parts from the one that was given a value, everything is as it was. -/
theorem Replaced.kept (replaced : Replaced cells after target name tree (nested rest value))
    (proper : ∀ number, (cells.entries number).Proper) (leaves : Leaves cells number front target name rest)
    (closed : ∀ inner, (Tree.mapping number).Reach cells inner → inner < cells.size)
    (once : (Tree.mapping number).Once cells target) {keys : List Data}
    (apart : Apart (front ++ name :: rest) keys) : (Tree.mapping number).Kept cells after keys := by
  have fit : ∀ name, (Data.text name).IsKey := fun _ => rfl
  have outer : ∀ {number key inner}, (cells.entries number).get? key = some inner →
      ∀ other, inner.Reach cells other → (Tree.mapping number).Reach cells other := by
    intro number key inner known other reach
    obtain ⟨_, member, _⟩ := Entries.mem_of_get known
    exact Tree.reach_of_entry member reach
  obtain ⟨here, opened⟩ := leaves
  induction front generalizing number keys with
  | nil =>
      cases here
      cases keys with
      | nil => cases apart
      | cons key keys =>
          have put := Entries.get_put (fit name) tree (proper target).keys key
          by_cases same : (Data.text name).equals key = true
          · -- The path goes on into what was put, and no further there; before, it led to no mapping.
            rcases apart with differs | apart
            · rw [same] at differs
              cases differs
            · have more : rest ≠ [] := by
                rintro rfl
                cases apart
              have before : (Tree.mapping target).at? cells (key :: keys) = none := by
                obtain ⟨next, keys, rfl⟩ := List.exists_cons_of_ne_nil (show keys ≠ [] by
                  rintro rfl
                  cases rest <;> cases apart)
                rw [Tree.at_mapping, Entries.get_of_equal (fit name) same (proper target).keys]
                cases known : (cells.entries target).get? (.text name) with
                | none => rfl
                | some inner =>
                    cases inner with
                    | mapping inner => exact absurd known (opened more inner)
                    | _ => rfl
              refine ⟨?_, fun found leads => by rw [before] at leads; cases leads⟩
              rw [before, Tree.at_mapping, replaced.changed, put, if_pos same]
              exact Tree.made_apart replaced.made apart
          · refine kept_below (by rw [replaced.changed, put, if_neg same]) fun inner known => ?_
            refine kept_of_agree (replaced.agree (fun other reach => closed other (outer known other reach))
              fun reach => ?_) keys
            obtain ⟨place, _, there, _⟩ := Entries.place_of_get known
            obtain ⟨below, stands⟩ := Tree.place_of_reach reach
            have twice := once (place :: below) [] (by rw [Tree.part_of_entry there, stands]) rfl
            cases twice
  | cons first front ih =>
      have apart_target := once_apart once here
      obtain ⟨_, tree', same, known, leads⟩ := Tree.mapping_at here
      cases same
      obtain ⟨inner, rfl⟩ := Tree.mapping_of_at leads
      have unchanged := replaced.frame number (closed number (.here number)) apart_target
      cases keys with
      | nil => cases apart
      | cons key keys =>
          refine kept_below (by rw [unchanged]) fun other found => ?_
          by_cases same : (Data.text first).equals key = true
          · rcases apart with differs | apart
            · rw [same] at differs
              cases differs
            · rw [Entries.get_of_equal (fit first) same (proper number).keys, known] at found
              cases found
              obtain ⟨place, _, there, _⟩ := Entries.place_of_get known
              exact ih (fun inner reach => closed inner (outer known inner reach))
                (Tree.once_below there once) apart leads
          · have elsewhere := once_elsewhere (proper number) once (fit first) known
              (Tree.reach_of_at leads (.here target)) found (by simpa using same)
            exact kept_of_agree (replaced.agree (fun inner reach => closed inner (outer found inner reach))
              elsewhere) keys

/-- The mappings on the way to the one that changed are where they were. -/
theorem Replaced.way (replaced : Replaced cells after target name tree (nested rest value))
    (here : (Tree.mapping number).at? cells (keysOf front) = some (.mapping target))
    (closed : ∀ inner, (Tree.mapping number).Reach cells inner → inner < cells.size)
    (once : (Tree.mapping number).Once cells target) {before : List Text} (opening : before <+: front) :
    (Tree.mapping number).at? after (keysOf before) = (Tree.mapping number).at? cells (keysOf before) ∧
      ∃ inner, (Tree.mapping number).at? cells (keysOf before) = some (.mapping inner) := by
  induction before generalizing number front with
  | nil => exact ⟨rfl, number, rfl⟩
  | cons first before ih =>
      obtain ⟨_, front, rfl⟩ := List.exists_cons_of_ne_nil (opening.ne_nil (List.cons_ne_nil _ _))
      obtain ⟨rfl, below⟩ := List.cons_prefix_cons.mp opening
      have apart_target := once_apart once here
      obtain ⟨_, tree', same, known, leads⟩ := Tree.mapping_at here
      cases same
      obtain ⟨inner, rfl⟩ := Tree.mapping_of_at leads
      obtain ⟨place, other, there, _⟩ := Entries.place_of_get known
      have member := List.mem_of_getElem? there
      have unchanged := replaced.frame number (closed number (.here number)) apart_target
      have inside := ih leads (fun inner reach => closed inner (Tree.reach_of_entry member reach))
        (Tree.once_below there once) below
      rw [keysOf, List.map_cons, Tree.at_mapping, Tree.at_mapping, unchanged, known]
      exact inside

/-- The path leads into what was put. -/
theorem Replaced.into (replaced : Replaced cells after target name tree (nested rest value))
    (proper : ∀ number, (cells.entries number).Proper)
    (here : (Tree.mapping number).at? cells (keysOf front) = some (.mapping target))
    (closed : ∀ inner, (Tree.mapping number).Reach cells inner → inner < cells.size)
    (once : (Tree.mapping number).Once cells target) (path : List Text) :
    (Tree.mapping number).at? after (keysOf (front ++ name :: path)) = tree.at? after (keysOf path) := by
  have fit : (Data.text name).IsKey := rfl
  have way := (replaced.way here closed once (List.prefix_refl front)).1
  have self : (Data.text name).equals (.text name) = true := by
    rw [Json.text_equals, decide_eq_true rfl]
  rw [keysOf, List.map_append, Tree.at_append, ← keysOf, way, here, Option.bind_some, List.map_cons,
    Tree.at_mapping, replaced.changed, Entries.get_put fit _ (proper target).keys, if_pos self]
  rfl

/-- A mapping stands where it stood, or in what was put. -/
theorem Replaced.place (replaced : Replaced cells after target name tree (nested rest value))
    (proper : ∀ number, (cells.entries number).Proper) {other : Tree}
    (closed : ∀ inner, other.Reach cells inner → inner < cells.size) {place : List Nat} {found : Tree}
    (stands : other.part? after place = some found) :
    other.part? cells place = some found ∨
      ∃ outer first inner key, place = outer ++ first :: inner ∧
        other.part? cells outer = some (.mapping target) ∧
        ((cells.entries target).put (.text name) tree)[first]? = some (key, tree) ∧
        tree.part? after inner = some found := by
  induction place generalizing other with
  | nil => exact .inl stands
  | cons first place ih =>
      rw [Tree.part?] at stands
      split at stands
      · rename_i part here
        have onward : (other.inside cells)[first]? = some part →
            other.part? cells (first :: place) = some found ∨
              ∃ outer second inner key, first :: place = outer ++ second :: inner ∧
                other.part? cells outer = some (.mapping target) ∧
                ((cells.entries target).put (.text name) tree)[second]? = some (key, tree) ∧
                tree.part? after inner = some found := by
          intro there
          have member := List.mem_of_getElem? there
          rcases ih (fun inner reach => closed inner (.within member reach)) stands with
            before | ⟨outer, second, inner, key, rfl, led, entry, below⟩
          · exact .inl (by rw [Tree.part?, there]; exact before)
          · refine .inr ⟨first :: outer, second, inner, key, rfl, ?_, entry, below⟩
            rw [Tree.part?, there]
            exact led
        cases other with
        | leaf data => cases here
        | list items => exact onward here
        | tuple items => exact onward here
        | mapping number =>
            by_cases same : number = target
            · subst same
              rw [Tree.inside, replaced.changed, List.getElem?_map, Option.map_eq_some_iff] at here
              obtain ⟨⟨key, value⟩, entry, rfl⟩ := here
              rcases Entries.place_of_put (proper number) entry with rfl | ⟨before, _⟩
              · exact .inr ⟨[], first, place, key, rfl, rfl, entry, stands⟩
              · exact onward (by rw [Tree.inside, List.getElem?_map, before]; rfl)
            · rw [Tree.inside, replaced.frame number (closed number (.here number)) same] at here
              exact onward here
      · cases stands

/-- A mapping that stood in one place still does. -/
theorem Replaced.once_before (replaced : Replaced cells after target name tree (nested rest value))
    (proper : ∀ number, (cells.entries number).Proper) {other : Tree}
    (closed : ∀ inner, other.Reach cells inner → inner < cells.size) {kept : Nat}
    (inside : kept < cells.size) (once : other.Once cells kept) : other.Once after kept := by
  have before : ∀ place, other.part? after place = some (.mapping kept) →
      other.part? cells place = some (.mapping kept) := by
    intro place stands
    rcases replaced.place proper closed stands with before | ⟨_, _, inner, _, _, _, _, below⟩
    · exact before
    · exact absurd (replaced.fresh kept (Tree.reach_of_place below (.here kept))) (Nat.not_le.mpr inside)
  exact fun one two first second => once one two (before one first) (before two second)

/-- A mapping of what was put stands in one place if it stands in one place there. -/
theorem Replaced.once_put (replaced : Replaced cells after target name tree (nested rest value))
    (proper : ∀ number, (cells.entries number).Proper) {other : Tree}
    (closed : ∀ inner, other.Reach cells inner → inner < cells.size) (once : other.Once cells target)
    {added : Nat} (reach : tree.Reach after added)
    (strange : ∀ entry ∈ cells.entries target, entry.2 ≠ tree) (alone : tree.Once after added) :
    other.Once after added := by
  have fresh := replaced.fresh added reach
  have split : ∀ place, other.part? after place = some (.mapping added) →
      ∃ outer first inner key, place = outer ++ first :: inner ∧
        other.part? cells outer = some (.mapping target) ∧
        ((cells.entries target).put (.text name) tree)[first]? = some (key, tree) ∧
        tree.part? after inner = some (.mapping added) := by
    intro place stands
    rcases replaced.place proper closed stands with before | put
    · have inside := closed added (Tree.reach_of_place before (.here added))
      omega
    · exact put
  intro one two first second
  obtain ⟨outer, place, inner, key, rfl, led, here, below⟩ := split one first
  obtain ⟨outer', place', inner', key', rfl, led', here', below'⟩ := split two second
  rw [once outer outer' led led', alone inner inner' below below',
    Entries.put_one_place strange here here']

end Replaced

section Assigned

theorem prefix_split {before front rest : List Text} {name : Text}
    (opening : before <+: front ++ name :: rest) :
    before <+: front ∨ ∃ more, before = front ++ name :: more ∧ more <+: rest := by
  induction front generalizing before with
  | nil =>
      cases before with
      | nil => exact .inl (List.prefix_refl [])
      | cons first before =>
          obtain ⟨rfl, below⟩ := List.cons_prefix_cons.mp opening
          exact .inr ⟨before, rfl, below⟩
  | cons first front ih =>
      cases before with
      | nil => exact .inl List.nil_prefix
      | cons second before =>
          obtain ⟨rfl, below⟩ := List.cons_prefix_cons.mp opening
          rcases ih below with inside | ⟨more, rfl, within⟩
          · exact .inl (List.cons_prefix_cons.mpr ⟨rfl, inside⟩)
          · exact .inr ⟨more, rfl, within⟩

variable {so next : Configuration} {path : List Text} {value : Data}

/-- What giving a setting a value leads to where the path goes through mappings that stand in one place. -/
structure Given (so next : Configuration) (path : List Text) (value : Data) : Prop where
  root : next.root = so.root
  sound : next.Sound
  value : ∃ found, next.at? (keysOf path) = some found ∧ found.Made next.cells value
  way : ∀ front, front <+: path → front ≠ path →
    ∃ number, next.at? (keysOf front) = some (.mapping number)
  kept : ∀ keys, Apart path keys → so.Kept next keys
  solitary : ∀ other, ¬path <+: other → ¬other <+: path → so.Solitary other → next.Solitary other

theorem assigned_given (sound : so.Sound) (listed : path ≠ []) (proper : value.Proper)
    (solitary : so.Solitary path) : Given so (so.assigned path value) path value := by
  have next_sound := sound_assigned sound proper path
  obtain ⟨front, target, name, rest, rfl, leaves⟩ := leaves_exists so.cells path listed so.root
  obtain ⟨tree, replaced⟩ := assigned_replaced sound leaves value
  have once : (Tree.mapping so.root).Once so.cells target :=
    solitary front (List.prefix_append _ _) (by simp) target leaves.here
  have kept := fun {keys} => @Replaced.kept _ _ _ _ _ _ _ _ _ replaced sound.proper leaves sound.closed once keys
  have into := replaced.into sound.proper leaves.here sound.closed once
  refine ⟨rfl, next_sound, ?_, fun before opening differs => ?_, fun keys apart => ⟨rfl, kept apart⟩,
    fun other beyond within alone => ?_⟩
  · obtain ⟨found, leads, made⟩ := Tree.made_at replaced.made
    exact ⟨found, (into rest).trans leads, made⟩
  · rcases prefix_split opening with inside | ⟨more, rfl, within⟩
    · obtain ⟨same, inner, leads⟩ := replaced.way leaves.here sound.closed once inside
      exact ⟨inner, same.trans leads⟩
    · obtain ⟨inner, leads⟩ := Tree.made_way replaced.made within fun same => differs (by rw [same])
      exact ⟨inner, (into more).trans leads⟩
  · intro before opening differs number leads
    have old : so.at? (keysOf before) = some (.mapping number) →
        (Tree.mapping so.root).Once so.cells number →
        (Tree.mapping so.root).Once (so.assigned (front ++ name :: rest) value).cells number :=
      fun there alone => replaced.once_before sound.proper sound.closed
        (sound.closed number (Tree.reach_of_at there (.here number))) alone
    by_cases apart : Apart (front ++ name :: rest) (keysOf before)
    · have there := (kept apart).1.symm.trans leads
      exact old there (alone before opening differs number there)
    · have further : ¬front ++ name :: rest <+: before := fun goes => beyond (goes.trans opening)
      have inside : before <+: front ++ name :: rest := by
        by_contra other
        exact apart (apart_iff.mpr ⟨further, other⟩)
      have proper_inside : before ≠ front ++ name :: rest :=
        fun same => further (same ▸ List.prefix_refl _)
      rcases prefix_split inside with on_way | ⟨more, rfl, within⟩
      · have there := (replaced.way leaves.here sound.closed once on_way).1.symm.trans leads
        exact old there (solitary before inside proper_inside number there)
      · have shorter : more ≠ rest := fun same => proper_inside (by rw [same])
        have there := (into more).symm.trans leads
        have reach := Tree.reach_of_at there (.here number)
        refine replaced.once_put sound.proper sound.closed once reach (fun entry member same => ?_)
          (Tree.made_once replaced.made within shorter there)
        obtain ⟨_, _, rfl⟩ := List.exists_cons_of_ne_nil (fun empty : rest = [] => shorter (by
          rw [empty] at within ⊢
          exact List.prefix_nil.mp within))
        obtain ⟨outer, _, same_tree, _⟩ := made_nested replaced.made
        have fresh := replaced.fresh outer (same_tree ▸ .here outer)
        have inside := reach_lt sound.all ((sound.all target).2 entry member)
          (show entry.2.Reach so.cells outer from same.trans same_tree ▸ .here outer)
        omega

end Assigned

end PageTemplates.Configuration
