import PageTemplates.Proofs.Configuration.Shown

/-!
Configurations that are equal as mappings. The cells in which mappings are kept may be numbered in another
way and shared in another way; what counts is what the keys lead to. Since a mapping may contain itself,
equality is told by a pairing of trees that holds at the root and is kept by every step inward.
-/

namespace PageTemplates.Configuration

/-- Two trees are of one kind, and what stands inside them is paired: items in order, and the values of
a mapping by key. -/
inductive Tree.Matches (cells others : Cells) (pairs : Tree → Tree → Prop) : Tree → Tree → Prop where
  | leaf (data : Data) : Matches cells others pairs (.leaf data) (.leaf data)
  | list {items more : List Tree} (each : List.Forall₂ pairs items more) :
    Matches cells others pairs (.list items) (.list more)
  | tuple {items more : List Tree} (each : List.Forall₂ pairs items more) :
    Matches cells others pairs (.tuple items) (.tuple more)
  | mapping {number other : Nat} (each : ∀ key, Option.Rel pairs ((cells.entries number).get? key)
      ((others.entries other).get? key)) :
    Matches cells others pairs (.mapping number) (.mapping other)

theorem Tree.Matches.mono {cells others : Cells} {pairs more : Tree → Tree → Prop}
    (weaker : ∀ one two, pairs one two → more one two) {one two : Tree}
    (matching : Matches cells others pairs one two) : Matches cells others more one two := by
  cases matching with
  | leaf data => exact .leaf data
  | list each => exact .list (each.imp weaker)
  | tuple each => exact .tuple (each.imp weaker)
  | mapping each =>
      refine .mapping fun key => ?_
      have values := each key
      revert values
      generalize Entries.get? key _ = first
      generalize Entries.get? key _ = second
      rintro (inner | _)
      · exact .some (weaker _ _ inner)
      · exact .none

/-- Two configurations are equal as mappings. -/
def Alike (so other : Configuration) : Prop :=
  ∃ pairs : Tree → Tree → Prop, pairs (.mapping so.root) (.mapping other.root) ∧
    ∀ one two, pairs one two → Tree.Matches so.cells other.cells pairs one two

section Alike

variable {so other : Configuration}

/-- What alike configurations have at a path is paired. -/
theorem Alike.at_path (alike : so.Alike other) :
    ∃ pairs, (∀ one two, pairs one two → Tree.Matches so.cells other.cells pairs one two) ∧
      ∀ path, Option.Rel pairs (so.at? path) (other.at? path) := by
  obtain ⟨pairs, root, step⟩ := alike
  have below : ∀ (path : List Data) one two, pairs one two →
      Option.Rel pairs (one.at? so.cells path) (two.at? other.cells path) := by
    intro path
    induction path with
    | nil => exact fun one two paired => .some paired
    | cons key path ih =>
        intro one two paired
        cases step one two paired with
        | leaf data => exact .none
        | list each => exact .none
        | tuple each => exact .none
        | @mapping number number' each =>
            rw [Tree.at_mapping, Tree.at_mapping]
            have values := each key
            generalize (so.cells.entries number).get? key = first at values
            generalize (other.cells.entries number').get? key = second at values
            cases values with
            | some inner => exact ih _ _ inner
            | none => exact .none
  exact ⟨pairs, step, fun path => below path _ _ root⟩

/-- Alike configurations have the same simple settings at the same paths. -/
theorem Alike.leaf_iff (alike : so.Alike other) {path : List Data} {data : Data} :
    so.at? path = some (.leaf data) ↔ other.at? path = some (.leaf data) := by
  obtain ⟨pairs, step, paired⟩ := alike.at_path
  have both := paired path
  constructor
  · intro leads
    rw [leads] at both
    generalize other.at? path = found at both
    cases both with
    | some values =>
        cases step _ _ values
        rfl
  · intro leads
    rw [leads] at both
    generalize so.at? path = found at both
    cases both with
    | some values =>
        cases step _ _ values
        rfl

end Alike

/-- A tree that is made of data: each dictionary is a mapping with the same keys in the same order, and
all else stands for itself. -/
inductive Tree.Made (cells : Cells) : Tree → Data → Prop where
  | leaf {data : Data} (simple : ∀ entries, data ≠ .dict entries) : Made cells (.leaf data) data
  | mapping {number : Nat} {data : List (Data × Data)}
    (keys : (cells.entries number).map Prod.fst = data.map Prod.fst)
    (each : ∀ (place : Nat) entry pair, (cells.entries number)[place]? = some entry →
      data[place]? = some pair → Made cells entry.2 pair.2) :
    Made cells (.mapping number) (.dict data)

namespace Tree

section

variable {cells others : Cells} {tree : Tree} {data : Data}

theorem Made.shows (made : tree.Made cells data) : tree.Shows cells data := by
  induction made with
  | leaf simple => exact .leaf _
  | mapping keys _ ih => exact .mapping keys ih

theorem made_of_agree (agree : tree.Agree cells others) (made : tree.Made cells data) :
    tree.Made others data := by
  induction made with
  | leaf simple => exact .leaf simple
  | @mapping number data keys _ ih =>
      have same := agree number (.here number)
      refine .mapping (by rw [same]; exact keys) fun place entry pair here there => ?_
      rw [same] at here
      exact ih place entry pair here there
        (agree_part agree (List.mem_map_of_mem (List.mem_of_getElem? here)))

theorem made_shifted {count : Nat} (behind : Behind cells others count) (made : tree.Made cells data) :
    (tree.shifted count).Made others data := by
  induction made with
  | leaf simple => exact .leaf simple
  | @mapping number data keys _ ih =>
      have same := behind number
      refine .mapping ?_ fun place entry pair here there => ?_
      · rw [same, Entries.shifted, List.map_map, ← keys]
        rfl
      · rw [same, Entries.shifted, List.getElem?_map, Option.map_eq_some_iff] at here
        obtain ⟨before, here, rfl⟩ := here
        exact ih place before pair here there

end

end Tree

/-- Values by key are paired if the keys are the same and the values are paired place by place. -/
theorem get_paired {pairs : Tree → Tree → Prop} {first second : Entries}
    (keys : first.map Prod.fst = second.map Prod.fst)
    (each : ∀ (place : Nat) one two, first[place]? = some one → second[place]? = some two →
      pairs one.2 two.2) (key : Data) : Option.Rel pairs (first.get? key) (second.get? key) := by
  induction first generalizing second with
  | nil =>
      cases second with
      | nil => exact .none
      | cons entry rest => cases keys
  | cons entry rest ih =>
      cases second with
      | nil => cases keys
      | cons other others =>
          obtain ⟨same, keys⟩ := List.cons.inj keys
          rw [Entries.get_cons, Entries.get_cons, show other.1 = entry.1 from same.symm]
          split
          · exact .some (each 0 entry other rfl rfl)
          · exact ih keys fun place one two here there => each (place + 1) one two here there

/-- Trees that are made of the same data match. -/
theorem matches_of_made {cells others : Cells} {one two : Tree} {data : Data}
    (first : one.Made cells data) (second : two.Made others data) :
    Tree.Matches cells others
      (fun one two => ∃ data, one.Made cells data ∧ two.Made others data) one two := by
  cases first with
  | leaf simple =>
      cases second with
      | leaf => exact .leaf data
      | @mapping _ entries => exact absurd rfl (simple entries)
  | @mapping number entries keys each =>
      cases second with
      | leaf simple => exact absurd rfl (simple entries)
      | @mapping other _ more also =>
          refine .mapping (get_paired (keys.trans more.symm) fun place entry pair here there => ?_)
          have within : place < entries.length := by
            have length := congrArg List.length keys
            rw [List.length_map, List.length_map] at length
            rw [← length]
            exact (List.getElem?_eq_some_iff.mp here).1
          have middle := List.getElem?_eq_getElem within
          exact ⟨_, each place entry _ here middle, also place pair _ there middle⟩

end PageTemplates.Configuration
