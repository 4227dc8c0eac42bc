import Mathlib.Data.List.Basic
import PageTemplates.Render.Variables

/-!
What is found in a world after a change: the thing under a reference, and the value of a variable.
-/

namespace PageTemplates

/-- Whether a thing stays as it is unless code assigns to it: what data is made of, or the variables of
a run. -/
@[simp, grind =]
def Cell.isStill : Cell → Bool
  | .list _ => true
  | .dict _ => true
  | .set _ => true
  | .mapping _ => true
  | .object _ => true
  | .sealed => true
  | .explosive => true
  | .activation _ => true
  | .iterator _ _ => false
  | .namespace _ => false
  | .cycler _ _ => false
  | .joiner _ _ => false
  | .loop _ => false
  | .module _ _ _ => false
  | .macroOf _ => false
  | .context _ => false

namespace World

theorem cell_put (world : World) (ref other : Ref) (cell : Cell) :
    (world.put ref cell).cell? other = if other = ref then some cell else world.cell? other := by
  unfold put cell?
  rw [Std.TreeMap.getElem?_insert]
  by_cases same : other = ref
  · rw [if_pos same, if_pos (Std.compare_eq_iff_eq.mpr same.symm)]
  · rw [if_neg same, if_neg fun equal => same (Std.compare_eq_iff_eq.mp equal).symm]

theorem cell_add (world : World) (other : Ref) (cell : Cell) :
    (world.add cell).2.cell? other = if other = world.fresh then some cell else world.cell? other :=
  cell_put world world.fresh other cell

end World

namespace Run

theorem lookup_put_pair {Key : Type} [DecidableEq Key] [BEq Key] [LawfulBEq Key] (key other : Key)
    (content : Value) (entries : List (Key × Value)) :
    (putPair key content entries).lookup other =
      if other = key then some content else entries.lookup other := by
  induction entries with
  | nil =>
      rw [putPair, List.lookup_cons]
      by_cases same : other = key
      · simp [same]
      · have passed : (other == key) = false := by simpa using same
        simp [same, passed]
  | cons first rest ih =>
      obtain ⟨place, old⟩ := first
      rw [putPair]
      by_cases here : place = key
      · subst here
        rw [if_pos (by simp), List.lookup_cons, List.lookup_cons]
        by_cases same : other = place
        · simp [same]
        · have passed : (other == place) = false := by simpa using same
          simp [same, passed]
      · rw [if_neg (by simpa using here), List.lookup_cons, List.lookup_cons, ih]
        by_cases same : other = place
        · subst same
          simp [here]
        · have passed : (other == place) = false := by simpa using same
          simp [passed]

theorem activation_of_cell {world : World} {address : Ref} {state : Activation}
    (there : world.cell? address = some (.activation state)) :
    activation? world address = some state := by
  rw [activation?, there]

theorem cell_of_activation {world : World} {address : Ref} {state : Activation}
    (there : activation? world address = some state) :
    world.cell? address = some (.activation state) := by
  unfold activation? at there
  split at there <;> cases there
  assumption

/-- A variable that has a value keeps it as long as no variables are set. -/
theorem slot_stays {before after : World}
    (stays : ∀ address state, before.cell? address = some (.activation state) →
      after.cell? address = some (.activation state))
    {slot : Template.Slot} {bound : Nat} {address : Ref} {value : Value}
    (found : findSlot before slot bound address = some value) :
    findSlot after slot bound address = some value := by
  induction bound generalizing address with
  | zero => cases found
  | succ bound ih =>
      unfold findSlot at found ⊢
      cases there : activation? before address with
      | none =>
          rw [there] at found
          cases found
      | some state =>
          rw [activation_of_cell (stays address state (cell_of_activation there))]
          rw [there] at found
          dsimp only at found ⊢
          cases own : state.slots.lookup slot with
          | some held =>
              rw [own] at found
              exact found
          | none =>
              rw [own] at found
              cases outer : state.outer with
              | none =>
                  rw [outer] at found
                  cases found
              | some above =>
                  rw [outer] at found
                  exact ih found

/-- Giving one variable a value leaves the others as they are. -/
theorem slot_put {world : World} {place : Ref} {state : Activation} {slot own : Template.Slot}
    (there : activation? world place = some state) (apart : slot ≠ own) (value : Value)
    (bound : Nat) (address : Ref) :
    findSlot (world.put place (.activation { state with slots := putPair own value state.slots }))
      slot bound address = findSlot world slot bound address := by
  induction bound generalizing address with
  | zero => rfl
  | succ bound ih =>
      unfold findSlot
      by_cases same : address = place
      · subst same
        rw [activation_of_cell ((World.cell_put _ _ _ _).trans (if_pos rfl)), there]
        simp only [lookup_put_pair, if_neg apart, funext ih]
      · have other : activation? (world.put place (.activation
            { state with slots := putPair own value state.slots })) address =
              activation? world address := by
          rw [activation?, World.cell_put, if_neg same, activation?]
        rw [other, funext ih]

end Run

end PageTemplates
