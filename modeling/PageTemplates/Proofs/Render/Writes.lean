import Mathlib.Data.List.Basic
import PageTemplates.Proofs.World
import PageTemplates.Render.Powers

/-!
What runs write. A run that comes to an end leaves a machine; outside of all captures, what it has
written stands before what was written earlier. Things are added to the world, and those that were there stay,
so what is known of them is known from then on.
-/

namespace PageTemplates

open Template (Slot Frame Load)

namespace World

/-- A thing is in a world. -/
def Has (world : World) (ref : Ref) (cell : Cell) : Prop :=
  ref < world.fresh ∧ world.cell? ref = some cell

/-- A world still has all that was in another one. -/
def Keeps (world later : World) : Prop :=
  world.fresh ≤ later.fresh ∧ ∀ ref < world.fresh, later.cell? ref = world.cell? ref

variable {world between later : World} {ref other : Ref} {cell : Cell}

theorem Keeps.refl (world : World) : world.Keeps world := ⟨Nat.le_refl _, fun _ _ => rfl⟩

theorem Keeps.trans (first : world.Keeps between) (second : between.Keeps later) :
    world.Keeps later := by
  refine ⟨Nat.le_trans first.1 second.1, fun ref inside => ?_⟩
  rw [second.2 ref (Nat.lt_of_lt_of_le inside first.1), first.2 ref inside]

theorem Has.kept (here : world.Has ref cell) (keeps : world.Keeps later) : later.Has ref cell :=
  ⟨Nat.lt_of_lt_of_le here.1 keeps.1, (keeps.2 ref here.1).trans here.2⟩

theorem add_has (world : World) (cell : Cell) : (world.add cell).2.Has world.fresh cell := by
  refine ⟨Nat.lt_succ_self _, ?_⟩
  exact (cell_put world _ _ cell).trans (if_pos rfl)

theorem add_keeps (world : World) (cell : Cell) : world.Keeps (world.add cell).2 := by
  refine ⟨Nat.le_succ _, fun ref inside => ?_⟩
  exact (cell_put world _ _ cell).trans (if_neg (Nat.ne_of_lt inside))

theorem put_has (here : ref < world.fresh) : (world.put ref cell).Has ref cell :=
  ⟨here, (cell_put world _ _ cell).trans (if_pos rfl)⟩

theorem Has.put_other {changed : Cell} (here : world.Has ref cell) (apart : ref ≠ other) :
    (world.put other changed).Has ref cell :=
  ⟨here.1, (cell_put world _ _ changed).trans ((if_neg apart).trans here.2)⟩

/-- Changes of things that were added later leave the earlier ones. -/
theorem Keeps.put (keeps : world.Keeps later) (new : world.fresh ≤ other) {changed : Cell} :
    world.Keeps (later.put other changed) := by
  refine ⟨keeps.1, fun ref inside => ?_⟩
  rw [cell_put, if_neg (Nat.ne_of_lt (Nat.lt_of_lt_of_le inside new)), keeps.2 ref inside]

end World

/-- Between two machines things are added to the world, and nothing is written. -/
structure Machine.Grew (before after : Machine) : Prop where
  keeps : before.world.Keeps after.world
  captures : after.captures = before.captures
  emissions : after.emissions = before.emissions

namespace Machine

variable {before between after : Machine}

theorem Grew.refl (machine : Machine) : machine.Grew machine := ⟨.refl _, rfl, rfl⟩

theorem Grew.trans (early : before.Grew between) (late : between.Grew after) : before.Grew after :=
  ⟨early.keeps.trans late.keeps, late.captures.trans early.captures,
    late.emissions.trans early.emissions⟩

theorem grew_adding (before : Machine) (cell : Cell) :
    before.Grew { before with world := (before.world.add cell).2 } :=
  ⟨World.add_keeps _ _, rfl, rfl⟩

end Machine

/-- Between two machines outside of all captures a text is written. -/
structure Machine.Wrote (before after : Machine) (text : Text) : Prop where
  captures : after.captures = []
  emitted : ∃ (emissions : List Emission) (texts : List Text),
    after.emissions = emissions.reverse ++ before.emissions ∧
      (emissions.map fun emission => emission.chunk.text?) = texts.map some ∧ texts.flatten = text

namespace Machine

variable {before between after : Machine} {first second text : Text}

theorem Wrote.nothing (captures : after.captures = []) (emissions : after.emissions = before.emissions) :
    before.Wrote after [] :=
  ⟨captures, [], [], by simp [emissions], rfl, rfl⟩

theorem Wrote.since (wrote : between.Wrote after first)
    (same : between.emissions = before.emissions) : before.Wrote after first := by
  obtain ⟨emissions, texts, emitted, shown, whole⟩ := wrote.emitted
  exact ⟨wrote.captures, emissions, texts, by rw [emitted, same], shown, whole⟩

theorem Wrote.trans (early : before.Wrote between first) (late : between.Wrote after second) :
    before.Wrote after (first ++ second) := by
  obtain ⟨chunks, texts, emitted, shown, rfl⟩ := early.emitted
  obtain ⟨others, more, later, told, rfl⟩ := late.emitted
  refine ⟨late.captures, chunks ++ others, texts ++ more, ?_, ?_, by simp⟩
  · rw [later, emitted]
    simp
  · rw [List.map_append, shown, told, List.map_append]

end Machine

namespace Run

variable {Result First : Type} {setting : Setting} {before between after : Machine}

/-- A run comes to a result and leaves a machine. -/
def Gives (run : Run Result) (setting : Setting) (before : Machine) (result : Result)
    (after : Machine) : Prop :=
  run setting before = .ok result after

theorem gives_pure (result : Result) : (pure result : Run Result).Gives setting before result before :=
  rfl

theorem gives_bind {run : Run First} {more : First → Run Result} {first : First} {result : Result}
    (given : run.Gives setting before first between)
    (followed : (more first).Gives setting between result after) :
    (run >>= more).Gives setting before result after := by
  change EStateM.bind (run setting) (fun first => more first setting) before = _
  unfold EStateM.bind
  rw [given]
  exact followed

theorem gives_world : world.Gives setting before before.world before := rfl

theorem gives_height : captureHeight.Gives setting before before.captures.length before := rfl

theorem gives_allocate (cell : Cell) :
    (allocate cell).Gives setting before before.world.fresh
      { before with world := (before.world.add cell).2 } := rfl

theorem gives_cell (ref : Ref) :
    (cell ref).Gives setting before (before.world.cell? ref) before := rfl

theorem gives_put (ref : Ref) (cell : Cell) :
    (put ref cell).Gives setting before () { before with world := before.world.put ref cell } := rfl

/-- What is known of a world stays known as things are added to it. -/
def Lasting (known : World → Prop) : Prop :=
  ∀ world later, World.Keeps world later → known world → known later

/-- With something known of the world, a run writes a text and keeps all that was there. -/
def Writes (run : Run Unit) (setting : Setting) (known : World → Prop) (text : Text) : Prop :=
  ∀ before : Machine, before.captures = [] → known before.world →
    ∃ after, run.Gives setting before () after ∧ before.Wrote after text ∧
      before.world.Keeps after.world

variable {known : World → Prop}

theorem writes_pure : (pure () : Run Unit).Writes setting known [] :=
  fun before outside _ => ⟨before, rfl, .nothing outside rfl, .refl _⟩

theorem writes_bind {run : Run Unit} {more : Unit → Run Unit} {first second : Text}
    (lasting : Lasting known) (early : run.Writes setting known first)
    (late : (more ()).Writes setting known second) :
    (run >>= more).Writes setting known (first ++ second) := by
  intro before outside there
  obtain ⟨between, given, wrote, keeps⟩ := early before outside there
  obtain ⟨after, followed, added, grows⟩ :=
    late between wrote.captures (lasting _ _ keeps there)
  exact ⟨after, gives_bind given followed, wrote.trans added, keeps.trans grows⟩

theorem writes_forM {Item : Type} {action : Item → Run Unit} {text : Item → Text}
    (lasting : Lasting known) {items : List Item}
    (each : ∀ item ∈ items, (action item).Writes setting known (text item)) :
    (items.forM action).Writes setting known (items.flatMap text) := by
  induction items with
  | nil => exact writes_pure
  | cons first rest ih =>
      obtain ⟨here, others⟩ := List.forall_mem_cons.mp each
      rw [List.flatMap_cons]
      exact writes_bind lasting here (ih others)

/-- What comes after a value that was made without writing is written. -/
theorem writes_after {run : Run First} {more : First → Run Unit} {first : First} {text : Text}
    (lasting : Lasting known)
    (made : ∀ before : Machine, known before.world →
      ∃ between, run.Gives setting before first between ∧ before.Grew between)
    (written : (more first).Writes setting known text) :
    (run >>= more).Writes setting known text := by
  intro before outside there
  obtain ⟨between, given, grew⟩ := made before there
  obtain ⟨after, followed, wrote, grows⟩ :=
    written between (grew.captures.trans outside) (lasting _ _ grew.keeps there)
  exact ⟨after, gives_bind given followed, wrote.since grew.emissions, grew.keeps.trans grows⟩

theorem writes_chunk {chunk : Value} {text : Text} (shown : chunk.text? = some text) :
    (emit chunk).Writes setting known text := by
  intro before outside _
  refine ⟨{ before with emissions := ⟨chunk, before.world⟩ :: before.emissions }, ?_, ?_, .refl _⟩
  · unfold Gives emit
    change EStateM.Result.ok () _ = _
    simp only [outside]
  · exact ⟨outside, [⟨chunk, before.world⟩], [text], rfl, by simp [shown], by simp⟩

end Run

end PageTemplates
