import Mathlib
import PageTemplates.Proofs.Sandbox.Watch

/-!
The steps that runs are made of obey: reading and changing the world, failing, writing, capturing,
calling back, and going on after a failure. So do lists of runs.
-/

namespace PageTemplates.Run

open Std.Do

set_option mvcgen.warning false

variable [Regime] [Watch] {Result : Type}

omit [Regime] [Watch] in
theorem bind_run {First : Type} (first : Run First) (rest : First → Run Result) (setting : Setting)
    (machine : Machine) :
    (first >>= rest) setting machine =
      match first setting machine with
      | .ok result machine => rest result setting machine
      | .error failure machine => .error failure machine := by
  change EStateM.bind (first setting) (fun result => rest result setting) machine = _
  unfold EStateM.bind
  cases first setting machine <;> rfl

omit [Regime] [Watch] in
theorem world_run (setting : Setting) (machine : Machine) :
    world setting machine = .ok machine.world machine := rfl

omit [Regime] [Watch] in
theorem cell_run (address : Ref) (setting : Setting) (machine : Machine) :
    cell address setting machine = .ok (machine.world.cell? address) machine := rfl

omit [Regime] [Watch] in
theorem environment_run (setting : Setting) (machine : Machine) :
    environment setting machine = .ok setting.environment machine := rfl

theorem keeps_bind {First : Type} {middle : First → Prop} {good : Result → Prop}
    {first : Run First} {rest : First → Run Result} (starts : ⦃watched⦄ first ⦃ending middle⦄)
    (goes : ∀ result, middle result → ⦃watched⦄ rest result ⦃ending good⦄) :
    ⦃watched⦄ (first >>= rest) ⦃ending good⦄ := by
  refine triple_iff.2 fun setting sound machine going => ?_
  have held := triple_iff.1 starts setting sound machine going
  rw [bind_run]
  cases outcome : first setting machine with
  | ok result after =>
    rw [outcome] at held
    exact triple_iff.1 (goes result held.2) setting sound after held.1
  | error failure after =>
    rw [outcome] at held
    exact held

theorem keeps_pure {good : Result → Prop} {result : Result} (fine : good result) :
    ⦃watched⦄ (pure result : Run Result) ⦃ending good⦄ :=
  triple_iff.2 fun _ _ _ going => ⟨going, fine⟩

section Steps

@[spec]
theorem keeps_world : ⦃watched⦄ world ⦃kept⦄ := by
  refine triple_iff.2 fun setting sound machine going => ?_
  exact ⟨going, going.world⟩

@[spec]
theorem keeps_fail (failure : Failure) :
    ⦃watched⦄ (fail failure : Run Result) ⦃ending fun _ => False⦄ := by
  refine triple_iff.2 fun setting sound machine going => ?_
  exact ⟨going.toSound, .inl going.world, fun counts => .inl (going.unrefused counts)⟩

@[spec]
theorem keeps_refuse (message : Text) (refusal : Failure.IsRefusal ⟨.templateFailed, message⟩) :
    ⦃watched⦄ (refuse message : Run Result) ⦃ending fun _ => False⦄ := by
  refine triple_iff.2 fun setting sound machine going => ?_
  refine ⟨⟨going.captures, going.emissions⟩, .inl going.world, fun counts => .inr ⟨?_, refusal⟩⟩
  exact congrArg (· + 1) (going.unrefused counts)

@[spec]
theorem keeps_environment : ⦃watched⦄ environment
    ⦃ending fun environment => environment = Regime.environment ∧ harmless environment.globals⦄ := by
  refine triple_iff.2 fun setting sound machine going => ?_
  exact ⟨going, sound.environment, sound.globals⟩

@[spec]
theorem keeps_call (context : Option Ref) (target : Value) (given : Given)
    (targetFine : harmless target) (givenFine : harmless given) :
    ⦃watched⦄ call context target given ⦃kept⦄ := by
  refine triple_iff.2 fun setting sound => ?_
  exact sound.powers.call context target given targetFine givenFine

@[spec]
theorem keeps_advance (iterator : Ref) : ⦃watched⦄ advance iterator ⦃kept⦄ := by
  refine triple_iff.2 fun setting sound => ?_
  exact sound.powers.advance iterator

/-- The thing of a reference; one that is held is of a kind that stays as it is. -/
@[spec]
theorem keeps_cell (address : Ref) : ⦃watched⦄ cell address
    ⦃ending fun found => harmless found ∧ (Held address → found.all Cell.isStill = true)⦄ := by
  refine triple_iff.2 fun setting sound machine going => ?_
  have world : machine.world.Sound := going.world
  refine ⟨going, fun found there => world.cell there, fun held => ?_⟩
  exact (Option.all_eq_true _ _).2 fun found there => world.still there held

theorem keeps_setWorld (change : World → World)
    (fine : ∀ world : World, harmless world → harmless (change world)) :
    ⦃watched⦄ (do setWorld (change (← world))) ⦃kept⦄ := by
  refine triple_iff.2 fun setting sound machine going => ?_
  exact ⟨⟨⟨going.captures, going.emissions⟩, fine _ going.world, going.unrefused⟩, trivial⟩

@[spec]
theorem keeps_put (address : Ref) (cell : Cell) (fine : harmless cell)
    (other : cell.isActivation = false) (free : ¬ Held address) :
    ⦃watched⦄ put address cell ⦃kept⦄ :=
  keeps_setWorld (fun world => world.put address cell) fun _ sound =>
    World.Sound.put sound fine (fun here => absurd (other.symm.trans here) Bool.false_ne_true) free

/-- A new thing is not held. -/
@[spec]
theorem keeps_allocate (cell : Cell) (fine : harmless cell) :
    ⦃watched⦄ allocate cell ⦃ending fun address => ¬ Held address⦄ := by
  refine triple_iff.2 fun setting sound machine going => ?_
  exact ⟨⟨⟨going.captures, going.emissions⟩, World.Sound.add going.world fine, going.unrefused⟩,
    World.Sound.fresh_free going.world⟩

/-- A change of what is captured and written. -/
theorem keeps_modify (change : Machine → Machine)
    (fine : ∀ machine : Machine, machine.Going → (change machine).Going) :
    ⦃watched⦄ (modify change : Run Unit) ⦃kept⦄ := by
  refine triple_iff.2 fun setting sound machine going => ?_
  exact ⟨fine machine going, trivial⟩

theorem emitted {machine : Machine} (going : machine.Going) (chunk : Value) :
    Machine.Going { machine with emissions := ⟨chunk, machine.world⟩ :: machine.emissions } where
  world := going.world
  captures := going.captures
  emissions := by
    obtain ⟨later, same, sound⟩ := going.emissions
    exact ⟨⟨chunk, machine.world⟩ :: later, congrArg _ same,
      List.forall_mem_cons.2 ⟨going.world, sound⟩⟩
  unrefused := going.unrefused

theorem recaptured {machine : Machine} (going : machine.Going) {captures : List (List Value)}
    (fine : harmless captures) : Machine.Going { machine with captures := captures } where
  world := going.world
  captures := fine
  emissions := going.emissions
  unrefused := going.unrefused

@[spec]
theorem keeps_emit (chunk : Value) (fine : harmless chunk) : ⦃watched⦄ emit chunk ⦃kept⦄ := by
  refine keeps_modify _ fun machine going => ?_
  split
  · exact emitted going chunk
  · rename_i capture outer captures
    have before : harmless (capture :: outer) := captures ▸ going.captures
    refine recaptured going ?_
    grind

omit [Watch] in
theorem insert_harmless {chunk : Value} (fine : harmless chunk) (height : Nat) :
    ∀ {captures : List (List Value)}, harmless captures →
      harmless (insertCapture chunk height captures)
  | [], holds => holds
  | capture :: outer, holds => by
    have rest := insert_harmless fine height (show harmless outer by grind)
    unfold insertCapture
    grind

@[spec]
theorem keeps_emitAt (height : Nat) (chunk : Value) (fine : harmless chunk) :
    ⦃watched⦄ emitAt height chunk ⦃kept⦄ := by
  unfold emitAt
  split
  · exact keeps_modify _ fun machine going => emitted going chunk
  · exact keeps_modify _ fun machine going =>
      recaptured going (insert_harmless fine height going.captures)

@[spec]
theorem keeps_captureHeight : ⦃watched⦄ captureHeight ⦃kept⦄ := by
  mvcgen [captureHeight]

@[spec]
theorem keeps_openCapture : ⦃watched⦄ openCapture ⦃kept⦄ := by
  refine keeps_modify _ fun machine going => recaptured going ?_
  have captures := going.captures
  grind

@[spec]
theorem keeps_captured : ⦃watched⦄ captured ⦃kept⦄ := by
  refine triple_iff.2 fun setting sound machine going => ⟨going, ?_⟩
  have captures := going.captures
  cases shape : machine.captures <;> grind

@[spec]
theorem keeps_closeCapture : ⦃watched⦄ closeCapture ⦃kept⦄ := by
  refine keeps_modify _ fun machine going => recaptured going ?_
  exact fun capture inside => going.captures capture (List.mem_of_mem_drop inside)

@[spec]
theorem keeps_closeCapturesTo (height : Nat) : ⦃watched⦄ closeCapturesTo height ⦃kept⦄ := by
  refine keeps_modify _ fun machine going => recaptured going ?_
  exact fun capture inside => going.captures capture (List.mem_of_mem_drop inside)

omit [Regime] [Watch] in
theorem recovering_run (attempt : Run Result) (handles : Failure → Bool)
    (otherwise : Failure → Run Result) (setting : Setting) (machine : Machine) :
    recovering attempt handles otherwise setting machine =
      match attempt setting machine with
      | .ok result after => .ok result after
      | .error failure after =>
        if handles failure then
          (do closeCapturesTo machine.captures.length; otherwise failure : Run Result) setting after
        else .error failure after := by
  change (tryCatch attempt _ : Run Result) setting machine = _
  change EStateM.tryCatch (attempt setting) _ machine = _
  unfold EStateM.tryCatch
  cases outcome : attempt setting machine with
  | ok result after => rfl
  | error failure after =>
    dsimp only
    split <;> rfl

/-- A handler that leaves refusals and broken lists alone goes on from a machine that can go on. -/
theorem ends_recovering {good : Result → Prop} (attempt : Run Result) (handles : Failure → Bool)
    (otherwise : Failure → Run Result) (first : ⦃watched⦄ attempt ⦃ending good⦄)
    (second : ∀ failure, ⦃watched⦄ otherwise failure ⦃ending good⦄)
    (leaves : ∀ failure, handles failure = true → failure.IsCommon) :
    ⦃watched⦄ recovering attempt handles otherwise ⦃ending good⦄ := by
  refine triple_iff.2 fun setting sound machine going => ?_
  have held := triple_iff.1 first setting sound machine going
  rw [recovering_run]
  cases outcome : attempt setting machine with
  | ok result after => simpa only [outcome] using held
  | error failure after =>
    rw [outcome] at held
    by_cases handled : handles failure = true
    · have going : after.Going := held.goes (leaves failure handled)
      have goes : ⦃watched⦄ (do closeCapturesTo machine.captures.length; otherwise failure)
          ⦃ending good⦄ := by
        have rest := second failure
        mvcgen [rest]
        grind
      simp only [handled, if_true]
      exact triple_iff.1 goes setting sound after going
    · simp only [handled, if_false, Bool.false_eq_true]
      exact held

@[spec]
theorem keeps_recovering [Checkable Result] (attempt : Run Result) (handles : Failure → Bool)
    (otherwise : Failure → Run Result) (first : ⦃watched⦄ attempt ⦃kept⦄)
    (second : ∀ failure, ⦃watched⦄ otherwise failure ⦃kept⦄)
    (leaves : ∀ failure, handles failure = true → failure.IsCommon) :
    ⦃watched⦄ recovering attempt handles otherwise ⦃kept⦄ :=
  ends_recovering attempt handles otherwise first second leaves

@[spec]
theorem keeps_attempt [Checkable Result] (run : Run Result) (handles : Failure → Bool)
    (keeps : ⦃watched⦄ run ⦃kept⦄)
    (leaves : ∀ failure, handles failure = true → failure.IsCommon) :
    ⦃watched⦄ attempt run handles ⦃kept⦄ := by
  refine keeps_recovering _ _ _ ?_ (fun failure => ?_) leaves
  · mvcgen [keeps]
    all_goals grind -ring -linarith -order
  · mvcgen
    grind

@[spec]
theorem keeps_requireRoom (size : Nat) : ⦃watched⦄ requireRoom size ⦃kept⦄ := by
  mvcgen [requireRoom]
  all_goals grind -ring -linarith -order

@[spec]
theorem keeps_new (cell : Cell) (fine : harmless cell) : ⦃watched⦄ new cell ⦃kept⦄ := by
  mvcgen [new]
  all_goals grind -ring -linarith -order

@[spec]
theorem keeps_newList (items : List Value) (fine : harmless items) :
    ⦃watched⦄ newList items ⦃kept⦄ := by
  mvcgen [newList]
  all_goals grind -ring -linarith -order

@[spec]
theorem keeps_newDict (entries : List (Value × Value)) (fine : harmless entries) :
    ⦃watched⦄ newDict entries ⦃kept⦄ := by
  mvcgen [newDict]
  all_goals grind -ring -linarith -order

@[spec]
theorem keeps_className (value : Value) : ⦃watched⦄ className value ⦃kept⦄ := by
  mvcgen [className]
  all_goals grind -ring -linarith -order

@[spec]
theorem keeps_bareClassName (value : Value) : ⦃watched⦄ bareClassName value ⦃kept⦄ := by
  mvcgen [bareClassName]
  all_goals grind -ring -linarith -order

@[spec]
theorem keeps_escapingOwner (address : Ref) : ⦃watched⦄ escapingOwner address ⦃kept⦄ := by
  mvcgen [escapingOwner]
  case vc6 => rename_i found; exact ⟨found.1, trivial, harmless_default_context⟩
  all_goals grind -ring -linarith -order

@[spec]
theorem keeps_escaping (address : Ref) : ⦃watched⦄ escaping address ⦃kept⦄ := by
  mvcgen [escaping]
  all_goals grind -ring -linarith -order

@[spec]
theorem keeps_setEscaping (address : Ref) (value : Value) (fine : harmless value) :
    ⦃watched⦄ setEscaping address value ⦃kept⦄ := by
  mvcgen [setEscaping]
  all_goals grind -ring -linarith -order

end Steps

section Lists

variable {Item : Type} [Checkable Result]

@[spec]
theorem keeps_mapM (items : List Item) (run : Item → Run Result)
    (each : ∀ item ∈ items, ⦃watched⦄ run item ⦃kept⦄) : ⦃watched⦄ items.mapM run ⦃kept⦄ := by
  induction items with
  | nil =>
    rw [List.mapM_nil]
    mvcgen
    grind
  | cons item rest ih =>
    have first := each item List.mem_cons_self
    have others := ih fun other inside => each other (List.mem_cons_of_mem _ inside)
    rw [List.mapM_cons]
    mvcgen [first, others]
    all_goals grind -ring -linarith -order

@[spec]
theorem keeps_filterMapM (items : List Item) (run : Item → Run (Option Result))
    (each : ∀ item ∈ items, ⦃watched⦄ run item ⦃kept⦄) :
    ⦃watched⦄ items.filterMapM run ⦃kept⦄ := by
  induction items with
  | nil =>
    rw [List.filterMapM_nil]
    mvcgen
    grind
  | cons item rest ih =>
    have first := each item List.mem_cons_self
    have others := ih fun other inside => each other (List.mem_cons_of_mem _ inside)
    rw [List.filterMapM_cons]
    mvcgen [first, others]
    all_goals grind -ring -linarith -order

@[spec]
theorem keeps_forM (items : List Item) (run : Item → Run PUnit)
    (each : ∀ item ∈ items, ⦃watched⦄ run item ⦃kept⦄) : ⦃watched⦄ items.forM run ⦃kept⦄ := by
  induction items with
  | nil => exact keeps_pure trivial
  | cons item rest ih =>
    refine keeps_bind (each item List.mem_cons_self) fun _ _ => ?_
    exact ih fun other inside => each other (List.mem_cons_of_mem _ inside)

theorem keeps_foldlM (items : List Item) (run : Result → Item → Run Result) (start : Result)
    (fine : harmless start)
    (each : ∀ item ∈ items, ∀ so, harmless so → ⦃watched⦄ run so item ⦃kept⦄) :
    ⦃watched⦄ items.foldlM run start ⦃kept⦄ := by
  induction items generalizing start with
  | nil => exact keeps_pure fine
  | cons item rest ih =>
    rw [List.foldlM_cons]
    refine keeps_bind (each item List.mem_cons_self start fine) fun so soFine => ?_
    exact ih so soFine fun other inside => each other (List.mem_cons_of_mem _ inside)

end Lists

end PageTemplates.Run
