import Mathlib
import PageTemplates.Proofs.Sandbox.Steps
import PageTemplates.Value.Iterate

/-!
Printing values, and going through them, obey.
-/

namespace PageTemplates

open Std.Do

set_option mvcgen.warning false

variable [Regime] [Watch]

omit [Watch] in
@[grind .]
theorem Value.harmless_characters (text : Text) : harmless (characters text) :=
  (harmless_map text _).2 fun _ _ => harmless_plain rfl

omit [Watch] in
@[grind .]
theorem Value.harmless_lookup? (world : World) (key : Value) {entries : List (Value × Value)}
    (fine : harmless entries) : harmless (lookup? world key entries) := by
  intro value there
  obtain ⟨entry, found, rfl⟩ := Option.map_eq_some_iff.1 there
  exact (fine entry (List.mem_of_find?_eq_some found)).2

omit [Watch] in
@[grind →]
theorem Value.harmless_found {world : World} {key value : Value} {entries : List (Value × Value)}
    (there : lookup? world key entries = some value) (fine : harmless entries) :
    harmless value := harmless_lookup? world key fine value there

omit [Watch] in
@[grind .]
theorem Value.harmless_rangeItems (start stop step : Int) :
    harmless (rangeItems start stop step) :=
  (harmless_map _ _).2 fun _ _ => harmless_plain rfl

omit [Watch] in
@[grind .]
theorem Value.harmless_viewItems {entries : List (Value × Value)} (fine : harmless entries)
    (kind : ViewKind) : harmless (viewItems kind entries) := by
  cases kind
  all_goals grind -ring -linarith -order [viewItems]

@[grind →]
theorem World.Sound.values_found {world : World} (sound : world.Sound) {value : Value}
    {items : List Value} (fine : harmless value) (there : value.items? world = some items) :
    harmless items := by
  unfold Value.items? at there
  split at there
  case h_7 kind dict =>
    obtain ⟨entries, held, rfl⟩ := Option.map_eq_some_iff.1 there
    have entriesFine := sound.entries dict entries held
    exact Value.harmless_viewItems entriesFine kind
  case h_9 =>
    split at there <;> cases there
    all_goals rename_i held; have := sound.cell held
    all_goals grind -ring -linarith -order
  all_goals cases there
  all_goals grind -ring -linarith -order

@[grind .]
theorem World.Sound.values {world : World} (sound : world.Sound) {value : Value}
    (fine : harmless value) : harmless (value.items? world) :=
  fun _ there => sound.values_found fine there

namespace Run

@[spec]
theorem keeps_settled {Result : Type} [Checkable Result] (result : Except Failure Result)
    (fine : ∀ value, result = .ok value → harmless value) : ⦃watched⦄ settled result ⦃kept⦄ := by
  mvcgen [settled]
  all_goals grind -ring -linarith -order

@[spec]
theorem keeps_quoted (value : Value) : ⦃watched⦄ quoted value ⦃kept⦄ := by
  mvcgen [quoted]
  all_goals grind -ring -linarith -order

@[spec]
theorem keeps_failIfUndefined (value : Value) : ⦃watched⦄ failIfUndefined value ⦃kept⦄ := by
  mvcgen [failIfUndefined]
  all_goals grind -ring -linarith -order

@[spec]
theorem keeps_failIfStrict (value : Value) : ⦃watched⦄ failIfStrict value ⦃kept⦄ := by
  mvcgen [failIfStrict]

@[spec]
theorem keeps_joined (chunks : List Value) : ⦃watched⦄ joined chunks ⦃kept⦄ := by
  mvcgen [joined]
  all_goals grind -ring -linarith -order

@[spec]
theorem keeps_less (first second : Value) : ⦃watched⦄ less first second ⦃kept⦄ := by
  mvcgen [less]
  all_goals grind -ring -linarith -order

@[spec]
theorem keeps_equal (first second : Value) : ⦃watched⦄ equal first second ⦃kept⦄ := by
  mvcgen [equal]
  all_goals grind -ring -linarith -order

@[spec]
theorem keeps_requireHashable (value : Value) : ⦃watched⦄ requireHashable value ⦃kept⦄ := by
  mvcgen [requireHashable]
  all_goals grind -ring -linarith -order

@[spec]
theorem keeps_iterate (value : Value) (fine : harmless value) :
    ⦃watched⦄ iterate value ⦃kept⦄ := by
  mvcgen [iterate]
  all_goals grind -ring -linarith -order

@[spec]
theorem keeps_drain (iterator : Ref) (bound : Nat) (done : List Value) (fine : harmless done) :
    ⦃watched⦄ drain iterator bound done ⦃kept⦄ := by
  induction bound generalizing done with
  | zero =>
    mvcgen [drain]
    grind
  | succ bound ih =>
    mvcgen [drain, ih]
    all_goals grind -ring -linarith -order

@[spec]
theorem keeps_itemsOf (value : Value) (fine : harmless value) :
    ⦃watched⦄ itemsOf value ⦃kept⦄ := by
  mvcgen [itemsOf]
  all_goals grind -ring -linarith -order

/-- Whether a loop that is found is free to change. -/
@[grind =]
def IsFree : Option (Ref × LoopState) → Prop
  | none => True
  | some (address, _) => ¬ Held address

@[spec]
theorem keeps_loopState? (value : Value) :
    ⦃watched⦄ loopState? value ⦃ending fun found => harmless found ∧ IsFree found⦄ := by
  mvcgen [loopState?]
  all_goals grind -ring -linarith -order

@[spec]
theorem keeps_loopLength (address : Ref) (state : LoopState) (fine : harmless state)
    (free : ¬ Held address) : ⦃watched⦄ loopLength address state ⦃kept⦄ := by
  mvcgen [loopLength]
  all_goals grind -ring -linarith -order

@[spec]
theorem keeps_loopAhead (address : Ref) (state : LoopState) (fine : harmless state)
    (free : ¬ Held address) : ⦃watched⦄ loopAhead address state ⦃kept⦄ := by
  mvcgen [loopAhead]
  all_goals grind -ring -linarith -order

@[spec]
theorem keeps_loopNext (address : Ref) (state : LoopState) (fine : harmless state)
    (free : ¬ Held address) : ⦃watched⦄ loopNext address state ⦃kept⦄ := by
  have now (found : Option (Ref × LoopState)) (fine' : harmless found) :
      harmless ((found.map Prod.snd).getD state) := harmless_getD (harmless_second fine') fine
  mvcgen [loopNext]
  all_goals grind -ring -linarith -order

@[spec]
theorem keeps_lengthOf (value : Value) : ⦃watched⦄ lengthOf value ⦃kept⦄ := by
  mvcgen [lengthOf]
  all_goals grind -ring -linarith -order

@[spec]
theorem keeps_truth (value : Value) : ⦃watched⦄ truth value ⦃kept⦄ := by
  mvcgen [truth]
  all_goals grind -ring -linarith -order

@[spec]
theorem keeps_plain (value : Value) : ⦃watched⦄ plain value ⦃kept⦄ := by
  mvcgen [plain]
  all_goals grind -ring -linarith -order

@[spec]
theorem keeps_isAmong (value : Value) (items : List Value) :
    ⦃watched⦄ isAmong value items ⦃kept⦄ := by
  induction items with
  | nil => mvcgen [isAmong]
  | cons item rest ih =>
    mvcgen [isAmong, ih]
    all_goals grind -ring -linarith -order

@[spec]
theorem keeps_holdsBytes (bytes : Bytes) (value : Value) :
    ⦃watched⦄ holdsBytes bytes value ⦃kept⦄ := by
  unfold holdsBytes
  split
  all_goals mvcgen
  all_goals grind -ring -linarith -order

@[spec]
theorem keeps_requireSought (container value : Value) :
    ⦃watched⦄ requireSought container value ⦃kept⦄ := by
  mvcgen [requireSought]
  all_goals grind -ring -linarith -order

@[spec]
theorem keeps_contains (container value : Value) (fine : harmless container) :
    ⦃watched⦄ contains container value ⦃kept⦄ := by
  mvcgen [contains]
  all_goals grind -ring -linarith -order

@[spec]
theorem keeps_escaped (value : Value) : ⦃watched⦄ escaped value ⦃kept⦄ := by
  mvcgen [escaped]
  all_goals grind -ring -linarith -order

@[spec]
theorem keeps_entriesOf? (value : Value) : ⦃watched⦄ entriesOf? value ⦃kept⦄ := by
  mvcgen [entriesOf?]
  all_goals grind -ring -linarith -order

end Run
end PageTemplates
