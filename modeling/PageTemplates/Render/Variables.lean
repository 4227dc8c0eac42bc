import PageTemplates.Value.OfData
import PageTemplates.Value.Iterate

/-!
Variables: each run of a template, block, macro or recursive loop has its own, and what is defined
inside another run sees those of the run around it. Entering a scope gives its variables their first
values; leaving it takes them away.
-/

namespace PageTemplates

open Template (Slot Load Frame Place Locals Published)

/-- Where code runs: whose variables it uses, in which context, and how many captures were open when
the run began. -/
structure Stage where
  activation : Ref
  context : Ref
  height : Nat

namespace Run

/-- The activation of a reference. -/
def activation? (world : World) (address : Ref) : Option Activation :=
  match world.cell? address with
  | some (.activation state) => some state
  | _ => none

/-- The value of a variable in an activation or in one around it. The first argument bounds the
nesting. -/
def findSlot (world : World) (slot : Slot) : (bound : Nat) → Ref → Option Value
  | 0, _ => none
  | bound + 1, address =>
    match activation? world address with
    | none => none
    | some state =>
      match state.slots.lookup slot with
      | some value => some value
      | none => state.outer.bind (findSlot world slot bound)

/-- The value of a variable, which may be missing. -/
def slotValue (stage : Stage) (slot : Slot) : Run Value := do
  return (findSlot (← world) slot (stage.activation + 1) stage.activation).getD .missing

/-- Replaces or adds the value of a name. -/
def putPair {Key : Type} [BEq Key] (key : Key) (value : Value) :
    List (Key × Value) → List (Key × Value)
  | [] => [(key, value)]
  | (other, old) :: rest =>
    if other == key then (key, value) :: rest else (other, old) :: putPair key value rest

/-- Gives a variable a value. -/
def setSlot (stage : Stage) (slot : Slot) (value : Value) : Run Unit := do
  match activation? (← world) stage.activation with
  | some state =>
    put stage.activation (.activation { state with slots := putPair slot value state.slots })
  | none => return ()

/-- The template that the run extends, in the activation or one around it. -/
def findLayout (world : World) : (bound : Nat) → Ref → Option Text
  | 0, _ => none
  | bound + 1, address =>
    match activation? world address with
    | none => none
    | some state =>
      match state.layout, state.outer with
      | some layout, _ => some layout
      | none, some outer => findLayout world bound outer
      | none, none => none

/-- The template that the running template extends. -/
def layout? (stage : Stage) : Run (Option Text) := do
  return findLayout (← world) (stage.activation + 1) stage.activation

/-- The context of a reference. -/
def contextState (address : Ref) : Run Context := do
  match ← cell address with
  | some (.context state) => return state
  | _ => return default

/-- Changes a context. -/
def changeContext (address : Ref) (change : Context → Context) : Run Unit := do
  match ← cell address with
  | some (.context state) => put address (.context (change state))
  | _ => return ()

/-- Looks a name up in a context: among what it has set itself, what it was given, and what every
template knows. -/
def resolve (address : Ref) (name : String) : Run Value := do
  let state ← contextState address
  let name := Text.ofString name
  match state.own.lookup name with
  | some value => return value
  | none =>
    match state.given.lookup name with
    | some value => return value
    | none => return ((← environment).globals.lookup name).getD .missing

/-- All names that a context gives values to, besides those that every template knows. -/
def allNames (state : Context) : List (Text × Value) :=
  state.own.foldl (fun so (name, value) => putPair name value so) state.given

/-- Gives the variables of a scope their first values. -/
def enterFrame (stage : Stage) (frame : Frame) : Run Unit :=
  frame.loads.forM fun (name, load) => do
    let slot : Slot := ⟨frame.depth, name⟩
    match load with
    | .parameter => return ()
    | .resolve => setSlot stage slot (← resolve stage.context name)
    | .copy source => setSlot stage slot (← slotValue stage source)
    | .unset => setSlot stage slot .missing

/-- Takes the values of the variables of a scope away. -/
def leaveFrame (stage : Stage) (frame : Frame) : Run Unit :=
  frame.loads.forM fun (name, _) => setSlot stage ⟨frame.depth, name⟩ .missing

/-- A new activation. -/
def activate (outer : Option Ref) : Run Ref := allocate (.activation ⟨outer, [], none⟩)

/-- The local variables that have a value, by name. -/
def localValues (stage : Stage) (locals : Locals) : Run (List (Text × Value)) := do
  locals.filterMapM fun (name, slot) => do
    let value ← slotValue stage slot
    return if value.isMissing then none else some (Text.ofString name, value)

/-- The items of a value that is shared out among a number of places. -/
def unpacked (value : Value) (count : Nat) : Run (List Value) := do
  let iterator ← recovering (iterate value) (fun failure => failure.cause = .wrongType) fun _ => do
    fail (.wrongType ("cannot unpack non-iterable " ++ (← className value) ++ " object"))
  let items ← drain iterator (count + 1) []
  if count < items.length then
    fail (.wrongValue ("too many values to unpack (expected " ++ Text.ofNat count ++ ")"))
  else if items.length < count then
    fail (.wrongValue ("not enough values to unpack (expected " ++ Text.ofNat count ++ ", got " ++
      Text.ofNat items.length ++ ")"))
  else return items

/-- Puts an entry into a value that takes entries. -/
def putItem (target : Value) (name : Text) (value : Value) : Run Unit := do
  let notAssignable : Run Unit := do
    fail (.wrongType ("'" ++ (← className target) ++ "' object does not support item assignment"))
  match target with
  | .ref address =>
    match ← cell address with
    | some (.namespace entries) =>
      let world ← world
      let key : Value := .text name
      let entries := match Value.keyPlace? world key entries with
        | some place => entries.modify place fun (old, _) => (old, value)
        | none => entries ++ [(key, value)]
      put address (.namespace entries)
    | some (.dict entries) =>
      let world ← world
      let key : Value := .text name
      match Value.keyPlace? world key entries.toList with
      | some place => put address (.dict (entries.modify place fun (old, _) => (old, value)))
      | none => put address (.dict (entries.push (key, value)))
    | some (.list _) =>
      fail (.wrongType "list indices must be integers or slices, not str")
    | _ => notAssignable
  | _ => notAssignable

mutual

/-- Assigns a value to a place. -/
def assign (stage : Stage) (value : Value) : Place → Run Unit
  | .slot slot => setSlot stage slot value
  | .member slot name => do
    putItem (← slotValue stage slot) (Text.ofString name) value
  | .tuple places => do
    let items ← unpacked value places.length
    assignAll stage items places

/-- Assigns values to places in order. -/
def assignAll (stage : Stage) : List Value → List Place → Run Unit
  | value :: values, place :: places => do
    assign stage value place
    assignAll stage values places
  | _, _ => return ()

end

/-- Hands the values of variables to the context; those whose names start with an underline are not
exported. -/
def publish (stage : Stage) (published : Published) : Run Unit :=
  published.forM fun (name, slot) => do
    let value ← slotValue stage slot
    let name := Text.ofString name
    let isPublic := name.head? != some (.scalar '_')
    changeContext stage.context fun state =>
      { state with
        own := putPair name value state.own
        exported := if isPublic && !List.contains state.exported name then state.exported ++ [name]
          else state.exported }

/-- Hands the value of a variable to the context and does not export it. -/
def publishHidden (stage : Stage) (name : String) (slot : Slot) : Run Unit := do
  let value ← slotValue stage slot
  let name := Text.ofString name
  changeContext stage.context fun state =>
    { state with own := putPair name value state.own, exported := state.exported.erase name }

end Run

end PageTemplates
