import PageTemplates.Value.Kind

/-!
Runs: computations over a machine that may fail. The machine holds the world, the text being
captured, and what has been written so far, each piece with the world at that moment; a failure
leaves it as it was when the failure arose. What a run may call back into is handed to it as a
record of powers, which a later module builds level by level.
-/

namespace PageTemplates

open Template (Program BlockCode)

/-- A piece of written output with the world when it was written. -/
structure Emission where
  chunk : Value
  world : World

/-- The state of a render. Captures and emissions have the latest first. `refusals` counts the filters
and tests that were applied and are not there; nothing that runs looks at it. -/
structure Machine where
  world : World
  captures : List (List Value)
  emissions : List Emission
  refusals : Nat
  deriving Inhabited

/-- A computation over the machine. -/
abbrev Act := EStateM Failure Machine

/-- A compiled template with the number of its version in the set. -/
structure Entry where
  version : Nat
  program : Program
  deriving Inhabited

/-- How templates are kept from reaching into values: not at all, away from internals, or also away
from changing lists and dictionaries. -/
inductive Guard where
  | open
  | guarded
  | immutable
  deriving DecidableEq, Inhabited

/-- What templates of a set are evaluated with: whether undefined values are strict, the guard, the
filters and tests there are, and the names known to every template. -/
structure Environment where
  strict : Bool
  guard : Guard
  filters : List String
  tests : List String
  globals : List (Text × Value)
  escapes : Text → Bool

/-- What running code may call back into: calling a value, taking the next item of an iterator, and
running a template or a block in a context. -/
structure Powers where
  call : Option Ref → Value → Given → Act Value
  advance : Ref → Act (Option Value)
  renderTemplate : Text → Entry → Ref → Act Unit
  renderBlock : BlockEntry → Ref → Act Unit

/-- What a run is given: its powers, the environment, and the templates of the set. -/
structure Setting where
  powers : Powers
  environment : Environment
  templates : List (Text × Entry)

/-- A computation over the machine in a setting. -/
abbrev Run := ReaderT Setting Act

namespace Run

/-- The world. -/
def world : Run World := do return (← get).world

/-- Changes the world. -/
def setWorld (world : World) : Run Unit := modify fun machine => { machine with world := world }

/-- Fails. -/
def fail {Result : Type} (failure : Failure) : Run Result := throw failure

/-- Fails because a filter or test is applied that is not there. -/
def refuse {Result : Type} (message : Text) : Run Result := do
  modify fun machine => { machine with refusals := machine.refusals + 1 }
  fail ⟨.templateFailed, message⟩

/-- The most items or characters of one value. -/
def roomLimit : Nat := Nat.pow 2 27

/-- Fails if a value of so many items or characters is too large to be held. -/
def requireRoom (size : Nat) : Run Unit :=
  if roomLimit < size then fail .outOfMemory else return ()

/-- Adds a thing to the world. -/
def allocate (cell : Cell) : Run Ref := do
  let (ref, world) := (← world).add cell
  setWorld world
  return ref

/-- A new thing as a value. -/
def new (cell : Cell) : Run Value := do return .ref (← allocate cell)

/-- A new list. -/
def newList (items : List Value) : Run Value := new (.list items.toArray)

/-- A new dictionary; the keys are known to differ. -/
def newDict (entries : List (Value × Value)) : Run Value := new (.dict entries.toArray)

/-- The thing of a reference. -/
def cell (ref : Ref) : Run (Option Cell) := do return (← world).cell? ref

/-- Replaces the thing of a reference. -/
def put (ref : Ref) (cell : Cell) : Run Unit := do setWorld ((← world).put ref cell)

/-- The context that says whether a context escapes, with what it says. -/
def escapingOwner (address : Ref) : Run (Ref × Context) := do
  match ← cell address with
  | some (.context state) =>
    match state.escapesWith with
    | none => return (address, state)
    | some owner =>
      match ← cell owner with
      | some (.context shared) => return (owner, shared)
      | _ => return (address, state)
  | _ => return (address, default)

/-- The value whose truth says whether a context escapes. -/
def escaping (address : Ref) : Run Value := do return (← escapingOwner address).2.escapes

/-- Lets a context escape as a value says, together with all that share this with it. -/
def setEscaping (address : Ref) (value : Value) : Run Unit := do
  let (owner, _) ← escapingOwner address
  match ← cell owner with
  | some (.context state) => put owner (.context { state with escapes := value })
  | _ => return ()

/-- The environment. -/
def environment : Run Environment := do return (← read).environment

/-- Calls a value. -/
def call (context : Option Ref) (target : Value) (given : Given) : Run Value := do
  (← read).powers.call context target given

/-- The next item of an iterator. -/
def advance (iterator : Ref) : Run (Option Value) := do (← read).powers.advance iterator

/-- The class name of a value. -/
def className (value : Value) : Run Text := do return value.className (← world)

/-- The bare class name of a value. -/
def bareClassName (value : Value) : Run Text := do return value.bareClassName (← world)

/-- Writes a piece of output: into the innermost capture, or to the target. -/
def emit (chunk : Value) : Run Unit :=
  modify fun machine =>
    match machine.captures with
    | [] => { machine with emissions := ⟨chunk, machine.world⟩ :: machine.emissions }
    | capture :: outer => { machine with captures := (chunk :: capture) :: outer }

/-- Adds to the capture that has `height` captures below it. -/
def insertCapture (chunk : Value) (height : Nat) : List (List Value) → List (List Value)
  | [] => []
  | capture :: outer =>
    if outer.length + 1 == height then (chunk :: capture) :: outer
    else capture :: insertCapture chunk height outer

/-- Writes a piece of output past the captures above a height. -/
def emitAt (height : Nat) (chunk : Value) : Run Unit :=
  if height == 0 then
    modify fun machine =>
      { machine with emissions := ⟨chunk, machine.world⟩ :: machine.emissions }
  else
    modify fun machine => { machine with captures := insertCapture chunk height machine.captures }

/-- How many captures are open. -/
def captureHeight : Run Nat := do return (← get).captures.length

/-- Starts a capture. -/
def openCapture : Run Unit :=
  modify fun machine => { machine with captures := [] :: machine.captures }

/-- What the innermost capture holds, in order. -/
def captured : Run (List Value) := do return ((← get).captures.headD []).reverse

/-- Ends the innermost capture. -/
def closeCapture : Run Unit :=
  modify fun machine => { machine with captures := machine.captures.drop 1 }

/-- Goes back to a height of captures. -/
def closeCapturesTo (height : Nat) : Run Unit :=
  modify fun machine =>
    { machine with captures := machine.captures.drop (machine.captures.length - height) }

/-- Runs something, and if it fails in the given way runs something else. Captures that the first
opened are closed. -/
def recovering {Result : Type} (attempt : Run Result) (handles : Failure → Bool)
    (otherwise : Failure → Run Result) : Run Result := do
  let height ← captureHeight
  tryCatch attempt fun failure => do
    if handles failure then
      closeCapturesTo height
      otherwise failure
    else throw failure

/-- The result of something, or nothing if it fails in the given way. -/
def attempt {Result : Type} (attempt : Run Result) (handles : Failure → Bool) :
    Run (Option Result) :=
  recovering (do return some (← attempt)) handles fun _ => return none

end Run

end PageTemplates
