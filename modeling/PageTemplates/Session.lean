import PageTemplates.TemplateSet
import PageTemplates.Value.OfData
import PageTemplates.World.Move

/-!
Sessions: what goes on beside renders. A render works in a world of its own, which ends with it; only
where a template was imported without a context does its module stay with the template set, and the
world with it. Nothing else is handed from one render to the next.
-/

namespace PageTemplates

/-- How loud a line of the log is. -/
inductive LogLevel where
  | warning
  | error
  deriving DecidableEq

/-- A line of the log. -/
structure LogLine where
  level : LogLevel
  message : Text

/-- A session: the log, latest line first, how often the counting function was called, and the
world that each template set has kept, by the number of the set. -/
structure Session where
  log : List LogLine
  ticks : Nat
  homes : List World
  deriving Inhabited

namespace Session

/-- A session in which nothing has happened. -/
def start : Session := ⟨[], 0, []⟩

/-- How many template sets there are. -/
def sets (session : Session) : Nat := session.homes.length

/-- Adds lines to the log, latest first. -/
def logging (session : Session) (lines : List LogLine) : Session :=
  { session with log := lines ++ session.log }

/-- The log in order. -/
def lines (session : Session) : List LogLine := session.log.reverse

/-- The world that a set has kept. -/
def home (session : Session) (number : Nat) : World :=
  { session.homes.getD number .empty with ticks := session.ticks }

/-- The session after a set has worked up to a world. -/
def leaving (session : Session) (number : Nat) (world : World) : Session :=
  { session with ticks := world.ticks, homes := session.homes.set number world.kept }

/-- A session with further sets, which have kept nothing. -/
def opening (session : Session) (count : Nat) : Session :=
  { session with homes := session.homes ++ List.replicate count .empty }

end Session

/-- Data that is to be rendered: as it was given, or as the last render left it, with the world it
is part of. -/
inductive Payload where
  | given (data : Data)
  | held (value : Value) (world : World)

namespace Payload

/-- Puts data into a world. -/
def taken (data : Data) (world : World) : Value × World :=
  let bare : Environment := ⟨true, .open, [], [], [], fun _ => false⟩
  match ((Run.ofData data).run ⟨.none, bare, []⟩).run ⟨world, [], [], 0⟩ with
  | .ok value machine => (value, machine.world)
  | .error _ machine => (.none, machine.world)

/-- A payload in the world that its template set has kept. A payload that was rendered before is in
that world already if it was part of a world with modules. -/
def placed (home : World) : Payload → Value × World
  | .given data => taken data home
  | .held value world =>
    if home.modules.isEmpty then (value, { world with ticks := home.ticks })
    else if world.modules.isEmpty then (value.raised home.fresh, home.beside world)
    else (value, home)

end Payload

namespace Session

/-- The whole text that a template of a set renders to for data. -/
def renderText (session : Session) (number : Nat) (set : TemplateSet) (name : Text) (entry : Entry)
    (data : Data) : Except Failure Text × Session :=
  let (value, world) := Payload.taken data (session.home number)
  let (result, world) := set.renderText world name entry value
  (result, session.leaving number world)

end Session

end PageTemplates
