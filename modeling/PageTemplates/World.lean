import PageTemplates.Value
import PageTemplates.Template.Program
import Std.Data.TreeMap.Basic

/-!
The world of a render: everything that has identity, by reference. Things are added and replaced,
never removed, so a reference stays good; a world is a value, and one that was kept is not touched
by what happens later.
-/

namespace PageTemplates

open Template (LoopCode MacroCode BlockCode Frame Place Code Slot)

/-- A block of a compiled template. -/
structure BlockEntry where
  owner : Text
  code : BlockCode
  deriving Inhabited

/-- What a template sees of its surroundings: the names given to it, those it has set itself, which
of these it exports, its blocks with the bodies that replace them, most special first, and a value
whose truth says whether it escapes, unless it leaves that to another context. -/
structure Context where
  template : Text
  given : List (Text × Value)
  own : List (Text × Value)
  exported : List Text
  blocks : List (String × List BlockEntry)
  escapes : Value
  escapesWith : Option Ref
  deriving Inhabited

/-- The variables of one run of a template, block or macro. `layout` is the template it extends. -/
structure Activation where
  outer : Option Ref
  slots : List (Slot × Value)
  layout : Option Text
  deriving Inhabited

/-- A loop that is running. `ahead` is an item fetched before its turn. -/
structure LoopState where
  source : Value
  iterator : Ref
  index : Int
  length : Option Nat
  ahead : Option Value
  current : Option Value
  before : Option Value
  changed : Option (List Value)
  recursive : Option (LoopCode × Ref × Ref × Nat)
  depth : Int

/-- A macro with the place where it was defined, and what said there whether to escape. -/
structure MacroState where
  code : MacroCode
  activation : Ref
  context : Ref
  escapes : Value

/-- What an iterator has still to give. The forms that stand for filters are started when the first
item is asked for. Each item that a loop filters has variables of its own, which start as the given slots. -/
inductive Iteration where
  | done
  | values (items : List Value)
  | list (source : Ref) (place : Nat)
  | listBackwards (source : Ref) (remaining : Nat)
  | range (next stop step : Int)
  | entries (source : Ref) (kind : ViewKind) (place size : Nat)
  | loop (source : Ref)
  | notStarted (filter : String) (value : Value) (given : Given) (context : Option Ref)
  | mapped (source : Ref) (filter : Value) (given : Given) (context : Option Ref)
  | picked (source : Ref) (path : List Value) (fallback : Option Value)
  | selected (source : Ref) (path : List Value) (test : Option (Value × Given)) (negated : Bool)
      (context : Option Ref)
  | unique (source : Ref) (caseSensitive : Bool) (path : List Value) (seen : List Value)
  | batches (source : Ref) (size fill : Value)
  | filtered (source : Ref) (place : Place) (test : Code) (outer : Ref)
      (slots : List (Slot × Value)) (context : Ref) (height : Nat)

/-- A thing in a world. -/
inductive Cell where
  | list (items : Array Value)
  | dict (entries : Array (Value × Value))
  | set (items : List Value)
  | mapping (entries : List (Value × Value))
  | object (attributes : List (Text × Value))
  | sealed
  | explosive
  | iterator (kind : String) (state : Iteration)
  | namespace (entries : List (Value × Value))
  | cycler (items : List Value) (place : Nat)
  | joiner (separator : Value) (used : Bool)
  | loop (state : LoopState)
  | module (name : Text) (body : List Value) (exports : List (Text × Value))
  | macroOf (state : MacroState)
  | context (state : Context)
  | activation (state : Activation)

/-- A world: its things, the next free reference, how often the counting function was called, and
the modules made of templates that were imported without a context, by the name and version of the
template. All templates of a world are of one set. -/
structure World where
  cells : Std.TreeMap Ref Cell
  fresh : Ref
  ticks : Nat
  modules : List ((Text × Nat) × Ref)
  deriving Inhabited

namespace World

/-- The world without things. -/
def empty : World := ⟨Std.TreeMap.empty, 0, 0, []⟩

/-- The thing of a reference. -/
def cell? (world : World) (ref : Ref) : Option Cell := world.cells[ref]?

/-- Replaces the thing of a reference. -/
def put (world : World) (ref : Ref) (cell : Cell) : World :=
  { world with cells := world.cells.insert ref cell }

/-- Adds a thing under a new reference. -/
def add (world : World) (cell : Cell) : Ref × World :=
  (world.fresh, { world.put world.fresh cell with fresh := world.fresh + 1 })

/-- The entries of a dictionary or mapping. -/
def entries? (world : World) (ref : Ref) : Option (List (Value × Value)) :=
  match world.cell? ref with
  | some (.dict entries) => some entries.toList
  | some (.mapping entries) => some entries
  | _ => none

/-- What of a world lives on when a render has ended: all of it if a module is kept that later
renders find again, and nothing otherwise. -/
def kept (world : World) : World := if world.modules.isEmpty then empty else world

/-- The items of a list. -/
def items? (world : World) (ref : Ref) : Option (Array Value) :=
  match world.cell? ref with
  | some (.list items) => some items
  | _ => none

end World

end PageTemplates
