import PageTemplates.World

/-!
Moving: the things of one world put beside those of another. Every reference that is moved is raised
by the same amount, so that what refers to one another goes on doing so.
-/

namespace PageTemplates

namespace Value

mutual

/-- A value with its references raised. -/
def raised (amount : Nat) : Value → Value
  | .tuple items => .tuple (raisedAll amount items)
  | .group key members => .group (raised amount key) (raised amount members)
  | .slice start stop step =>
    .slice (raised amount start) (raised amount stop) (raised amount step)
  | .undefined strict hint owner name cause =>
    .undefined strict hint (raisedOption amount owner) (raisedOption amount name) cause
  | .method receiver name => .method (raised amount receiver) name
  | .view kind dict => .view kind (dict + amount)
  | .template context => .template (context + amount)
  | .blockOf name context depth => .blockOf name (context + amount) depth
  | .ref address => .ref (address + amount)
  | other => other

/-- Values with their references raised. -/
def raisedAll (amount : Nat) : List Value → List Value
  | [] => []
  | value :: rest => raised amount value :: raisedAll amount rest

/-- A value that may be absent with its references raised. -/
def raisedOption (amount : Nat) : Option Value → Option Value
  | Option.none => Option.none
  | some value => some (raised amount value)

end

/-- Named values with their references raised. -/
def raisedNamed {Key : Type} (amount : Nat) (entries : List (Key × Value)) : List (Key × Value) :=
  entries.map fun (key, value) => (key, raised amount value)

/-- Entries with their references raised, in the keys too. -/
def raisedEntries (amount : Nat) (entries : List (Value × Value)) : List (Value × Value) :=
  entries.map fun (key, value) => (raised amount key, raised amount value)

end Value

/-- Arguments with their references raised. -/
def Given.raised (amount : Nat) (given : Given) : Given :=
  ⟨Value.raisedAll amount given.positional, Value.raisedNamed amount given.named⟩

/-- A context with its references raised. -/
def Context.raised (amount : Nat) (context : Context) : Context :=
  { context with
    given := Value.raisedNamed amount context.given
    own := Value.raisedNamed amount context.own
    escapes := context.escapes.raised amount
    escapesWith := context.escapesWith.map (· + amount) }

/-- An activation with its references raised. -/
def Activation.raised (amount : Nat) (activation : Activation) : Activation :=
  { activation with
    outer := activation.outer.map (· + amount)
    slots := Value.raisedNamed amount activation.slots }

/-- A loop with its references raised. -/
def LoopState.raised (amount : Nat) (loop : LoopState) : LoopState :=
  { loop with
    source := loop.source.raised amount
    iterator := loop.iterator + amount
    ahead := Value.raisedOption amount loop.ahead
    current := Value.raisedOption amount loop.current
    before := Value.raisedOption amount loop.before
    changed := loop.changed.map (Value.raisedAll amount)
    recursive := loop.recursive.map fun (code, activation, context, height) =>
      (code, activation + amount, context + amount, height) }

/-- A macro with its references raised. -/
def MacroState.raised (amount : Nat) (state : MacroState) : MacroState :=
  { state with
    activation := state.activation + amount
    context := state.context + amount
    escapes := state.escapes.raised amount }

/-- What an iterator has still to give, with its references raised. -/
def Iteration.raised (amount : Nat) : Iteration → Iteration
  | .done => .done
  | .values items => .values (Value.raisedAll amount items)
  | .list source place => .list (source + amount) place
  | .listBackwards source remaining => .listBackwards (source + amount) remaining
  | .range next stop step => .range next stop step
  | .entries source kind place size => .entries (source + amount) kind place size
  | .loop source => .loop (source + amount)
  | .notStarted filter value given context =>
    .notStarted filter (value.raised amount) (given.raised amount) (context.map (· + amount))
  | .mapped source filter given context =>
    .mapped (source + amount) (filter.raised amount) (given.raised amount)
      (context.map (· + amount))
  | .picked source path fallback =>
    .picked (source + amount) (Value.raisedAll amount path) (Value.raisedOption amount fallback)
  | .selected source path test negated context =>
    .selected (source + amount) (Value.raisedAll amount path)
      (test.map fun (name, given) => (name.raised amount, given.raised amount)) negated
      (context.map (· + amount))
  | .unique source caseSensitive path seen =>
    .unique (source + amount) caseSensitive (Value.raisedAll amount path)
      (Value.raisedAll amount seen)
  | .batches source size fill =>
    .batches (source + amount) (size.raised amount) (fill.raised amount)
  | .filtered source place test outer slots context height =>
    .filtered (source + amount) place test (outer + amount) (Value.raisedNamed amount slots)
      (context + amount) height

/-- A thing with its references raised. -/
def Cell.raised (amount : Nat) : Cell → Cell
  | .list items => .list (items.map (Value.raised amount))
  | .dict entries => .dict (Value.raisedEntries amount entries.toList).toArray
  | .set items => .set (Value.raisedAll amount items)
  | .mapping entries => .mapping (Value.raisedEntries amount entries)
  | .object attributes => .object (Value.raisedNamed amount attributes)
  | .sealed => .sealed
  | .explosive => .explosive
  | .iterator kind state => .iterator kind (state.raised amount)
  | .namespace entries => .namespace (Value.raisedEntries amount entries)
  | .cycler items place => .cycler (Value.raisedAll amount items) place
  | .joiner separator used => .joiner (separator.raised amount) used
  | .loop state => .loop (state.raised amount)
  | .module name body exports =>
    .module name (Value.raisedAll amount body) (Value.raisedNamed amount exports)
  | .macroOf state => .macroOf (state.raised amount)
  | .context state => .context (state.raised amount)
  | .activation state => .activation (state.raised amount)

/-- A world with the things of another one beside its own, their references raised past its own. -/
def World.beside (world other : World) : World :=
  { world with
    cells := other.cells.foldl (fun so ref cell =>
      so.insert (ref + world.fresh) (cell.raised world.fresh)) world.cells
    fresh := world.fresh + other.fresh }

end PageTemplates
