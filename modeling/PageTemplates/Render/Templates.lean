import PageTemplates.Render.Expression

/-!
Templates of the set by name, the contexts they run in, and the modules made of them for imports.
-/

namespace PageTemplates.Run

open Template (Locals Selection)

/-- The failure of a name that no template has. -/
def templateMissing (name : Text) : Failure := ⟨.templateMissing, name⟩

/-- The template that a value names. -/
def templateNamed (value : Value) : Run (Text × Entry) := do
  match value.text? with
  | some name =>
    match (← read).templates.lookup name with
    | some entry => return (name, entry)
    | none => fail (templateMissing name)
  | none =>
    failIfUndefined value
    requireHashable value
    fail (templateMissing (← plain value))

/-- How a name is shown among those of which no template was found. -/
def shownName (value : Value) : Run Text := do
  match value.undefinedFailure? (← world) with
  | some failure => return failure.message
  | none => plain value

/-- The first template that one of several values names. -/
def firstTemplate (names : Value) : List Value → Run (Text × Entry)
  | [] => do
    let shown ← (← itemsOf names).mapM shownName
    fail ⟨.templatesMissing, "none of the templates given were found: " ++ Text.join ", " shown⟩
  | value :: rest =>
    recovering (templateNamed value)
      (fun failure => failure.isTemplateMissing || failure.cause = .undefinedName)
      fun _ => firstTemplate names rest

/-- The template that a value selects. -/
def selected (selection : Selection) (value : Value) : Run (Text × Entry) := do
  let several : Run (Text × Entry) := do
    failIfUndefined value
    if !(← truth value) then
      fail ⟨.templatesMissing, "Tried to select from an empty list of templates."⟩
    firstTemplate value (← itemsOf value)
  match selection with
  | .one => templateNamed value
  | .several => several
  | .byValue => if value.text?.isSome || value.isUndefined then templateNamed value else several

/-- A context for a template with names given to it. -/
def newContext (name : Text) (entry : Entry) (given : List (Text × Value)) : Run Ref := do
  let blocks := entry.program.blocks.map fun block => (block.name, [⟨name, block⟩])
  allocate (.context ⟨name, given, [], [], blocks, .bool ((← environment).escapes name), none⟩)

/-- A context for a template that sees all that another context sees, and local variables. -/
def sharedContext (name : Text) (entry : Entry) (stage : Stage) (locals : Locals) : Run Ref := do
  let given := allNames (← contextState stage.context)
  let values ← localValues stage locals
  newContext name entry (values.foldl (fun so (name, value) => putPair name value so) given)

/-- A context for a block that sees local variables. It escapes as the context around it does. -/
def derivedContext (stage : Stage) (locals : Locals) : Run Ref := do
  let state ← contextState stage.context
  let values ← localValues stage locals
  let given := values.foldl (fun so (name, value) => putPair name value so) (allNames state)
  let (owner, _) ← escapingOwner stage.context
  allocate (.context { state with
    given := given
    own := []
    exported := []
    escapesWith := some owner })

/-- Runs a template in a context. -/
def renderTemplate (name : Text) (entry : Entry) (context : Ref) : Run Unit := do
  (← read).powers.renderTemplate name entry context

/-- Runs a block in a context. -/
def renderBlock (entry : BlockEntry) (context : Ref) : Run Unit := do
  (← read).powers.renderBlock entry context

/-- Makes a module of a template by running it in a context. -/
def makeModule (name : Text) (entry : Entry) (context : Ref) : Run Ref := do
  openCapture
  renderTemplate name entry context
  let body ← captured
  closeCapture
  let state ← contextState context
  let exports := state.own.filter fun (name, _) => List.contains state.exported name
  allocate (.module name body exports)

/-- The module of a template that was run in no context. It is made once in a world. -/
def defaultModule (name : Text) (entry : Entry) : Run Ref := do
  let key := (name, entry.version)
  match (← world).modules.lookup key with
  | some made => return made
  | none =>
    let made ← makeModule name entry (← newContext name entry [])
    let world ← world
    setWorld { world with modules := (key, made) :: world.modules }
    return made

/-- The module that an import yields: one that sees the context and local variables, or the one that
sees neither. -/
def imported (stage : Stage) (value : Value) (locals : Option Locals) : Run (Text × Ref) := do
  let (name, entry) ← templateNamed value
  match locals with
  | some locals => return (name, ← makeModule name entry (← sharedContext name entry stage locals))
  | none => return (name, ← defaultModule name entry)

/-- Writes what a template writes. One that sees no context writes what its module holds, past the
captures of the running template. -/
def included (stage : Stage) (found : Text × Entry) (locals : Option Locals) : Run Unit := do
  let (name, entry) := found
  match locals with
  | some locals => renderTemplate name entry (← sharedContext name entry stage locals)
  | none =>
    match ← cell (← defaultModule name entry) with
    | some (.module _ body _) => body.forM (emitAt stage.height)
    | _ => return ()

/-- Adds the blocks of a template below those of a context. -/
def addBlocks (context : Ref) (name : Text) (entry : Entry) : Run Unit :=
  changeContext context fun state =>
    let blocks := entry.program.blocks.foldl (fun so block =>
      let below : BlockEntry := ⟨name, block⟩
      if (so.lookup block.name).isSome then
        so.map fun (other, chain) => if other == block.name then (other, chain ++ [below])
          else (other, chain)
      else so ++ [(block.name, [below])]) state.blocks
    { state with blocks := blocks }

/-- Extends a template: its blocks go below those of the context, and it is run in the end. -/
def extend (stage : Stage) (value : Value) : Run Unit := do
  let (name, entry) ← templateNamed value
  match activation? (← world) stage.activation with
  | some state => put stage.activation (.activation { state with layout := some name })
  | none => return ()
  addBlocks stage.context name entry

end PageTemplates.Run
