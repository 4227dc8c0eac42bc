import PageTemplates.Render.Call

/-!
The powers of running code, level by level: code of one level calls back into the level below, and
below the last level every call fails. So nesting has a limit, and everything ends.
-/

namespace PageTemplates

open Template (Slot BlockCode)

namespace Run

/-- The variable for the template itself. -/
def selfSlot : Slot := ⟨0, "self"⟩

/-- The variable for the block below. -/
def superSlot : Slot := ⟨0, "super"⟩

/-- Runs a template in a context, and then the template that it extends. -/
def runTemplate (entry : Entry) (context : Ref) : Run Unit := do
  let program := entry.program
  let stage : Stage := ⟨← activate none, context, ← captureHeight⟩
  if program.usesSelf then setSlot stage selfSlot (.template context)
  enterFrame stage program.frame
  runSteps stage program.body
  match ← layout? stage with
  | none => return ()
  | some name =>
    match (← read).templates.lookup name with
    | some layout => renderTemplate name layout context
    | none => fail (templateMissing name)

/-- Runs a block in a context. -/
def runBlockCode (entry : BlockEntry) (context : Ref) : Run Unit := do
  let code := entry.code
  let stage : Stage := ⟨← activate none, context, ← captureHeight⟩
  if code.usesSelf then setSlot stage selfSlot (.template context)
  if code.usesSuper then
    let chain := ((← contextState context).blocks.lookup code.name).getD []
    let place := (chain.findIdx? fun other => other.owner == entry.owner).getD chain.length
    setSlot stage superSlot (← blockBelow code.name context place)
  enterFrame stage code.frame
  runSteps stage code.body

end Run

/-- A setting with the given powers. -/
def Setting.withPowers (setting : Setting) (powers : Powers) : Setting :=
  { setting with powers := powers }

namespace Powers

/-- No powers: nesting has come to its limit. -/
def none : Powers where
  call _ _ _ := throw .tooDeep
  advance _ := throw .tooDeep
  renderTemplate _ _ _ := throw .tooDeep
  renderBlock _ _ := throw .tooDeep

/-- The powers of a level above those of the level below. -/
def above (functions : Array Function) (setting : Setting) (below : Powers) : Powers :=
  let inside := setting.withPowers below
  { call := fun context target given => (Run.callValue functions context target given).run inside
    advance := fun iterator => (Run.nextItem iterator).run inside
    renderTemplate := fun _ entry context => (Run.runTemplate entry context).run inside
    renderBlock := fun entry context => (Run.runBlockCode entry context).run inside }

/-- The powers of a level. -/
def ofLevel (functions : Array Function) (setting : Setting) : Nat → Powers
  | 0 => none
  | level + 1 => above functions setting (ofLevel functions setting level)

/-- How many levels there are. -/
def levels : Nat := 240

end Powers

/-- A setting with all powers. -/
def Setting.empowered (functions : Array Function) (environment : Environment)
    (templates : List (Text × Entry)) : Setting :=
  let bare : Setting := ⟨Powers.none, environment, templates⟩
  bare.withPowers (Powers.ofLevel functions bare Powers.levels)

end PageTemplates
