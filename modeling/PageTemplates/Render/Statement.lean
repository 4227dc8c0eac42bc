import PageTemplates.Render.Templates

/-!
Running statements. Output goes to the innermost capture or to the target; a scope that captures ends
its capture when its body has run.
-/

namespace PageTemplates

open Template

namespace Run

/-- Writes a piece of output. -/
def writePiece (stage : Stage) : Piece → Run Unit
  | .text text => emit (.text text)
  | .value code escaping => do
    let escapes ← escapesNow stage escaping
    let value ← evaluate stage code
    if escapes then emit (.markup (← escaped value)) else emit (.text (← plain value))

/-- Does something unless it is guarded and the template extends another one. -/
def unlessExtending (stage : Stage) (guarded : Bool) (action : Run Unit) : Run Unit := do
  if guarded && (← layout? stage).isSome then return () else action

/-- Runs something between entering and leaving a scope. -/
def inFrame (stage : Stage) (frame : Frame) (action : Run Unit) : Run Unit := do
  enterFrame stage frame
  action
  leaveFrame stage frame

/-- The value of something after the output of a body was captured. -/
def withCapture (body : Run Unit) (result : Run Value) : Run Value := do
  openCapture
  body
  let value ← result
  closeCapture
  return value

/-- Extends a template, once. -/
def extendOnce (stage : Stage) (checked : Bool) (template : Run Value) : Run Unit := do
  if checked && (← layout? stage).isSome then
    fail ⟨.templateFailed, "extended multiple times"⟩
  extend stage (← template)

/-- Does something for each item of an iterator, and says whether there was one. The first argument
bounds their number. -/
def forEach (iterator : Ref) (action : Value → Run Unit) : (bound : Nat) → (found : Bool) → Run Bool
  | 0, found => return found
  | bound + 1, found => do
    match ← advance iterator with
    | .some item =>
      action item
      forEach iterator action bound true
    | .none => return found

/-- Goes through a loop that keeps its own object, and says whether there was an item. -/
def forEachTurn (address : Ref) (action : Value → Run Unit) :
    (bound : Nat) → (found : Bool) → Run Bool
  | 0, found => return found
  | bound + 1, found => do
    match ← loopState? (.ref address) with
    | .none => return found
    | .some (_, state) =>
      match ← loopNext address state with
      | .some item =>
        action item
        forEachTurn address action bound true
      | .none => return found

/-- The items of a loop that pass its filter, as an iterator that is run on demand. -/
def filteredItems (stage : Stage) (place : Place) (frame : Frame) (test : Code) (source : Value) :
    Run Value := do
  let iterator ← iterate source
  let activation ← activate (some stage.activation)
  enterFrame { stage with activation := activation } frame
  let slots := ((activation? (← world) activation).map Activation.slots).getD []
  new (.iterator "generator"
    (.filtered iterator place test stage.activation slots stage.context stage.height))

/-- What a loop runs through. -/
def loopSource (stage : Stage) (place : Place) (test : Option (Frame × Code)) (source : Value) :
    Run Value :=
  match test with
  | none => return source
  | some (frame, code) => filteredItems stage place frame code source

/-- The object of a loop that starts. -/
def startLoop (source : Value) (depth : Int) (recursive : Option (LoopCode × Ref × Ref × Nat)) :
    Run Ref := do
  let iterator ← iterate source
  allocate (.loop ⟨source, iterator, -1, none, none, none, none, none, recursive, depth⟩)

/-- Runs the turns of a loop and leaves its scope; says whether there was an item. -/
def runTurns (stage : Stage) (place : Place) (loopSlot : Option Slot) (frame : Frame)
    (source : Value) (depth : Int) (recursive : Option (LoopCode × Ref × Ref × Nat))
    (body : Run Unit) : Run Bool := do
  let turn (item : Value) (own : Option (Slot × Ref)) : Run Unit := do
    assign stage item place
    match own with
    | some (slot, address) => setSlot stage slot (.ref address)
    | none => pure ()
    enterFrame stage frame
    body
  let ran ← match loopSlot with
    | some slot =>
      let address ← startLoop source depth recursive
      forEachTurn address (fun item => turn item (some (slot, address))) Value.itemLimit false
    | none =>
      forEach (← iterate source) (fun item => turn item none) Value.itemLimit false
  leaveFrame stage frame
  return ran

/-- Runs a loop that is not recursive. -/
def runLoop (stage : Stage) (place : Place) (loopSlot : Option Slot) (source : Run Value)
    (test : Option (Frame × Code)) (frame : Frame) (body : Run Unit) (otherwiseFrame : Frame)
    (otherwise : Run Unit) : Run Unit := do
  let items ← loopSource stage place test (← source)
  let ran ← runTurns stage place loopSlot frame items 0 none body
  if ran then return () else inFrame stage otherwiseFrame otherwise

/-- Starts a recursive loop: it is a function that is called with what the loop runs through. -/
def runRecursive (stage : Stage) (code : LoopCode) (source : Run Value) : Run Unit := do
  let value ← source
  let starter ← allocate (.loop ⟨.none, 0, -1, none, none, none, none, none,
    some (code, stage.activation, stage.context, stage.height), -1⟩)
  emit (← call (some stage.context) (.ref starter) (.ofList [value]))

/-- A macro that is defined here. -/
def newMacro (stage : Stage) (definition : MacroCode) : Run Value := do
  let escapes ← escaping stage.context
  new (.macroOf ⟨definition, stage.activation, stage.context, escapes⟩)

/-- Defines a macro. -/
def defineMacro (stage : Stage) (slot : Slot) (published : Bool) (definition : MacroCode) :
    Run Unit := do
  setSlot stage slot (← newMacro stage definition)
  if published then publish stage [(slot.name, slot)]

/-- Runs a block in the context, or in one that sees local variables too. -/
def runBlock (stage : Stage) (name : String) (required : Bool) (locals : Option Locals) :
    Run Unit := do
  let context ← match locals with
    | some locals => derivedContext stage locals
    | none => pure stage.context
  let chain := ((← contextState stage.context).blocks.lookup name).getD []
  if required && chain.length ≤ 1 then
    fail ⟨.templateFailed, "Required block " ++ Text.quoted (Text.ofString name) ++ " not found"⟩
  match chain with
  | first :: _ => renderBlock first context
  | [] => fail (.missingKey (Text.quoted (Text.ofString name)))

/-- Includes a template; one that is missing may be left out. -/
def include? (stage : Stage) (template : Run Value) (selection : Selection)
    (ignoreMissing : Bool) (locals : Option Locals) : Run Unit := do
  let find : Run (Text × Entry) := do selected selection (← template)
  if ignoreMissing then
    match ← attempt find Failure.isTemplateMissing with
    | some found => included stage found locals
    | none => return ()
  else included stage (← find) locals

/-- Imports a template as a module. -/
def importModule (stage : Stage) (template : Run Value) (slot : Slot) (published : Bool)
    (locals : Option Locals) : Run Unit := do
  let (_, made) ← imported stage (← template) locals
  setSlot stage slot (.ref made)
  if published then publishHidden stage slot.name slot

/-- Imports names from a template; one that it does not export is undefined. -/
def importNames (stage : Stage) (line : Nat) (template : Run Value)
    (names : List (String × Slot)) (published : Bool) (locals : Option Locals) : Run Unit := do
  let (owner, made) ← imported stage (← template) locals
  let exports := match ← cell made with
    | some (.module _ _ exports) => exports
    | _ => []
  let here := (← contextState stage.context).template
  names.forM fun (name, slot) => do
    let known := Text.ofString name
    let value ← match exports.lookup known with
      | some value => pure value
      | none =>
        let hint := "the template " ++ Text.quoted owner ++ " (imported on line " ++
          Text.ofNat line ++ " in " ++ Text.quoted here ++
          ") does not export the requested name " ++ Text.quoted known
        pure (.undefined (← environment).strict (some hint) none (some (.text known))
          .undefinedName)
    setSlot stage slot value
  if published then
    names.forM fun (_, slot) => publishHidden stage slot.name slot

/-- Fails if a variable whose entries are assigned to is not a namespace. -/
def checkNamespace (stage : Stage) (slot : Slot) : Run Unit := do
  let wrong : Run Unit :=
    fail ⟨.templateFailed, "cannot assign attribute on non-namespace object"⟩
  match ← slotValue stage slot with
  | .ref address =>
    match ← cell address with
    | some (.namespace _) => return ()
    | _ => wrong
  | _ => wrong

/-- Assigns a value. -/
def assignValue (stage : Stage) (spaces : List Slot) (place : Place) (value : Run Value)
    (published : Published) : Run Unit := do
  spaces.forM (checkNamespace stage)
  assign stage (← value) place
  publish stage published

/-- Assigns the output of a body, which is markup if the context escapes. -/
def assignOutput (stage : Stage) (frame : Frame) (body : Run Unit) (result : Run Value)
    (place : Place) (published : Published) : Run Unit := do
  enterFrame stage frame
  let value ← withCapture body do
    let isSafe ← truth (← escaping stage.context)
    let value ← result
    if isSafe then return .markup (← MarkupFilters.content value) else return value
  assign stage value place
  publish stage published
  leaveFrame stage frame

/-- Runs a body while the context escapes as a value says, which is asked for its truth each time. -/
def withEscaping (stage : Stage) (value : Run Value) (body : Run Unit) : Run Unit := do
  let before ← escaping stage.context
  setEscaping stage.context (← value)
  body
  setEscaping stage.context before

/-- Defines the body of a call block as a macro, calls, and writes the result. -/
def runCallBlock (stage : Stage) (slot : Slot) (definition : MacroCode) (result : Run Value) :
    Run Unit := do
  setSlot stage slot (← newMacro stage definition)
  emit (← result)

/-- Assigns each value to its place in turn. -/
def assignEach (stage : Stage) (places : List Place) (values : List (Run Value)) : Run Unit :=
  (places.zip values).forM fun (place, value) => do assign stage (← value) place

/-- Runs the body of the first branch whose test holds. -/
def runBranches (otherwise : Run Unit) : List (Run Value × Run Unit) → Run Unit
  | [] => otherwise
  | (test, body) :: rest => do
    if ← truth (← test) then body else runBranches otherwise rest

mutual

/-- Runs a statement. -/
def runStep (stage : Stage) : Step → Run Unit
  | .output guarded pieces => unlessExtending stage guarded (pieces.forM (writePiece stage))
  | .extending checked template => extendOnce stage checked (evaluate stage template)
  | .extendedTwice => fail ⟨.templateFailed, "extended multiple times"⟩
  | .forLoop loop => runLoopStep stage loop
  | .choice branches otherwise => runBranches (runSteps stage otherwise) (branchRuns stage branches)
  | .defineMacro slot published definition => defineMacro stage slot published definition
  | .callBlock slot definition call => runCallBlock stage slot definition (evaluate stage call)
  | .filterBlock frame body filter =>
    inFrame stage frame (withCapture (runSteps stage body) (evaluate stage filter) >>= emit)
  | .scope frame places values body =>
    inFrame stage frame
      (assignEach stage places (operandRuns stage values) >>= fun _ => runSteps stage body)
  | .block name guarded required locals =>
    unlessExtending stage guarded (runBlock stage name required locals)
  | .included template selection ignoreMissing locals =>
    include? stage (evaluate stage template) selection ignoreMissing locals
  | .importAs template slot published locals =>
    importModule stage (evaluate stage template) slot published locals
  | .importFrom line template names published locals =>
    importNames stage line (evaluate stage template) names published locals
  | .assign spaces place value published =>
    assignValue stage spaces place (evaluate stage value) published
  | .assignBlock frame body filter place published =>
    assignOutput stage frame (runSteps stage body)
      ((filter.map (evaluate stage)).getD (capturedValue stage .never)) place published
  | .escaping value body => withEscaping stage (evaluate stage value) (runSteps stage body)

/-- Runs statements in order. -/
def runSteps (stage : Stage) : List Step → Run Unit
  | [] => return ()
  | step :: rest => runStep stage step >>= fun _ => runSteps stage rest

/-- Computations of the tests and bodies of branches, none of which has run yet. -/
def branchRuns (stage : Stage) : List Branch → List (Run Value × Run Unit)
  | [] => []
  | .mk test body :: rest => (evaluate stage test, runSteps stage body) :: branchRuns stage rest

/-- Runs a loop. -/
def runLoopStep (stage : Stage) : LoopCode → Run Unit
  | .mk place loopSlot source test frame body otherwiseFrame otherwise recursive =>
    match recursive with
    | none =>
      runLoop stage place loopSlot (evaluate stage source) test frame (runSteps stage body)
        otherwiseFrame (runSteps stage otherwise)
    | some escaping =>
      runRecursive stage (.mk place loopSlot source test frame body otherwiseFrame otherwise
        (some escaping)) (evaluate stage source)

end

end Run

end PageTemplates
