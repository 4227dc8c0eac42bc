import PageTemplates.FunctionTable
import PageTemplates.Render.Advance

/-!
Calling values: functions of the host, the names known to every template, methods, macros, blocks and
recursive loops.
-/

namespace PageTemplates.Run

open Template (Slot Code MacroCode LoopCode)

/-- The largest range that a guarded template can make. -/
def rangeLimit : Nat := 100000

/-- A range of whole numbers. -/
def newRange (given : Given) : Run Value := do
  if !given.named.isEmpty then fail (.wrongType "range() takes no keyword arguments")
  match given.positional with
  | [] => fail (.wrongType "range expected at least 1 argument, got 0")
  | [stop] => return .range 0 (← toIndex stop) 1
  | [start, stop] =>
    let start ← toIndex start
    return .range start (← toIndex stop) 1
  | [start, stop, step] =>
    let start ← toIndex start
    let stop ← toIndex stop
    let step ← toIndex step
    if step == 0 then fail (.wrongValue "range() arg 3 must not be zero")
    return .range start stop step
  | more =>
    fail (.wrongType ("range expected at most 3 arguments, got " ++ Text.ofNat more.length))

/-- A range that is not too large. -/
def boundedRange (given : Given) : Run Value := do
  if let (name, _) :: _ := given.named then
    fail (.wrongType ("safe_range() got an unexpected keyword argument '" ++ name ++ "'"))
  let made ← newRange given
  match made with
  | .range start stop step =>
    if rangeLimit < Value.rangeLength start stop step then
      fail ⟨.overflow, "Range too big. The sandbox blocks ranges larger than MAX_RANGE (" ++
        Text.ofNat rangeLimit ++ ")."⟩
    return made
  | _ => return made

/-- The entries of a new dictionary. -/
def newEntries (given : Given) : Run (List (Value × Value)) := do
  let entries ← match given.positional with
    | [] => pure []
    | [source] => ContainerMethods.entriesFrom source
    | more => fail (.wrongType ("dict expected at most 1 argument, got " ++ Text.ofNat more.length))
  ContainerMethods.mergeEntries [] (entries ++ ContainerMethods.namedEntries given)

/-- A cycler. -/
def newCycler (given : Given) : Run Value := do
  if let (name, _) :: _ := given.named then
    fail (.wrongType ("Cycler.__init__() got an unexpected keyword argument '" ++ name ++ "'"))
  if given.positional.isEmpty then fail (.wrongType "at least one item has to be provided")
  new (.cycler given.positional 0)

/-- The signature of a joiner. -/
def joinerSignature : Signature := [.required "self", .optional "sep" (.text ", ")]

/-- A joiner. -/
def newJoiner (given : Given) : Run Value := do
  let bound ← settled (joinerSignature.bind "Joiner.__init__"
    { given with positional := .none :: given.positional })
  new (.joiner (bound.get "sep") false)

/-- The signature of filler text. -/
def fillerSignature : Signature :=
  [.optional "n" (.int 5), .optional "html" (.bool true), .optional "min" (.int 20),
    .optional "max" (.int 100)]

/-- Paragraphs of filler text. -/
def fillerText (given : Given) : Run Value := do
  let bound ← settled (fillerSignature.bind "generate_lorem_ipsum" given)
  let count ← toIndex (bound.get "n")
  let paragraphs : List Text := List.replicate count.toNat "Lorem ipsum dolor sit amet."
  if ← truth (bound.get "html") then
    return .markup (Text.join "\n" (paragraphs.map fun text => "<p>" ++ text ++ "</p>"))
  else return .text (Text.join "\n\n" paragraphs)

/-- Calls a name known to every template. -/
def callBuiltin (name : String) (given : Given) : Run Value := do
  match name with
  | "range" => newRange given
  | "safe_range" => boundedRange given
  | "dict" => newDict (← newEntries given)
  | "cycler" => newCycler given
  | "joiner" => newJoiner given
  | "namespace" => new (.namespace (← newEntries given))
  | "lipsum" => fillerText given
  | _ => fail ⟨.unsupported, "calling " ++ Text.ofString name ++ " is not supported"⟩

/-- What a run of code writes, as one text. -/
def writtenBy (action : Run Unit) : Run Text := do
  openCapture
  action
  let text ← joined (← captured)
  closeCapture
  return text

/-- The arguments of a macro by the names of its variables, from the arguments of a call. A caller that
is a parameter of its own has to be the last one given by place, or be given by name. -/
def macroArguments (code : MacroCode) (given : Given) : Run (List (String × Value)) := do
  let parameters := code.parameters
  let count := parameters.length
  let shownName := match code.name with
    | some name => Text.quoted (Text.ofString name)
    | none => "None"
  let placed := parameters.zip given.positional
  let left := parameters.drop given.positional.length
  let byName := left.map fun name =>
    (name, (given.named.lookup (Text.ofString name)).getD .missing)
  let named := given.named.filter fun (name, _) =>
    !left.any fun parameter => Text.ofString parameter = name
  let callerGiven :=
    if left.isEmpty then parameters.contains "caller" else left.contains "caller"
  let takesCaller := code.takesCaller && !callerGiven
  let caller ← match named.lookup (Text.ofString "caller") with
    | some .none => pure none
    | some value => pure (some value)
    | none => pure none
  let noCaller : Value := .undefined (← environment).strict (some "No caller defined") none
    (some (.text "caller")) .undefinedName
  let callerPart := if takesCaller then [("caller", caller.getD noCaller)] else []
  let named :=
    if takesCaller then named.filter fun (name, _) => name != Text.ofString "caller" else named
  let namedPart ←
    if code.takesNamed then do
      let entries ← newDict (named.map fun (name, value) => (.text name, value))
      pure [("kwargs", entries)]
    else
      match named with
      | [] => pure []
      | (name, _) :: _ =>
        if named.any fun (name, _) => name = Text.ofString "caller" then
          fail (.wrongType ("macro " ++ shownName ++ " was invoked with two values for the " ++
            "special caller argument. This is most likely a bug."))
        else
          fail (.wrongType ("macro " ++ shownName ++ " takes no keyword argument " ++
            Text.quoted name))
  let rest := given.positional.drop count
  let restPart ←
    if code.takesRest then pure [("varargs", Value.tuple rest)]
    else if rest.isEmpty then pure []
    else
      fail (.wrongType ("macro " ++ shownName ++ " takes not more than " ++ Text.ofNat count ++
        " argument(s)"))
  if takesCaller && parameters.contains "caller" then
    let room := count + (if code.takesNamed then 1 else 0) + (if code.takesRest then 1 else 0)
    fail (.wrongType (Text.ofString code.title ++ "() takes " ++ Text.ofNat room ++
      " positional arguments but " ++ Text.ofNat (room + 1) ++ " were given"))
  else
    return placed ++ byName ++ callerPart ++ namedPart ++ restPart

/-- Gives the parameters of a macro that have no value their defaults, in order. -/
def fillDefaults (stage : Stage) (depth skipped : Nat) (defaults : List Code) :
    (place : Nat) → List String → Run Unit
  | _, [] => return ()
  | place, name :: rest => do
    let slot : Slot := ⟨depth, name⟩
    if (← slotValue stage slot).isMissing then
      let known := Text.ofString name
      let absent : Value := .undefined (← environment).strict
        (some ("parameter " ++ Text.quoted known ++ " was not provided")) none
        (some (.text known)) .undefinedName
      match if place < skipped then none else defaults[place - skipped]? with
      | some code => setSlot stage slot (← evaluate stage code)
      | none => setSlot stage slot absent
    fillDefaults stage depth skipped defaults (place + 1) rest

/-- Calls a macro. -/
def callMacro (context : Option Ref) (state : MacroState) (given : Given) : Run Value := do
  let escapes ← match context with
    | some address => escaping address
    | none => pure state.escapes
  match state.code with
  | .mk _ parameters defaults _ _ _ frame body _ =>
    let arguments ← macroArguments state.code given
    let activation ← activate (some state.activation)
    let height ← captureHeight
    let stage : Stage := ⟨activation, state.context, height + 1⟩
    let text ← writtenBy do
      enterFrame stage frame
      arguments.forM fun (name, value) => setSlot stage ⟨frame.depth, name⟩ value
      fillDefaults stage frame.depth (parameters.length - defaults.length) defaults 0 parameters
      runSteps stage body
    return if ← truth escapes then .markup text else .text text

/-- Runs a recursive loop over a value. -/
def runLoopFunction (code : LoopCode) (outer context : Ref) (height : Nat) (value : Value)
    (depth : Int) : Run Value := do
  match code with
  | .mk place loopSlot _ test frame body otherwiseFrame otherwise recursive =>
    let activation ← activate (some outer)
    let stage : Stage := ⟨activation, context, (← captureHeight) + 1⟩
    let text ← writtenBy do
      let items ← loopSource stage place test value
      let ran ← runTurns stage place loopSlot frame items depth
        (some (code, outer, context, height)) (runSteps stage body)
      if ran then return () else inFrame stage otherwiseFrame (runSteps stage otherwise)
    safeWhere stage (recursive.getD .never) text

/-- Calls the object of a loop. -/
def callLoop (state : LoopState) (given : Given) : Run Value := do
  let signature : Signature := [.required "self", .required "iterable"]
  let bound ← settled (signature.bind "LoopContext.__call__"
    { given with positional := .none :: given.positional })
  match state.recursive with
  | some (code, outer, context, height) =>
    runLoopFunction code outer context height (bound.get "iterable") (state.depth + 1)
  | none =>
    fail (.wrongType "The loop must have the 'recursive' marker to be called recursively.")

/-- Calls a block by its place in the chain of its name. -/
def callBlockOf (name : String) (context : Ref) (depth : Nat) (given : Given) : Run Value := do
  let signature : Signature := [.required "self"]
  let _ ← settled (signature.bind "BlockReference.__call__"
    { given with positional := .none :: given.positional })
  let state ← contextState context
  match ((state.blocks.lookup name).getD [])[depth]? with
  | none => fail (.missingIndex "list index out of range")
  | some entry =>
    let text ← writtenBy (renderBlock entry context)
    return if ← truth (← escaping context) then .markup text else .text text

/-- Calls a thing in the world. -/
def callCell (context : Option Ref) (address : Ref) (content : Cell) (given : Given) :
    Run Value := do
  match content with
  | .macroOf state => callMacro context state given
  | .loop state => callLoop state given
  | .joiner separator used =>
    let signature : Signature := [.required "self"]
    let _ ← settled (signature.bind "Joiner.__call__"
      { given with positional := .none :: given.positional })
    if used then return separator
    else
      put address (.joiner separator true)
      return .text []
  | _ => fail (.notCallable (← className (.ref address)))

/-- Calls a value. -/
def callValue (functions : Array Function) (context : Option Ref) (target : Value)
    (given : Given) : Run Value := do
  match target with
  | .function place =>
    match functions[place]? with
    | some function => function.apply given
    | none => fail (.notCallable "function")
  | .builtin name => callBuiltin name given
  | .method receiver name => Method.callOf receiver name given
  | .blockOf name owner depth => callBlockOf name owner depth given
  | .classOf name => fail ⟨.unsupported, "calling " ++ Text.ofString name ++ " is not supported"⟩
  | .ref address =>
    match ← cell address with
    | some content => callCell context address content given
    | none => fail (.notCallable "object")
  | other =>
    failIfUndefined other
    fail (.notCallable (← className other))

end PageTemplates.Run
