import PageTemplates.Template.Constant
import PageTemplates.Template.Scope
import PageTemplates.Template.Token

/-!
Compilation of the tree of a template to a program. Names become variables of the scopes that declare
them, constants are computed, neighbouring constants of the output become one piece, and what a
template that extends another one would write outside its blocks is left out or guarded. The first
fault decides: one with a line in the source, or a failure of a constant.
-/

namespace PageTemplates.Template

/-- Why a template has no program. -/
inductive CompileFault where
  | source (fault : SyntaxFault)
  | failure (failure : Failure)
  deriving Inhabited

/-- What compilation depends on: the setting that constants are computed in, the name of the
template, and whether it escapes. -/
structure Compiler where
  setting : Setting
  name : Text
  escapes : Bool

/-- What is known while a template is compiled: how many tags so far extend a template and whether
one of them certainly does, whether values are escaped here and whether that may change during the
render, and parameters that may still lack their value. -/
structure CompileState where
  extending : Nat
  surelyExtending : Bool
  escapes : Bool
  unsettled : Bool
  unfilled : List Slot

/-- A computation that compiles. -/
abbrev Compile := ReaderT Compiler (StateT CompileState (Except CompileFault))

/-- Where a statement stands. Outside all scopes names are handed to the context; at the root a tag
that extends certainly does; a soft place leaves unknown filters to the render; where output is
checked it is left out once the template extends another one; and `home` is the title of the body
that the statement is part of. -/
structure Position where
  scopes : Scopes
  outermost : Bool
  root : Bool
  soft : Bool
  checksOutput : Bool
  home : String

namespace Position

/-- A place in a new scope, which takes note of what it declares. -/
def inside (position : Position) (declare : Scopes → Scopes) : Position :=
  ⟨declare position.scopes.inner, false, false, false, position.checksOutput, position.home⟩

/-- The place inside a choice. -/
def softened (position : Position) : Position := { position with root := false, soft := true }

/-- The frame of the innermost scope. -/
def frame (position : Position) : Frame := (position.scopes.head?.map Symbols.frame).getD default

end Position

namespace Compile

/-- Fails at a line of the source. -/
def failAt {Result : Type} (line : Nat) (reason : Text) : Compile Result :=
  throw (.source ⟨line, reason⟩)

/-- The variable that a name leads to. -/
def slotOf (position : Position) (name : String) : Compile Slot := do
  match position.scopes.find? name with
  | some slot => return slot
  | none =>
    throw (.failure ⟨.assertion, "Tried to resolve a name to a reference that was unknown to the " ++
      "frame (" ++ Text.quoted (Text.ofString name) ++ ")"⟩)

/-- Runs something on constants. -/
def onConstants {Result : Type} (action : Constant.Surroundings → Run Result) : Compile Result := do
  let state ← get
  match Constant.outside (← read).setting state.escapes state.unsettled action with
  | .ok result => return result
  | .error failure => throw (.failure failure)

/-- An expression with its constants computed, unless escaping is not settled. -/
def simplify (expression : Expression) : Compile Expression := do
  if (← get).unsettled then return expression
  else onConstants fun around => Constant.simplified around expression

mutual

/-- An expression with the constants of its parts computed. A list of constants stays a list. -/
def prepare : Expression → Compile Expression
  | .data text => return .data text
  | .constant data => return .constant data
  | .name name => return .name name
  | .tuple items => Expression.tuple <$> prepareAll items
  | .list items => Expression.list <$> prepareAll items
  | .dict keys values => do
    let keys ← prepareAll keys
    return .dict keys (← prepareAll values)
  | .slice start stop step => return .slice start stop step
  | other => simplify other

/-- Expressions with the constants of their parts computed. -/
def prepareAll : List Expression → Compile (List Expression)
  | [] => return []
  | expression :: rest => do
    let expression ← prepare expression
    return expression :: (← prepareAll rest)

end

/-- How values are escaped here. -/
def escapingHere : Compile Escaping := do
  let state ← get
  return if state.unsettled then .current else if state.escapes then .always else .never

/-- The code of a constant, which must be short enough to be written. -/
def constantCode (data : Data) : Compile Code := do
  let _ ← onConstants fun _ => do Run.quoted (← Run.ofData data)
  return .constant data

/-- The code of a name that is read. -/
def nameCode (position : Position) (name : String) : Compile Code := do
  let slot ← slotOf position name
  let isParameter := position.scopes.loadOf? slot == some .parameter
  return .variable slot (!isParameter || (← get).unfilled.contains slot)

/-- Fails for a filter or test that there is not, unless the place is soft. -/
def checkRule (position : Position) (kind : Text) (line : Nat) (name : String)
    (known : List String) : Compile Unit := do
  if !position.soft && !known.contains name then
    failAt line ("No " ++ kind ++ " named " ++ Text.quoted (Text.ofString name) ++ ".")

/-- Where a condition went wrong, for a message. -/
def complaintAt (line : Nat) : Compile Text := do
  return "the inline if-expression on line " ++ Text.ofNat line ++ " in " ++
    Text.quoted (← read).name ++ " evaluated to false and no else section was defined."

/-- The code of three parts. -/
def three {Result : Type} (build : Code → Code → Option Code → Result) (first second : Compile Code)
    (third : Compile (Option Code)) : Compile Result := do
  let first ← first
  let second ← second
  return build first second (← third)

/-- The code of a conditional: what is chosen comes before the test. -/
def conditionalCode (line : Nat) (test chosen : Compile Code) (otherwise : Compile (Option Code)) :
    Compile Code := do
  let chosen ← chosen
  let test ← test
  let otherwise ← otherwise
  return .conditional test chosen otherwise (← complaintAt line)

/-- The code of two parts. -/
def two {First Second Result : Type} (build : First → Second → Result) (first : Compile First)
    (second : Compile Second) : Compile Result := do
  let first ← first
  return build first (← second)

/-- The code of a filter or test. -/
def ruleCode (check : Compile Unit) (build : Code → CallCode → Code) (target : Compile Code)
    (arguments : Compile CallCode) : Compile Code := do
  check
  two build target arguments

/-- The code of bounds. -/
def boundsCode (build : Option Code → Option Code → Option Code → Code)
    (start stop step : Compile (Option Code)) : Compile Code := do
  let start ← start
  let stop ← stop
  return build start stop (← step)

/-- The code of the arguments of a call. -/
def argumentsWith (names : List String) (positional values : Compile (List Code))
    (spread spreadNamed : Compile (Option Code)) : Compile CallCode := do
  let positional ← positional
  let values ← values
  let spread ← spread
  return .mk positional names values spread (← spreadNamed)

/-- The code of a concatenation. -/
def concatCode (parts : Compile (List Code)) : Compile Code := do
  let parts ← parts
  return .concat (← escapingHere) parts

/-- The code of what a block has captured. -/
def capturedCode : Compile Code := do return .captured (← escapingHere)

/-- The code of literal text inside an expression. -/
def dataCode (text : Text) : Compile Code := do
  return .constant (if (← get).escapes then .markup text else .text text)

mutual

/-- The code of an expression whose constants are computed. -/
def code (position : Position) : Expression → Compile Code
  | .data text => dataCode text
  | .constant data => constantCode data
  | .name name => nameCode position name
  | .tuple items => Code.tuple <$> codes position items
  | .list items => Code.list <$> codes position items
  | .dict keys values => two .dict (codes position keys) (codes position values)
  | .conditional line test chosen otherwise =>
    conditionalCode line (code position.softened test) (code position.softened chosen)
      (optionalCode position.softened otherwise)
  | .filtered line target filter arguments =>
    read >>= fun compiler =>
      ruleCode
        (checkRule position "filter" line filter compiler.setting.environment.filters)
        (.filtered filter) (targetCode position target) (argumentCode position arguments)
  | .tested line target test arguments =>
    read >>= fun compiler =>
      ruleCode (checkRule position "test" line test compiler.setting.environment.tests)
        (.tested test) (code position target) (argumentCode position arguments)
  | .call target arguments => two .call (code position target) (argumentCode position arguments)
  | .item target (.slice start stop step) =>
    code position target >>= fun target =>
      boundsCode (.sliceOf target) (optionalCode position start) (optionalCode position stop)
        (optionalCode position step)
  | .item target index => two .item (code position target) (code position index)
  | .slice start stop step =>
    boundsCode .slice (optionalCode position start) (optionalCode position stop)
      (optionalCode position step)
  | .member target name => (fun target => .member target name) <$> code position target
  | .concat parts => concatCode (codes position parts)
  | .compare first operators operands =>
    two (fun first operands => .compare first operators operands) (code position first)
      (codes position operands)
  | .conjunction left right => two .conjunction (code position left) (code position right)
  | .disjunction left right => two .disjunction (code position left) (code position right)
  | .negation operand => Code.negation <$> code position operand
  | .binary operator left right =>
    two (.binary operator) (code position left) (code position right)
  | .minus operand => Code.minus <$> code position operand
  | .plus operand => Code.plus <$> code position operand

/-- The code of expressions. -/
def codes (position : Position) : List Expression → Compile (List Code)
  | [] => return []
  | expression :: rest => two List.cons (code position expression) (codes position rest)

/-- The code of an expression that may be absent. -/
def optionalCode (position : Position) : Option Expression → Compile (Option Code)
  | none => return none
  | some expression => some <$> code position expression

/-- The code of what a filter works on: an expression, or what a block has captured. -/
def targetCode (position : Position) : Option Expression → Compile Code
  | none => capturedCode
  | some expression => code position expression

/-- The code of the arguments of a call. -/
def argumentCode (position : Position) : Arguments → Compile CallCode
  | .mk positional names values spread spreadNamed =>
    argumentsWith names (codes position positional) (codes position values)
      (optionalCode position spread) (optionalCode position spreadNamed)

end

/-- The code of an expression. -/
def expressionCode (position : Position) (expression : Expression) : Compile Code := do
  code position (← prepare expression)

/-- The code of an expression that may be absent. -/
def optionCode (position : Position) (expression : Option Expression) :
    Compile (Option Code) := do
  match expression with
  | none => return none
  | some expression => return some (← expressionCode position expression)

mutual

/-- The place of a target. -/
def placeOf (position : Position) : Target → Compile Place
  | .name _ name => Place.slot <$> slotOf position name
  | .member name member => (fun slot => .member slot member) <$> slotOf position name
  | .tuple items => Place.tuple <$> placesOf position items

/-- The places of targets. -/
def placesOf (position : Position) : List Target → Compile (List Place)
  | [] => return []
  | target :: rest => two List.cons (placeOf position target) (placesOf position rest)

end

/-- What an assignment to a target hands to the context. -/
def publishedBy (position : Position) (target : Target) : Compile Published := do
  if position.outermost then
    let names := (target.names.map Prod.snd).foldl (fun so name => Scopes.insertName name so) []
    names.eraseDups.mapM fun name => do return (name, ← slotOf position name)
  else return []

/-- The text of a constant piece of output; none if it is not constant, or fails. -/
def constantPiece (part : Expression) : Compile (Option Text) :=
  onConstants fun around => Constant.ifPossible do
    match ← Constant.valueOf around part with
    | none => return none
    | some value => if around.escapes then some <$> Run.escaped value else some <$> Run.plain value

/-- Literal text, which stands as it is. -/
def isData : Expression → Bool
  | .data _ => true
  | _ => false

/-- Adds constant text to pieces that have the last one first. -/
def addText (text : Text) : List Piece → List Piece
  | .text before :: pieces => .text (before ++ text) :: pieces
  | pieces => .text text :: pieces

/-- The pieces of output. -/
def piecesOf (position : Position) (done : List Piece) : List Expression → Compile (List Piece)
  | [] => return done.reverse
  | part :: rest => do
    match ← constantPiece part with
    | some text => piecesOf position (addText text done) rest
    | none =>
      let piece ← match part with
        | .data text => pure (.value (.constant (.markup text)) .current)
        | _ => do pure (.value (← expressionCode position part) (← escapingHere))
      piecesOf position (piece :: done) rest

/-- The statements that a body becomes, and whether it ends there. -/
abbrev Compiled := List Step × Bool

/-- Statements that do not end a body. -/
def steps (steps : List Step) : Compiled := (steps, false)

/-- The statement of output. -/
def outputStep (position : Position) (parts : List Expression) : Compile Compiled := do
  if position.checksOutput && (← get).surelyExtending then return steps []
  return steps [.output position.checksOutput (← piecesOf position [] parts)]

/-- The statement of a tag that extends. -/
def extendStep (position : Position) (line : Nat) (template : Expression) : Compile Compiled := do
  if !position.outermost then failAt line "cannot use extend from a non top-level scope"
  let state ← get
  if state.extending > 0 && state.surelyExtending then return ([.extendedTwice], true)
  let template ← expressionCode position template
  modify fun state => { state with
    extending := state.extending + 1
    surelyExtending := state.surelyExtending || position.root }
  return steps [.extending (state.extending > 0) template]

/-- The statement of a block. -/
def blockStep (position : Position) (name : String) (seesLocals required : Bool) :
    Compile Compiled := do
  let state ← get
  if position.outermost && state.surelyExtending then return steps []
  let guarded := position.outermost && state.extending > 0
  let locals := if seesLocals then some position.scopes.stored else none
  return steps [.block name guarded required locals]

/-- How a template is selected by what an include names. -/
def selectionOf : Expression → Selection
  | .constant (.text _) => .one
  | .tuple _ => .several
  | .list _ => .several
  | _ => .byValue

/-- Local variables that another template sees, if it sees the context. -/
def localsOf (position : Position) (withContext : Bool) : Option Locals :=
  if withContext then some position.scopes.stored else none

/-- What a macro declares in its scope. -/
def macroScopes (parameters : List String) (defaults : List Expression) (body : List Statement)
    (extra : List String) (scopes : Scopes) : Scopes :=
  let declared := parameters.foldl Scopes.parameter scopes
  let read := Scopes.statements body (declared.readAll (Expression.readsAll defaults))
  extra.foldl Scopes.parameter read

/-- The code of the defaults of parameters. Until a parameter has got its value, it may lack one. -/
def defaultCodes (position : Position) (unfilled : List Slot) :
    List (Option Expression) → Compile (List Code)
  | [] => do
    modify fun state => { state with unfilled := [] }
    return []
  | default :: rest => do
    modify fun state => { state with unfilled := unfilled }
    match default with
    | none => defaultCodes position (unfilled.drop 1) rest
    | some expression =>
      let first ← expressionCode position expression
      return first :: (← defaultCodes position (unfilled.drop 1) rest)

/-- A macro from its parts; `body` compiles its body. -/
def macroOf (position : Position) (line : Nat) (name : Option String) (parameters : List String)
    (defaults : List Expression) (statements : List Statement)
    (body : Position → Compile (List Step)) : Compile MacroCode := do
  let usesCaller := uses statements "caller"
  let explicit := parameters.findIdx? (· == "caller")
  let withoutDefault := parameters.length - defaults.length
  if usesCaller then
    if let some place := explicit then
      if place < withoutDefault then
        failAt line ("When defining macros or call blocks the special \"caller\" argument must be " ++
          "omitted or be given a default.")
  let takesNamed := uses statements "kwargs" && !parameters.contains "kwargs"
  let takesRest := uses statements "varargs" && !parameters.contains "varargs"
  let extra := (if usesCaller && explicit.isNone then ["caller"] else []) ++
    (if takesNamed then ["kwargs"] else []) ++ (if takesRest then ["varargs"] else [])
  let inside := { position.inside (macroScopes parameters defaults statements extra) with
    checksOutput := false
    home := MacroCode.titleIn position.home }
  let depth := inside.scopes.depth
  let given := parameters.zipIdx.map fun (_, place) =>
    if place < withoutDefault then none else defaults[place - withoutDefault]?
  let parameterSlots := parameters.map fun name => (⟨depth, name⟩ : Slot)
  let defaultCode ← defaultCodes inside parameterSlots given
  let body ← body inside
  return .mk name parameters defaultCode usesCaller takesNamed takesRest inside.frame body
    position.home

/-- The variable that holds the body of a call block. -/
def callerSlot (position : Position) : Slot := ⟨position.scopes.depth, ".caller"⟩

/-- Adds the body of a call block to the arguments of its call. -/
def withCaller (slot : Slot) : Code → Code
  | .call target (.mk positional names values spread spreadNamed) =>
    .call target (.mk positional (names ++ ["caller"]) (values ++ [.variable slot false]) spread
      spreadNamed)
  | other => other

/-- Sets escaping as a value says, if it is known, and leaves it unsettled otherwise. -/
def settleEscaping (value : Expression) : Compile Unit := do
  let known ← onConstants fun around => do
    match ← Constant.valueOf around value with
    | none => return none
    | some value => return some (← Run.truth value)
  match known with
  | some escapes => modify fun state => { state with escapes := escapes }
  | none => modify fun state => { state with unsettled := true }

/-- Does something and goes back to what was known of escaping. -/
def keepingEscaping {Result : Type} (action : Compile Result) : Compile Result := do
  let before ← get
  let result ← action
  modify fun state => { state with escapes := before.escapes, unsettled := before.unsettled }
  return result

/-- A loop from its parts; `body` and `otherwise` compile its bodies. -/
def loopOf (position : Position) (target : Target) (source : Expression)
    (statements others : List Statement) (test : Option Expression) (recursive : Bool)
    (body otherwise : Position → Compile (List Step)) : Compile LoopCode := do
  let blocks := Statement.blocksAll statements ++ Statement.blocksAll others
  let extended := recursive || uses statements "loop" || blocks.any BlockNode.seesLocals
  let home := if recursive then position.home ++ ".<locals>.loop" else position.home
  let position := { position with home := home }
  let inLoop := position.inside fun scopes =>
    let scopes := if extended then scopes.parameter "loop" else scopes
    Scopes.statements statements (scopes.target true target)
  let inOther := position.inside fun scopes => Scopes.statements others scopes
  let place ← placeOf inLoop target
  let testCode ← match test with
    | none => pure none
    | some test =>
      let inTest := position.inside fun scopes => (scopes.target true target).readAll test.reads
      pure (some (inTest.frame, ← expressionCode inTest test))
  let stores := target.names ++ Statement.storesAll statements ++ Statement.storesAll others
  if let some (line, _) := stores.find? fun (_, name) => name == "loop" then
    failAt line "Can't assign to special loop variable in for-loop target"
  let loopSlot : Option Slot := if extended then some ⟨inLoop.scopes.depth, "loop"⟩ else none
  let sourceCode : Compile Code := expressionCode position source
  let early ← if recursive then pure none else some <$> sourceCode
  let bodySteps ← body inLoop
  let otherSteps ← otherwise inOther
  let escaping ← escapingHere
  let sourceCode ← match early with
    | some code => pure code
    | none => sourceCode
  return .mk place loopSlot sourceCode testCode inLoop.frame bodySteps inOther.frame otherSteps
    (if recursive then some escaping else none)

/-- The statement of an assignment. -/
def assignStep (position : Position) (target : Target) (value : Expression) :
    Compile Compiled := do
  let spaces ← target.spaces.eraseDups.mapM (slotOf position)
  let place ← placeOf position target
  let value ← expressionCode position value
  return steps [.assign spaces place value (← publishedBy position target)]

/-- The statement of an assignment of output. -/
def assignBlockStep (position : Position) (target : Target) (filter : Option Expression)
    (statements : List Statement) (body : Position → Compile (List Step)) : Compile Compiled := do
  let inside := { position.inside (Scopes.statements statements) with checksOutput := false }
  let body ← body inside
  let place ← placeOf position target
  let filter ← optionCode inside filter
  return steps [.assignBlock inside.frame body filter place (← publishedBy position target)]

/-- The statement of a scope with variables of its own. -/
def scopeStep (position : Position) (targets : List Target) (values : List Expression)
    (statements : List Statement) (body : Position → Compile (List Step)) : Compile Compiled := do
  let inside := position.inside fun scopes =>
    Scopes.statements statements (targets.foldl (fun so item => so.target true item) scopes)
  let places ← placesOf inside targets
  let values ← values.mapM (expressionCode position)
  return steps [.scope inside.frame places values (← body inside)]

/-- The statement of a scope with its own escaping. -/
def escapingStep (position : Position) (value : Expression) (statements : List Statement)
    (body : Position → Compile (List Step)) : Compile Compiled := do
  let inside := position.inside fun scopes =>
    Scopes.statements statements (scopes.readAll value.reads)
  keepingEscaping do
    let valueCode ← expressionCode inside value
    settleEscaping value
    return steps [.scope inside.frame [] [] [.escaping valueCode (← body inside)]]

/-- The statement of a block whose output is filtered. -/
def filterBlockStep (position : Position) (filter : Expression) (statements : List Statement)
    (body : Position → Compile (List Step)) : Compile Compiled := do
  let inside := position.inside fun scopes =>
    (Scopes.statements statements scopes).readAll filter.reads
  let body ← body inside
  return steps [.filterBlock inside.frame body (← expressionCode inside filter)]

/-- The statement of a macro. -/
def macroStep (position : Position) (line : Nat) (name : String) (parameters : List String)
    (defaults : List Expression) (statements : List Statement)
    (body : Position → Compile (List Step)) : Compile Compiled := do
  let definition ← macroOf position line (some name) parameters defaults statements body
  return steps [.defineMacro (← slotOf position name) position.outermost definition]

/-- The statement of a call with a body. -/
def callBlockStep (position : Position) (line : Nat) (target : Expression) (arguments : Arguments)
    (parameters : List String) (defaults : List Expression) (statements : List Statement)
    (body : Position → Compile (List Step)) : Compile Compiled := do
  let definition ← macroOf position line none parameters defaults statements body
  let slot := callerSlot position
  let call ← expressionCode position (.call target arguments)
  return steps [.callBlock slot definition (withCaller slot call)]

/-- The statement of an import of names. -/
def importFromStep (position : Position) (line : Nat) (template : Expression)
    (names : List (String × String)) (withContext : Bool) : Compile Compiled := do
  let template ← expressionCode position template
  let names ← names.mapM fun (name, known) => do return (name, ← slotOf position known)
  return steps [.importFrom line template names position.outermost
    (localsOf position withContext)]

/-- The first result and the second, unless the first ends a body. -/
def followed (first rest : Compile Compiled) : Compile Compiled := do
  let (done, ended) ← first
  if ended then return (done, true)
  let (more, ended) ← rest
  return (done ++ more, ended)

/-- The statements of a body. -/
def bodySteps (body : Compile Compiled) : Compile (List Step) := Prod.fst <$> body

mutual

/-- Compiles a statement. -/
def statement : Statement → Position → Compile Compiled
  | .output parts, position => outputStep position parts
  | .extending line template, position => extendStep position line template
  | .forLoop target source body otherwise test recursive, position =>
    (fun loop => steps [.forLoop loop]) <$>
      loopOf position target source body otherwise test recursive
        (fun inside => bodySteps (statements body inside))
        (fun inside => bodySteps (statements otherwise inside))
  | .choice clauses otherwise, position =>
    two (fun branches otherwise => steps [.choice branches otherwise])
      (branchesOf clauses position.softened)
      (bodySteps (statements otherwise position.softened))
  | .macroDef line name parameters defaults body, position =>
    macroStep position line name parameters defaults body
      (fun inside => bodySteps (statements body inside))
  | .callBlock line target arguments parameters defaults body, position =>
    callBlockStep position line target arguments parameters defaults body
      (fun inside => bodySteps (statements body inside))
  | .filterBlock filter body, position =>
    filterBlockStep position filter body (fun inside => bodySteps (statements body inside))
  | .scope targets values body, position =>
    scopeStep position targets values body (fun inside => bodySteps (statements body inside))
  | .block _ name _ seesLocals required, position => blockStep position name seesLocals required
  | .included template withContext ignoreMissing, position =>
    (fun code => steps [.included code (selectionOf template) ignoreMissing
      (localsOf position withContext)]) <$> expressionCode position template
  | .importAs template name withContext, position =>
    two (fun slot code => steps [.importAs code slot position.outermost
      (localsOf position withContext)]) (slotOf position name) (expressionCode position template)
  | .importFrom line template names withContext, position =>
    importFromStep position line template names withContext
  | .assign target value, position => assignStep position target value
  | .assignBlock target filter body, position =>
    assignBlockStep position target filter body (fun inside => bodySteps (statements body inside))
  | .escaping value body, position =>
    escapingStep position value body (fun inside => bodySteps (statements body inside))

/-- Compiles statements up to one that ends the body. -/
def statements : List Statement → Position → Compile Compiled
  | [], _ => return ([], false)
  | first :: rest, position => followed (statement first position) (statements rest position)

/-- Compiles the branches of a choice. -/
def branchesOf : List Clause → Position → Compile (List Branch)
  | [], _ => return []
  | .mk test body :: rest, position =>
    two List.cons
      (two Branch.mk (expressionCode position test) (bodySteps (statements body position)))
      (branchesOf rest position)

end

/-- Compiles the body of a block. -/
def block (node : BlockNode) : Compile BlockCode := do
  let usesSelf := uses node.body "self"
  let usesSuper := uses node.body "super"
  let declare (scopes : Scopes) : Scopes :=
    let scopes := if usesSelf then scopes.parameter "self" else scopes
    let scopes := if usesSuper then scopes.parameter "super" else scopes
    Scopes.statements node.body scopes
  let position : Position :=
    ⟨declare (Scopes.inner []), false, false, false, false, "block_" ++ node.name⟩
  let body ← bodySteps (statements node.body position)
  return ⟨node.name, usesSelf, usesSuper, position.frame, body⟩

/-- Fails if two blocks have one name. -/
def checkBlocks (seen : List String) : List BlockNode → Compile Unit
  | [] => return ()
  | node :: rest =>
    if seen.contains node.name then
      failAt node.line ("block " ++ Text.quoted (Text.ofString node.name) ++ " defined twice")
    else checkBlocks (node.name :: seen) rest

/-- Compiles a template. -/
def template (body : List Statement) : Compile Program := do
  let blocks := Statement.blocksAll body
  checkBlocks [] blocks
  let usesSelf := uses body "self"
  let mayExtend := Statement.anyExtends body
  let declare (scopes : Scopes) : Scopes :=
    let scopes := if usesSelf then scopes.parameter "self" else scopes
    Scopes.statements body scopes
  let position : Position := ⟨declare (Scopes.inner []), true, true, false, mayExtend, "root"⟩
  let steps ← bodySteps (statements body position)
  let blockCodes ← blocks.mapM block
  return ⟨usesSelf, mayExtend, position.frame, steps, blockCodes⟩

end Compile

/-- The program of a tree. -/
def compile (compiler : Compiler) (body : List Statement) : Except CompileFault Program :=
  let start : CompileState := ⟨0, false, compiler.escapes, false, []⟩
  ((Compile.template body).run compiler |>.run start).map Prod.fst

end PageTemplates.Template
