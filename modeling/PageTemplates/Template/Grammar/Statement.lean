import PageTemplates.Template.Grammar.Target

/-!
The grammar of statements, and of whole templates. Each statement starts with a word of its own; a body
goes on up to one of the words that may end it.
-/

namespace PageTemplates.Template

open Production

namespace Grammar

variable (grammar : Grammar)

/-- Fails because of an unknown tag, or of an end of the template inside a body. -/
def failEnding {Result : Type} (tag : Option String) (line : Option Nat)
    (endings : List (List String)) : Production Result := do
  let state ← get
  let quotedWord (word : String) : Text := Text.quoted (Text.ofString word)
  let opening : Text := match tag with
    | none => "Unexpected end of template."
    | some tag => "Encountered unknown tag " ++ quotedWord tag ++ "."
  let looking : List Text := match endings with
    | [] => []
    | innermost :: _ =>
      let wanted := Text.join " or " (innermost.map quotedWord)
      if tag.any fun tag => endings.any fun words => words.contains tag then
        ["You probably made a nesting mistake. Jinja is expecting this tag, but currently " ++
          "looking for " ++ wanted ++ "."]
      else ["Jinja was looking for the following tags: " ++ wanted ++ "."]
  let innermost : List Text := match state.tags with
    | [] => []
    | tag :: _ => ["The innermost block that needs to be closed is " ++ quotedWord tag ++ "."]
  let message := Text.join " " (opening :: looking ++ innermost)
  match line with
  | some line => failAt line message
  | none => fail message

/-- The statements up to one of the ending words, which stays the current token. -/
def statementsUntil (endings : List String) : Production (List Statement) := do
  let _ ← skipSign .colon
  blockEnd
  let body ← grammar.body (some endings)
  match (← current).kind with
  | .ending => failEnding none none (endings :: (← get).endings)
  | _ => return body

/-- The statements up to an ending word, which is taken. -/
def statementsThrough (ending : String) : Production (List Statement) := do
  let body ← grammar.statementsUntil [ending]
  let _ ← advance
  return body

/-- A loop. -/
def forStatement : Production Statement := do
  let _ ← advance
  let target ← grammar.assignTarget false ["in"]
  let _ ← word "in"
  let source ← grammar.openTuple false ["recursive"]
  let test ← if ← skipWord "if" then pure (some (← grammar.conditional)) else pure none
  let recursive ← skipWord "recursive"
  let body ← grammar.statementsUntil ["endfor", "else"]
  let ending ← advance
  let otherwise ←
    if isWord "endfor" ending then pure [] else grammar.statementsThrough "endfor"
  return .forLoop target source body otherwise test recursive

/-- A choice with its further conditions. -/
def ifStatement : Production Statement := do
  let _ ← advance
  let step (clauses : List Clause) : Production (List Clause ⊕ Statement) := do
    let test ← grammar.openTuple false []
    let body ← grammar.statementsUntil ["elif", "else", "endif"]
    let clauses := .mk test body :: clauses
    let ending ← advance
    if isWord "elif" ending then return .inl clauses
    else if isWord "else" ending then
      let otherwise ← grammar.statementsThrough "endif"
      return .inr (.choice clauses.reverse otherwise)
    else return .inr (.choice clauses.reverse [])
  repeated step (grammar.bound + 2) []

/-- A scope with names of its own. -/
def withStatement : Production Statement := do
  let _ ← advance
  let step (pairs : List (Target × Expression)) :
      Production (List (Target × Expression) ⊕ List (Target × Expression)) := do
    match (← current).kind with
    | .blockEnd => return .inr pairs.reverse
    | _ =>
      if !pairs.isEmpty then
        let _ ← sign .comma
      let target ← grammar.assignTarget false []
      let _ ← sign .assign
      return .inl ((target, ← grammar.conditional) :: pairs)
  let pairs ← repeated step (grammar.bound + 2) []
  let body ← grammar.statementsThrough "endwith"
  return .scope (pairs.map Prod.fst) (pairs.map Prod.snd) body

/-- A part with escaping switched on or off. -/
def escapingStatement : Production Statement := do
  let _ ← advance
  let value ← grammar.conditional
  let body ← grammar.statementsThrough "endautoescape"
  return .escaping value body

/-- Whether a statement is nothing but blanks. -/
def isBlankOutput : Statement → Bool
  | .output parts => parts.all fun part =>
    match part with
    | .data text => !text.isEmpty && text.all Text.blank
    | _ => false
  | _ => false

/-- A block. -/
def blockStatement : Production Statement := do
  let line := (← advance).line
  let (_, name) ← anyName
  let seesLocals ← skipWord "scoped"
  let required ← skipWord "required"
  if isSign .sub (← current) then
    fail ("Block names in Jinja have to be valid Python identifiers and may not contain " ++
      "hyphens, use an underscore instead.")
  let body ← grammar.statementsThrough "endblock"
  if required && !body.all isBlankOutput then
    fail "Required blocks can only contain comments or whitespace"
  let _ ← skipWord name
  return .block line name body seesLocals required

/-- The words that choose whether a template sees the names of the one that uses it. -/
def contextChoice? : Production (Option Bool) := do
  let token ← current
  if isOneOf ["with", "without"] token then
    if isWord "context" (← peek) then
      let _ ← advance
      let _ ← advance
      return some (isWord "with" token)
  return none

/-- Another template's output in this place. -/
def includeStatement : Production Statement := do
  let _ ← advance
  let template ← grammar.conditional
  let ignoreMissing ← do
    if isWord "ignore" (← current) then
      if isWord "missing" (← peek) then
        let _ ← advance
        let _ ← advance
        pure true
      else pure false
    else pure false
  return .included template ((← contextChoice?).getD true) ignoreMissing

/-- Another template's names under one name. -/
def importStatement : Production Statement := do
  let _ ← advance
  let template ← grammar.conditional
  let _ ← word "as"
  let (_, name) ← nameTarget
  return .importAs template name ((← contextChoice?).getD false)

/-- Some of another template's names. -/
def fromStatement : Production Statement := do
  let line := (← advance).line
  let template ← grammar.conditional
  let _ ← word "import"
  let step (names : List (String × String)) :
      Production (List (String × String) ⊕ (List (String × String) × Bool)) := do
    if !names.isEmpty then
      let _ ← sign .comma
    match (← current).kind with
    | .name _ =>
      if let some withContext ← contextChoice? then return .inr (names.reverse, withContext)
      let (nameLine, name) ← nameTarget
      if name.startsWith "_" then
        failAt nameLine "names starting with an underline can not be imported"
      let known ← if ← skipWord "as" then pure (← nameTarget).2 else pure name
      let names := (name, known) :: names
      if let some withContext ← contextChoice? then return .inr (names.reverse, withContext)
      if isSign .comma (← current) then return .inl names
      else return .inr (names.reverse, false)
    | _ =>
      let _ ← anyName
      return .inr (names.reverse, false)
  let (names, withContext) ← repeated step (grammar.bound + 2) []
  return .importFrom line template names withContext

/-- The parameters of a macro in parentheses, the last ones with defaults. -/
def signature : Production (List String × List Expression) := do
  let _ ← sign .leftParen
  let step (so : List String × List Expression) :
      Production ((List String × List Expression) ⊕ (List String × List Expression)) := do
    let (names, defaults) := so
    if isSign .rightParen (← current) then return .inr (names.reverse, defaults.reverse)
    if !names.isEmpty then
      let _ ← sign .comma
    let (_, name) ← nameTarget
    if ← skipSign .assign then
      return .inl (name :: names, (← grammar.conditional) :: defaults)
    else if defaults.isEmpty then return .inl (name :: names, defaults)
    else fail "non-default argument follows default argument"
  let found ← repeated step (grammar.bound + 2) ([], [])
  let _ ← sign .rightParen
  return found

/-- A macro. -/
def macroStatement : Production Statement := do
  let line := (← advance).line
  let (_, name) ← nameTarget
  let (parameters, defaults) ← grammar.signature
  let body ← grammar.statementsThrough "endmacro"
  return .macroDef line name parameters defaults body

/-- A call that is given a body. -/
def callStatement : Production Statement := do
  let line := (← advance).line
  let (parameters, defaults) ←
    if isSign .leftParen (← current) then grammar.signature else pure ([], [])
  match ← grammar.conditional with
  | .call target arguments =>
    let body ← grammar.statementsThrough "endcall"
    return .callBlock line target arguments parameters defaults body
  | _ => failAt line "expected call"

/-- A body whose text goes through filters. -/
def filterStatement : Production Statement := do
  let _ ← advance
  let first ← grammar.filterCall none
  let filter := (← grammar.filters (some first)).getD first
  let body ← grammar.statementsThrough "endfilter"
  return .filterBlock filter body

/-- Output written as a statement. -/
def printStatement : Production Statement := do
  let _ ← advance
  let step (parts : List Expression) : Production (List Expression ⊕ List Expression) := do
    match (← current).kind with
    | .blockEnd => return .inr parts.reverse
    | _ =>
      if !parts.isEmpty then
        let _ ← sign .comma
      return .inl ((← grammar.conditional) :: parts)
  return .output (← repeated step (grammar.bound + 2) [])

/-- An assignment of a value or of a body. -/
def setStatement : Production Statement := do
  let _ ← advance
  let target ← grammar.assignTarget true []
  if ← skipSign .assign then return .assign target (← grammar.openTuple true [])
  else
    let filter ← grammar.filters none
    let body ← grammar.statementsThrough "endset"
    return .assignBlock target filter body

/-- A template that this one fills. -/
def extendsStatement : Production Statement := do
  let line := (← advance).line
  return .extending line (← grammar.conditional)

/-- The statements by the word they start with. -/
def statementRule? : String → Option (Production Statement)
  | "for" => some grammar.forStatement
  | "if" => some grammar.ifStatement
  | "block" => some grammar.blockStatement
  | "extends" => some grammar.extendsStatement
  | "print" => some grammar.printStatement
  | "macro" => some grammar.macroStatement
  | "include" => some grammar.includeStatement
  | "from" => some grammar.fromStatement
  | "import" => some grammar.importStatement
  | "set" => some grammar.setStatement
  | "with" => some grammar.withStatement
  | "autoescape" => some grammar.escapingStatement
  | "call" => some grammar.callStatement
  | "filter" => some grammar.filterStatement
  | _ => none

/-- A statement after its opening mark. -/
def statement : Production Statement := do
  let token ← current
  match token.kind with
  | .name tag =>
    match grammar.statementRule? tag with
    | some rule =>
      modify fun state => { state with tags := tag :: state.tags }
      let statement ← rule
      modify fun state => { state with tags := state.tags.drop 1 }
      return statement
    | none => failEnding (some tag) (some token.line) (← get).endings
  | _ => failAt token.line "tag name expected"

/-- Output parts as a statement, if there are any. -/
def flushed (parts : List Expression) (done : List Statement) : List Statement :=
  if parts.isEmpty then done else .output parts.reverse :: done

/-- Reads on in a body after output parts and statements, the last ones first, or ends at one of the ending
words or at the end of the template. -/
def bodyStep (endings : Option (List String)) (so : List Expression × List Statement) :
    Production ((List Expression × List Statement) ⊕ List Statement) := do
  let (parts, done) := so
  let token ← current
  match token.kind with
  | .data text =>
    let _ ← advance
    return .inl (.data text :: parts, done)
  | .variableBegin =>
    let _ ← advance
    let value ← grammar.openTuple true []
    variableEnd
    return .inl (value :: parts, done)
  | .blockBegin =>
    let done := flushed parts done
    let _ ← advance
    let first ← current
    if endings.any fun words => isOneOf words first then return .inr done.reverse
    let next ← grammar.statement
    blockEnd
    return .inl ([], next :: done)
  | _ => return .inr (flushed parts done).reverse

/-- Statements up to one of the ending words, or up to the end of the template. -/
def bodyRule (endings : Option (List String)) : Production (List Statement) := do
  if let some words := endings then
    modify fun state => { state with endings := words :: state.endings }
  let body ← repeated (grammar.bodyStep endings) (grammar.bound + 2) ([], [])
  if endings.isSome then
    modify fun state => { state with endings := state.endings.drop 1 }
  return body

/-- The rules of the next level. -/
def raised : Grammar where
  bound := grammar.bound + 1
  conditional := grammar.conditionalRule
  disjunction := grammar.disjunctionRule
  negation := grammar.negationRule
  unary := grammar.unaryRule
  body := grammar.bodyRule

/-- The rules with a number of levels below them; below the last one every rule fails. -/
def ofLevel : Nat → Grammar
  | 0 =>
    let tooDeep {Result : Type} : Production Result := fail "template is nested too deeply"
    ⟨0, tooDeep, tooDeep, tooDeep, fun _ => tooDeep, fun _ => tooDeep⟩
  | level + 1 => (ofLevel level).raised

end Grammar

/-- The statements of a template, or the first fault of its source. -/
def parse (source : Text) : Except SyntaxFault (List Statement) :=
  let tokens := scan source
  let rule : Production (List Statement) := do
    checkReadable
    (Grammar.ofLevel (tokens.length + 2)).body none
  (rule.run ⟨tokens, [], []⟩).map Prod.fst

end PageTemplates.Template
