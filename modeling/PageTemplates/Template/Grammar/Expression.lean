import PageTemplates.Template.Production

/-!
The grammar of expressions. The productions refer to each other through a record, and the record of a
level is made from that of the level below; each use of the lower level has taken at least one token, so
as many levels as there are tokens suffice.
-/

namespace PageTemplates.Template

open Production

/-- The rules that others refer to. `bound` is the level, and bounds every repetition. -/
structure Grammar where
  bound : Nat
  conditional : Production Expression
  disjunction : Production Expression
  negation : Production Expression
  unary : (withFilters : Bool) → Production Expression
  body : Option (List String) → Production (List Statement)

namespace Grammar

variable (grammar : Grammar)

/-- An expression, with or without the conditional form. -/
def expression (withCondition : Bool) : Production Expression :=
  if withCondition then grammar.conditional else grammar.disjunction

/-- Whether a list of expressions without brackets ends here. -/
def tupleEnds (words : List String) (token : Token) : Bool :=
  match token.kind with
  | .variableEnd => true
  | .blockEnd => true
  | .sign .rightParen => true
  | _ => isOneOf words token

/-- Expressions with commas between them: one alone is itself, with a comma it is a tuple. -/
def tupleOf (item : Production Expression) (ends : List String) (bracketed : Bool) : Production Expression := do
  let step (items : List Expression) :
      Production (List Expression ⊕ (List Expression × Bool)) := do
    if !items.isEmpty then
      let _ ← sign .comma
    if tupleEnds ends (← current) then return .inr (items.reverse, !items.isEmpty)
    let next ← item
    if isSign .comma (← current) then return .inl (next :: items)
    else return .inr ((next :: items).reverse, !items.isEmpty)
  let (items, isTuple) ← repeated step (grammar.bound + 2) []
  match items, isTuple with
  | [single], false => return single
  | [], false =>
    if bracketed then return .tuple []
    else
      fail ("Expected an expression, got " ++ Text.quoted (← current).kind.describe)
  | items, _ => return .tuple items

/-- Expressions with commas between them, outside brackets. -/
def openTuple (withCondition : Bool) (ends : List String) : Production Expression :=
  grammar.tupleOf (grammar.expression withCondition) ends false

/-- A list in square brackets. -/
def listDisplay : Production Expression := do
  let _ ← sign .leftBracket
  let step (items : List Expression) : Production (List Expression ⊕ List Expression) := do
    if isSign .rightBracket (← current) then return .inr items.reverse
    if !items.isEmpty then
      let _ ← sign .comma
    if isSign .rightBracket (← current) then return .inr items.reverse
    return .inl ((← grammar.conditional) :: items)
  let items ← repeated step (grammar.bound + 2) []
  let _ ← sign .rightBracket
  return .list items

/-- A dictionary in braces. -/
def dictDisplay : Production Expression := do
  let _ ← sign .leftBrace
  let step (entries : List (Expression × Expression)) :
      Production (List (Expression × Expression) ⊕ List (Expression × Expression)) := do
    if isSign .rightBrace (← current) then return .inr entries.reverse
    if !entries.isEmpty then
      let _ ← sign .comma
    if isSign .rightBrace (← current) then return .inr entries.reverse
    let key ← grammar.conditional
    let _ ← sign .colon
    let value ← grammar.conditional
    return .inl ((key, value) :: entries)
  let entries ← repeated step (grammar.bound + 2) []
  let _ ← sign .rightBrace
  return .dict (entries.map Prod.fst) (entries.map Prod.snd)

/-- The text of string literals that stand next to each other. -/
def adjacentStrings (bound : Nat) : Production Text :=
  let step (text : Text) : Production (Text ⊕ Text) := do
    match (← current).kind with
    | .string value =>
      let _ ← advance
      return .inl (text ++ value)
    | _ => return .inr text
  repeated step bound []

/-- The value that a name stands for when it is one of the constants. -/
def constantName? (name : String) : Option Data :=
  if name == "true" || name == "True" then some (.bool true)
  else if name == "false" || name == "False" then some (.bool false)
  else if name == "none" || name == "None" then some .none
  else none

/-- A name, a literal, or something in brackets. -/
def primary : Production Expression := do
  let token ← current
  match token.kind with
  | .name identifier =>
    let _ ← advance
    return match constantName? identifier with
      | some value => .constant value
      | none => .name identifier
  | .string _ => return .constant (.text (← adjacentStrings (grammar.bound + 2)))
  | .integer value =>
    let _ ← advance
    return .constant (.int value)
  | .float value =>
    let _ ← advance
    return .constant (.float value)
  | .sign .leftParen =>
    let _ ← advance
    let inner ← grammar.tupleOf grammar.conditional [] true
    let _ ← sign .rightParen
    return inner
  | .sign .leftBracket => grammar.listDisplay
  | .sign .leftBrace => grammar.dictDisplay
  | kind => failAt token.line ("unexpected " ++ Text.quoted kind.describe)

/-- One part between the brackets of a subscript: an expression or a slice. -/
def subscript : Production Expression := do
  let ends : Production Bool := do
    let token ← current
    return isSign .rightBracket token || isSign .comma token
  let start ←
    if isSign .colon (← current) then pure none
    else pure (some (← grammar.conditional))
  if let some index := start then
    if !isSign .colon (← current) then return index
  let _ ← advance
  let stop ←
    if isSign .colon (← current) then pure none
    else if ← ends then pure none
    else pure (some (← grammar.conditional))
  if ← skipSign .colon then
    let step ← if ← ends then pure none else pure (some (← grammar.conditional))
    return .slice start stop step
  else return .slice start stop none

/-- An attribute or an item of an expression. -/
def subscripted (target : Expression) : Production Expression := do
  if ← skipSign .dot then
    let token ← current
    let _ ← advance
    match token.kind with
    | .name identifier => return .member target identifier
    | .integer value => return .item target (.constant (.int value))
    | _ => failAt token.line "expected name or number"
  else
    let _ ← sign .leftBracket
    let step (parts : List Expression) : Production (List Expression ⊕ List Expression) := do
      if isSign .rightBracket (← current) then return .inr parts.reverse
      if !parts.isEmpty then
        let _ ← sign .comma
      return .inl ((← grammar.subscript) :: parts)
    let parts ← repeated step (grammar.bound + 2) []
    let _ ← sign .rightBracket
    match parts with
    | [single] => return .item target single
    | parts => return .item target (.tuple parts)

/-- The arguments of a call while they are being read. -/
structure ArgumentsSoFar where
  positional : List Expression := []
  named : List (String × Expression) := []
  spread : Option Expression := none
  spreadNamed : Option Expression := none
  started : Bool := false

/-- The arguments as part of the tree. -/
def ArgumentsSoFar.finish (so : ArgumentsSoFar) : Arguments :=
  .mk so.positional.reverse (so.named.reverse.map Prod.fst) (so.named.reverse.map Prod.snd)
    so.spread so.spreadNamed

/-- Arguments in parentheses. -/
def callArguments : Production Arguments := do
  let opening ← sign .leftParen
  let ensure (holds : Bool) : Production Unit :=
    if holds then return ()
    else failAt opening.line "invalid syntax for function call expression"
  let step (so : ArgumentsSoFar) : Production (ArgumentsSoFar ⊕ Arguments) := do
    if isSign .rightParen (← current) then return .inr so.finish
    if so.started then
      let _ ← sign .comma
      if isSign .rightParen (← current) then return .inr so.finish
    let so := { so with started := true }
    let token ← current
    match token.kind with
    | .sign .mul =>
      ensure (so.spread.isNone && so.spreadNamed.isNone)
      let _ ← advance
      return .inl { so with spread := some (← grammar.conditional) }
    | .sign .pow =>
      ensure so.spreadNamed.isNone
      let _ ← advance
      return .inl { so with spreadNamed := some (← grammar.conditional) }
    | .name identifier =>
      if isSign .assign (← peek) then
        ensure so.spreadNamed.isNone
        let _ ← advance
        let _ ← advance
        let value ← grammar.conditional
        return .inl { so with named := (identifier, value) :: so.named }
      else
        ensure (so.spread.isNone && so.spreadNamed.isNone && so.named.isEmpty)
        return .inl { so with positional := (← grammar.conditional) :: so.positional }
    | _ =>
      ensure (so.spread.isNone && so.spreadNamed.isNone && so.named.isEmpty)
      return .inl { so with positional := (← grammar.conditional) :: so.positional }
  let arguments ← repeated step (grammar.bound + 2) {}
  let _ ← sign .rightParen
  return arguments

/-- Arguments if there are any. -/
def optionalArguments : Production Arguments := do
  if isSign .leftParen (← current) then grammar.callArguments else return .none

/-- A name with points in it. -/
def dottedName : Production (Nat × String) := do
  let (line, first) ← anyName
  let step (name : String) : Production (String ⊕ String) := do
    if ← skipSign .dot then
      let (_, part) ← anyName
      return .inl (name ++ "." ++ part)
    else return .inr name
  return (line, ← repeated step (grammar.bound + 2) first)

/-- One filter after its bar. -/
def filterCall (target : Option Expression) : Production Expression := do
  let (line, name) ← grammar.dottedName
  let arguments ← grammar.optionalArguments
  return .filtered line target name arguments

/-- Filters one after another, each after a bar. -/
def filters (target : Option Expression) : Production (Option Expression) :=
  let step (target : Option Expression) : Production (Option Expression ⊕ Option Expression) := do
    if ← skipSign .pipe then return .inl (some (← grammar.filterCall target))
    else return .inr target
  repeated step (grammar.bound + 2) target

/-- Attributes, items and calls after an expression. -/
def postfixes (target : Expression) : Production Expression :=
  let step (target : Expression) : Production (Expression ⊕ Expression) := do
    let token ← current
    if isSign .dot token || isSign .leftBracket token then
      return .inl (← grammar.subscripted target)
    else if isSign .leftParen token then
      return .inl (.call target (← grammar.callArguments))
    else return .inr target
  repeated step (grammar.bound + 2) target

/-- Whether a test without parentheses takes the token as the start of its argument. -/
def startsArgument (token : Token) : Bool :=
  match token.kind with
  | .name identifier => !(["else", "or", "and"].contains identifier)
  | .string _ => true
  | .integer _ => true
  | .float _ => true
  | .sign .leftBracket => true
  | .sign .leftBrace => true
  | _ => false

/-- A test after the word that introduces it. -/
def testCall (target : Expression) : Production Expression := do
  let line := (← advance).line
  let negated ← skipWord "not"
  let (_, name) ← grammar.dottedName
  let token ← current
  let arguments ←
    if isSign .leftParen token then grammar.callArguments
    else if startsArgument token then do
      if isWord "is" token then fail "You cannot chain multiple tests with is"
      let argument ← grammar.primary
      let argument ← grammar.postfixes argument
      pure (.mk [argument] [] [] none none)
    else pure .none
  let test := Expression.tested line target name arguments
  return if negated then .negation test else test

/-- Filters, tests and calls after an expression. -/
def filtersAndTests (target : Expression) : Production Expression :=
  let step (target : Expression) : Production (Expression ⊕ Expression) := do
    let token ← current
    if isSign .pipe token then
      return .inl ((← grammar.filters (some target)).getD target)
    else if isWord "is" token then return .inl (← grammar.testCall target)
    else if isSign .leftParen token then
      return .inl (.call target (← grammar.callArguments))
    else return .inr target
  repeated step (grammar.bound + 2) target

/-- A sign before an operand, or an operand. -/
def unaryRule (withFilters : Bool) : Production Expression := do
  let token ← current
  let operand ←
    if isSign .sub token then do
      let _ ← advance
      pure (.minus (← grammar.unary false))
    else if isSign .add token then do
      let _ ← advance
      pure (.plus (← grammar.unary false))
    else grammar.primary
  let operand ← grammar.postfixes operand
  if withFilters then grammar.filtersAndTests operand else return operand

/-- Operands with operators of one strength between them, grouped from the left. -/
def leftAssociative (operand : Production Expression) (operator? : Token → Option BinaryOperator) :
    Production Expression := do
  let first ← operand
  let step (left : Expression) : Production (Expression ⊕ Expression) := do
    match operator? (← current) with
    | some operator =>
      let _ ← advance
      return .inl (.binary operator left (← operand))
    | none => return .inr left
  repeated step (grammar.bound + 2) first

/-- Powers, grouped from the left. -/
def powers : Production Expression :=
  grammar.leftAssociative (grammar.unaryRule true) fun token =>
    if isSign .pow token then some .pow else none

/-- Products. -/
def products : Production Expression :=
  grammar.leftAssociative grammar.powers fun token =>
    match token.kind with
    | .sign .mul => some .mul
    | .sign .div => some .div
    | .sign .floorDiv => some .floorDiv
    | .sign .mod => some .mod
    | _ => none

/-- Concatenations. -/
def concatenations : Production Expression := do
  let first ← grammar.products
  let step (parts : List Expression) : Production (List Expression ⊕ List Expression) := do
    if ← skipSign .tilde then return .inl ((← grammar.products) :: parts)
    else return .inr parts.reverse
  match ← repeated step (grammar.bound + 2) [first] with
  | [single] => return single
  | parts => return .concat parts

/-- Sums. -/
def sums : Production Expression :=
  grammar.leftAssociative grammar.concatenations fun token =>
    match token.kind with
    | .sign .add => some .add
    | .sign .sub => some .sub
    | _ => none

/-- The comparison that a token stands for. -/
def comparison? (token : Token) : Option CompareOperator :=
  match token.kind with
  | .sign .equal => some .equal
  | .sign .notEqual => some .notEqual
  | .sign .greater => some .greater
  | .sign .greaterEqual => some .greaterEqual
  | .sign .less => some .less
  | .sign .lessEqual => some .lessEqual
  | .name "in" => some .isIn
  | _ => none

/-- Comparisons, which may be chained. -/
def comparisons : Production Expression := do
  let first ← grammar.sums
  let step (found : List (CompareOperator × Expression)) :
      Production (List (CompareOperator × Expression) ⊕ List (CompareOperator × Expression)) := do
    let token ← current
    match comparison? token with
    | some operator =>
      let _ ← advance
      return .inl ((operator, ← grammar.sums) :: found)
    | none =>
      if isWord "not" token then
        if isWord "in" (← peek) then
          let _ ← advance
          let _ ← advance
          return .inl ((.notIn, ← grammar.sums) :: found)
      return .inr found.reverse
  match ← repeated step (grammar.bound + 2) [] with
  | [] => return first
  | found => return .compare first (found.map Prod.fst) (found.map Prod.snd)

/-- A negation or a comparison. -/
def negationRule : Production Expression := do
  if ← skipWord "not" then return .negation (← grammar.negation) else grammar.comparisons

/-- Operands with one word between them, grouped from the left. -/
def joinedBy (word : String) (operand : Production Expression)
    (build : Expression → Expression → Expression) : Production Expression := do
  let first ← operand
  let step (left : Expression) : Production (Expression ⊕ Expression) := do
    if ← skipWord word then return .inl (build left (← operand)) else return .inr left
  repeated step (grammar.bound + 2) first

/-- Conjunctions. -/
def conjunctions : Production Expression := grammar.joinedBy "and" grammar.negationRule .conjunction

/-- Disjunctions. -/
def disjunctionRule : Production Expression := grammar.joinedBy "or" grammar.conjunctions .disjunction

/-- An expression with conditions after it. -/
def conditionalRule : Production Expression := do
  let line := (← current).line
  let first ← grammar.disjunctionRule
  let step (state : Nat × Expression) : Production ((Nat × Expression) ⊕ Expression) := do
    if ← skipWord "if" then
      let test ← grammar.disjunctionRule
      let otherwise ←
        if ← skipWord "else" then pure (some (← grammar.conditional)) else pure none
      return .inl ((← current).line, .conditional state.1 test state.2 otherwise)
    else return .inr state.2
  repeated step (grammar.bound + 2) (line, first)

end Grammar

end PageTemplates.Template
