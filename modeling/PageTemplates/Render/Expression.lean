import PageTemplates.Filter
import PageTemplates.Render.Variables

/-!
Evaluation of the code of expressions. Operands are evaluated from left to right; of the two sides
of a conjunction, a disjunction, a conditional and a chain of comparisons only those that matter.
-/

namespace PageTemplates

open Template (Code CallCode Escaping CompareOperator)

namespace Run

/-- Whether values are escaped where the code says so or leaves it to the context. -/
def escapesNow (stage : Stage) : Escaping → Run Bool
  | .never => return false
  | .always => return true
  | .current => do truth (← escaping stage.context)

/-- A text that is markup where values are escaped. -/
def safeWhere (stage : Stage) (escaping : Escaping) (text : Text) : Run Value := do
  return if ← escapesNow stage escaping then .markup text else .text text

/-- A number that is not finite, which a constant cannot be. -/
def unwritable? : Nat → Data → Option String
  | 0, _ => none
  | depth + 1, data =>
    match data with
    | .float number =>
      if number.isNaN then some "nan" else if Number.isInfinite number then some "inf" else none
    | .list items => items.findSome? (unwritable? depth)
    | .tuple items => items.findSome? (unwritable? depth)
    | .dict entries => entries.findSome? fun (key, item) =>
      (unwritable? depth key).or (unwritable? depth item)
    | _ => none

/-- The value of a constant. -/
def constantValue (data : Data) : Run Value := do
  match unwritable? 100 data with
  | some name => fail ⟨.unboundName, "name '" ++ Text.ofString name ++ "' is not defined"⟩
  | none => ofData data

/-- Joins the pieces of a concatenation: as markup if pieces are escaped and one of them is markup. -/
def concatenated (escaping : Escaping) (parts : List Value) : Run Value := do
  match escaping with
  | .always =>
    let parts ← parts.mapM Rule.soft
    if parts.any Value.isMarkup then
      return .markup ((← parts.mapM escaped).flatten)
    else return .text ((← parts.mapM plain).flatten)
  | _ => return .text ((← parts.mapM plain).flatten)

/-- Refuses a filter or test that the environment lacks. -/
def ruleMissing {Result : Type} (kind name : String) : Run Result :=
  refuse ("No " ++ Text.ofString kind ++ " named " ++ Text.quoted (Text.ofString name) ++
    " found.")

/-- Adds the entries of a mapping to arguments by name. -/
def addNamed (callee : Text) (named : List (Text × Value)) :
    List (Value × Value) → Run (List (Text × Value))
  | [] => return named
  | (key, value) :: rest => do
    match key.text? with
    | none => fail (.wrongType "keywords must be strings")
    | some name =>
      if named.any fun (other, _) => other = name then
        fail (.wrongType (callee ++ " got multiple values for keyword argument " ++
          Text.quoted name))
      else addNamed callee (named ++ [(name, value)]) rest

/-- Puts arguments together: those by place and the items of a spread value, and those by name and
the entries of a spread mapping. -/
def gathered (callee : Text) (positional : List Value) (spread : Option Value)
    (named : List (Text × Value)) (spreadNamed : Option Value) : Run Given := do
  let more ← match spread with
    | none => pure []
    | some value =>
      recovering (itemsOf value) (fun failure => failure.cause = .wrongType) fun _ => do
        fail (.wrongType (callee ++ " argument after * must be an iterable, not " ++
          (← className value)))
  let named ← match spreadNamed with
    | none => pure named
    | some value =>
      match ← entriesOf? value with
      | some entries => addNamed callee named entries
      | none =>
        failIfUndefined value
        fail (.wrongType (callee ++ " argument after ** must be a mapping, not " ++
          (← className value)))
  return ⟨positional ++ more, named⟩

/-- How messages name the call of a value. -/
def callName : Run Text := do
  return if (← environment).guard = .open then "jinja2.runtime.Context.call()"
    else "jinja2.sandbox.SandboxedEnvironment.call()"

/-- A value that is undefined by its name. -/
def undefinedName (name : String) : Run Value := do
  return .undefined (← environment).strict none none (some (.text (Text.ofString name)))
    .undefinedName

/-- Goes on with a chain of comparisons after its first operand. -/
def compareChain : Value → List (CompareOperator × Run Value) → Run Value
  | value, [] => return value
  | left, (operator, operand) :: rest => do
    let right ← operand
    let holds ← compared operator left right
    match rest with
    | [] => return .bool holds
    | _ => if holds then compareChain right rest else return .bool false

/-- The value of a variable. -/
def variableValue (stage : Stage) (slot : Template.Slot) (checked : Bool) : Run Value := do
  let value ← slotValue stage slot
  if checked && value.isMissing then undefinedName slot.name else return value

/-- One of two values as a test decides; without a second one what is undefined for the given
reason. -/
def chosenValue (test chosen : Run Value) (otherwise : Run (Option Value)) (complaint : Text) :
    Run Value := do
  if ← truth (← test) then chosen
  else
    match ← otherwise with
    | some value => return value
    | none => return .undefined false (some complaint) none none .undefinedName

/-- A value under a filter. -/
def filteredValue (stage : Stage) (name : String) (target : Run Value)
    (arguments : Text → Run Given) : Run Value := do
  let value ← target
  let given ← arguments ("jinja2.filters.do_" ++ Text.ofString name ++ "()")
  match ← filter? name with
  | some rule =>
    rule.apply (some stage.context) { given with positional := value :: given.positional }
  | none => ruleMissing "filter" name

/-- The answer of a test. -/
def testedValue (stage : Stage) (name : String) (target : Run Value)
    (arguments : Text → Run Given) : Run Value := do
  let value ← target
  let given ← arguments ("jinja2.tests.test_" ++ Text.ofString name ++ "()")
  match ← test? name with
  | some rule =>
    rule.apply (some stage.context) { given with positional := value :: given.positional }
  | none => ruleMissing "test" name

/-- The result of a call. -/
def calledValue (stage : Stage) (target : Run Value) (arguments : Text → Run Given) :
    Run Value := do
  let value ← target
  let given ← arguments (← callName)
  call (some stage.context) value given

/-- A slice of bounds. -/
def sliceValue (start stop step : Run (Option Value)) : Run Value := do
  let start := (← start).getD .none
  let stop := (← stop).getD .none
  let step := (← step).getD .none
  return .slice start stop step

/-- The first of two values if its truth is the given one, else the second. -/
def eitherValue (kept : Bool) (left right : Run Value) : Run Value := do
  let value ← left
  if (← truth value) == kept then return value else right

/-- A function of two values. -/
def withBoth (function : Value → Value → Run Value) (left right : Run Value) : Run Value := do
  let left ← left
  function left (← right)

/-- The text captured so far. -/
def capturedValue (stage : Stage) (escaping : Escaping) : Run Value := do
  safeWhere stage escaping (← joined (← captured))

/-- The opposite truth of a value. -/
def negatedValue (operand : Run Value) : Run Value := do
  return .bool (!(← truth (← operand)))

/-- A concatenation. What is joined while escaping is not settled is not escaped. -/
def concatenatedValue (escaping : Escaping) (parts : Run (List Value)) : Run Value := do
  concatenated (if escaping = .current then .never else escaping) (← parts)

/-- The entries that pairs of computations yield, each key before its value. -/
def entryValues : List (Run Value × Run Value) → Run (List (Value × Value))
  | [] => return []
  | (key, value) :: rest => do
    let key ← key
    let value ← value
    return (key, value) :: (← entryValues rest)

/-- A dictionary of entries in order. -/
def dictValue (entries : List (Run Value × Run Value)) : Run Value := do
  newDict (← ContainerMethods.mergeEntries [] (← entryValues entries))

/-- The first value and the others. -/
def listOf {Item : Type} (first : Run Item) (rest : Run (List Item)) : Run (List Item) := do
  let first ← first
  return first :: (← rest)

/-- A value that is there. -/
def present (value : Run Value) : Run (Option Value) := do return some (← value)

/-- The arguments of a call from their parts. -/
def givenValues (callee : Text) (names : List String) (positional values : Run (List Value))
    (spread spreadNamed : Run (Option Value)) : Run Given := do
  let positional ← positional
  let spread ← spread
  let values ← values
  let spreadNamed ← spreadNamed
  gathered callee positional spread ((names.map Text.ofString).zip values) spreadNamed

mutual

/-- The value of an expression. -/
def evaluate (stage : Stage) : Code → Run Value
  | .constant data => constantValue data
  | .variable slot checked => variableValue stage slot checked
  | .tuple items => Value.tuple <$> evaluateAll stage items
  | .list items => evaluateAll stage items >>= newList
  | .dict keys values => dictValue ((operandRuns stage keys).zip (operandRuns stage values))
  | .conditional test chosen otherwise complaint =>
    chosenValue (evaluate stage test) (evaluate stage chosen) (evaluateOption stage otherwise)
      complaint
  | .captured escaping => capturedValue stage escaping
  | .filtered filter target arguments =>
    filteredValue stage filter (evaluate stage target) (evaluateCall stage arguments)
  | .tested test target arguments =>
    testedValue stage test (evaluate stage target) (evaluateCall stage arguments)
  | .call target arguments => calledValue stage (evaluate stage target) (evaluateCall stage arguments)
  | .item target index => withBoth itemOrMember (evaluate stage target) (evaluate stage index)
  | .sliceOf target start stop step =>
    withBoth item (evaluate stage target)
      (sliceValue (evaluateOption stage start) (evaluateOption stage stop)
        (evaluateOption stage step))
  | .slice start stop step =>
    sliceValue (evaluateOption stage start) (evaluateOption stage stop) (evaluateOption stage step)
  | .member target name =>
    evaluate stage target >>= fun value => memberOrItem value (Text.ofString name)
  | .concat escaping parts => concatenatedValue escaping (evaluateAll stage parts)
  | .compare first operators operands =>
    evaluate stage first >>= fun value =>
      compareChain value (operators.zip (operandRuns stage operands))
  | .conjunction left right => eitherValue false (evaluate stage left) (evaluate stage right)
  | .disjunction left right => eitherValue true (evaluate stage left) (evaluate stage right)
  | .negation operand => negatedValue (evaluate stage operand)
  | .binary operator left right =>
    withBoth (binary operator) (evaluate stage left) (evaluate stage right)
  | .minus operand => evaluate stage operand >>= signed true
  | .plus operand => evaluate stage operand >>= signed false

/-- The values of expressions in order. -/
def evaluateAll (stage : Stage) : List Code → Run (List Value)
  | [] => return []
  | code :: rest => listOf (evaluate stage code) (evaluateAll stage rest)

/-- The value of an expression that may be absent. -/
def evaluateOption (stage : Stage) : Option Code → Run (Option Value)
  | none => return none
  | some code => present (evaluate stage code)

/-- Computations of the values of operands, none of which has run yet. -/
def operandRuns (stage : Stage) : List Code → List (Run Value)
  | [] => []
  | code :: rest => evaluate stage code :: operandRuns stage rest

/-- The arguments of a call. -/
def evaluateCall (stage : Stage) : CallCode → (callee : Text) → Run Given
  | .mk positional names values spread spreadNamed, callee =>
    givenValues callee names (evaluateAll stage positional) (evaluateAll stage values)
      (evaluateOption stage spread) (evaluateOption stage spreadNamed)

end

end Run

end PageTemplates
