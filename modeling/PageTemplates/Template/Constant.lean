import PageTemplates.Render.Expression

/-!
Constants: expressions that are known without a render. They are computed when a template is
compiled, by the same operators and filters that a render uses; where that fails in most ways, the
expression is left to the render.
-/

namespace PageTemplates.Template.Constant

open Run

/-- What is known of escaping where an expression stands: the flag, whether it may change during the
render, and a context that holds the flag. -/
structure Surroundings where
  escapes : Bool
  unsettled : Bool
  context : Ref

/-- The result of something, or nothing if it fails in any way. -/
def ifPossible {Result : Type} (action : Run (Option Result)) : Run (Option Result) :=
  recovering action (fun _ => true) fun _ => return none

/-- Every value, if all are known. -/
def allKnown : List (Run (Option Value)) → Run (Option (List Value))
  | [] => return some []
  | first :: rest => do
    match ← first with
    | none => return none
    | some value => return (← allKnown rest).map (value :: ·)

/-- A function of a value, if the value is known. -/
def whenKnown (value : Run (Option Value)) (action : Value → Run (Option Value)) :
    Run (Option Value) := do
  match ← value with
  | none => return none
  | some value => action value

/-- The entries of a dictionary, if all are known; a key that cannot be one fails. -/
def knownEntries (entries : List (Value × Value)) :
    List (Run (Option Value) × Run (Option Value)) → Run (Option (List (Value × Value)))
  | [] => return some entries
  | (key, value) :: rest => do
    match ← key with
    | none => return none
    | some key =>
      match ← value with
      | none => return none
      | some value => knownEntries (← ContainerMethods.mergeEntries entries [(key, value)]) rest

/-- A value that may be left out. -/
def boundValue (bound : Run (Option Value)) (present : Bool) : Run (Option Value) :=
  if present then bound else return some .none

/-- Goes through a chain of known comparisons. -/
def knownChain (value : Value) : List (CompareOperator × Run (Option Value)) → Run (Option Value)
  | [] => return some (.bool true)
  | (operator, operand) :: rest => do
    match ← operand with
    | none => return none
    | some right =>
      if ← compared operator value right then knownChain right rest
      else return some (.bool false)

/-- The arguments of a call, if all are known. -/
def knownArguments (names : List String) (positional values : List (Run (Option Value)))
    (spread spreadNamed : Run (Option Value)) (hasSpread hasSpreadNamed : Bool) :
    Run (Option Given) := do
  match ← allKnown positional, ← allKnown values with
  | some positional, some values =>
    let named := (names.map Text.ofString).zip values
    let spreadItems ← if hasSpread then spread else pure (some (.tuple []))
    let spreadEntries ← if hasSpreadNamed then spreadNamed else pure (some .none)
    match spreadItems, spreadEntries with
    | some items, some entries =>
      ifPossible do
        return some (← gathered [] positional (some items) named
          (if hasSpreadNamed then some entries else none))
    | _, _ => return none
  | _, _ => return none

/-- The result of a filter or test on a known value. One that looks at the context is not known. -/
def ruleValue (around : Surroundings) (rule : Option Rule) (target : Run (Option Value))
    (arguments : Run (Option Given)) : Run (Option Value) := do
  if around.unsettled then return none
  match rule with
  | none => return none
  | some rule =>
    if rule.companion = .context then return none
    match ← arguments with
    | none => return none
    | some given =>
      whenKnown target fun value => ifPossible do
        return some (← rule.apply (some around.context)
          { given with positional := value :: given.positional })

/-- One of two values as a known test decides. -/
def chosenKnown (test chosen otherwise : Run (Option Value)) : Run (Option Value) :=
  whenKnown test fun value => do if ← truth value then chosen else otherwise

/-- A known value if its truth is the given one, else another one. -/
def eitherKnown (kept : Bool) (left right : Run (Option Value)) : Run (Option Value) :=
  whenKnown left fun value => do if (← truth value) == kept then return some value else right

/-- A function of two known values, left to the render if it fails. -/
def bothKnown (function : Value → Value → Run Value) (left right : Run (Option Value)) :
    Run (Option Value) :=
  ifPossible (whenKnown left fun left => whenKnown right fun right => do
    return some (← function left right))

/-- A function of a known value, left to the render if it fails. -/
def oneKnown (function : Value → Run Value) (operand : Run (Option Value)) : Run (Option Value) :=
  ifPossible (whenKnown operand fun value => do return some (← function value))

/-- A concatenation of known values. -/
def knownText (parts : List (Run (Option Value))) : Run (Option Value) := do
  match ← allKnown parts with
  | none => return none
  | some values => return some (.text ((← values.mapM plain).flatten))

/-- Three known bounds as a slice. -/
def knownSlice (bounds : List (Run (Option Value))) : Run (Option Value) := do
  match ← allKnown bounds with
  | some [start, stop, step] => return some (.slice start stop step)
  | _ => return none

/-- A known value if a list of known values is there. -/
def knownItems (build : List Value → Run Value) (items : List (Run (Option Value))) :
    Run (Option Value) := do
  match ← allKnown items with
  | none => return none
  | some values => return some (← build values)

mutual

/-- The value of an expression, if it is known. -/
def valueOf (around : Surroundings) : Expression → Run (Option Value)
  | .data text =>
    return if around.unsettled then none
      else if around.escapes then some (.markup text) else some (.text text)
  | .constant data => some <$> ofData data
  | .name _ => return none
  | .tuple items => knownItems (fun values => return .tuple values) (valuesOf around items)
  | .list items => knownItems newList (valuesOf around items)
  | .dict keys values =>
    knownEntries [] ((valuesOf around keys).zip (valuesOf around values)) >>= fun entries =>
      match entries with
      | none => return none
      | some entries => some <$> newDict entries
  | .conditional _ test chosen otherwise =>
    chosenKnown (valueOf around test) (valueOf around chosen) (optionalValue around otherwise)
  | .filtered _ target filter arguments =>
    filter? filter >>= fun rule =>
      ruleValue around rule (optionalValue around target) (argumentsOf around arguments)
  | .tested _ target test arguments =>
    test? test >>= fun rule =>
      ruleValue around rule (valueOf around target) (argumentsOf around arguments)
  | .call _ _ => return none
  | .item target index => bothKnown itemOrMember (valueOf around target) (valueOf around index)
  | .slice start stop step =>
    knownSlice [boundValue (optionalValue around start) start.isSome,
      boundValue (optionalValue around stop) stop.isSome,
      boundValue (optionalValue around step) step.isSome]
  | .member target name =>
    oneKnown (fun value => memberOrItem value (Text.ofString name)) (valueOf around target)
  | .concat parts => knownText (valuesOf around parts)
  | .compare first operators operands =>
    whenKnown (valueOf around first) fun value =>
      ifPossible (knownChain value (operators.zip (valuesOf around operands)))
  | .conjunction left right => eitherKnown false (valueOf around left) (valueOf around right)
  | .disjunction left right => eitherKnown true (valueOf around left) (valueOf around right)
  | .negation operand =>
    oneKnown (fun value => do return .bool (!(← truth value))) (valueOf around operand)
  | .binary operator left right =>
    bothKnown (binary operator) (valueOf around left) (valueOf around right)
  | .minus operand => oneKnown (signed true) (valueOf around operand)
  | .plus operand => oneKnown (signed false) (valueOf around operand)

/-- The values of expressions, each if it is known. -/
def valuesOf (around : Surroundings) : List Expression → List (Run (Option Value))
  | [] => []
  | expression :: rest => valueOf around expression :: valuesOf around rest

/-- The value of an expression that may be absent. -/
def optionalValue (around : Surroundings) : Option Expression → Run (Option Value)
  | none => return none
  | some expression => valueOf around expression

/-- The values of arguments, if all are known. -/
def argumentsOf (around : Surroundings) : Arguments → Run (Option Given)
  | .mk positional names values spread spreadNamed =>
    knownArguments names (valuesOf around positional) (valuesOf around values)
      (optionalValue around spread) (optionalValue around spreadNamed) spread.isSome
      spreadNamed.isSome

end

/-- An expression as the constant that it is known to be, if a constant can be written for it. -/
def settledForm (around : Surroundings) (expression : Expression) : Run Expression := do
  match ← valueOf around expression with
  | none => return expression
  | some value =>
    match Value.constant? (← world) Value.depthLimit value with
    | some data => return .constant data
    | none => return expression

/-- The arguments of a call from simplified parts. -/
def rebuilt (names : List String) (positional values : Run (List Expression))
    (spread spreadNamed : Run (Option Expression)) : Run Arguments := do
  let positional ← positional
  let values ← values
  let spread ← spread
  return .mk positional names values spread (← spreadNamed)

/-- A function of two simplified parts. -/
def fromBoth {First Second Result : Type} (build : First → Second → Result) (first : Run First)
    (second : Run Second) : Run Result := do
  let first ← first
  return build first (← second)

/-- A function of three simplified parts. -/
def fromThree {First Second Third Result : Type} (build : First → Second → Third → Result)
    (first : Run First) (second : Run Second) (third : Run Third) : Run Result := do
  let first ← first
  let second ← second
  return build first second (← third)

mutual

/-- An expression with every part that is known replaced by its constant, from the inside out. -/
def simplified (around : Surroundings) : Expression → Run Expression
  | .data text => settledForm around (.data text)
  | .constant data => return .constant data
  | .name name => return .name name
  | .tuple items => (.tuple <$> simplifiedAll around items) >>= settledForm around
  | .list items => (.list <$> simplifiedAll around items) >>= settledForm around
  | .dict keys values =>
    fromBoth .dict (simplifiedAll around keys) (simplifiedAll around values) >>= settledForm around
  | .conditional line test chosen otherwise =>
    fromThree (.conditional line) (simplified around test) (simplified around chosen)
      (simplifiedOption around otherwise) >>= settledForm around
  | .filtered line target filter arguments =>
    fromBoth (fun target arguments => .filtered line target filter arguments)
      (simplifiedOption around target) (simplifiedArguments around arguments) >>=
      settledForm around
  | .tested line target test arguments =>
    fromBoth (fun target arguments => .tested line target test arguments)
      (simplified around target) (simplifiedArguments around arguments) >>= settledForm around
  | .call target arguments =>
    fromBoth .call (simplified around target) (simplifiedArguments around arguments)
  | .item target (.slice start stop step) =>
    fromBoth .item (simplified around target)
      (fromThree .slice (simplifiedOption around start) (simplifiedOption around stop)
        (simplifiedOption around step)) >>= settledForm around
  | .item target index =>
    fromBoth .item (simplified around target) (simplified around index) >>= settledForm around
  | .slice start stop step =>
    fromThree .slice (simplifiedOption around start) (simplifiedOption around stop)
      (simplifiedOption around step)
  | .member target name =>
    ((fun target => .member target name) <$> simplified around target) >>= settledForm around
  | .concat parts => (.concat <$> simplifiedAll around parts) >>= settledForm around
  | .compare first operators operands =>
    fromBoth (fun first operands => .compare first operators operands) (simplified around first)
      (simplifiedAll around operands) >>= settledForm around
  | .conjunction left right =>
    fromBoth .conjunction (simplified around left) (simplified around right) >>=
      settledForm around
  | .disjunction left right =>
    fromBoth .disjunction (simplified around left) (simplified around right) >>=
      settledForm around
  | .negation operand => (.negation <$> simplified around operand) >>= settledForm around
  | .binary operator left right =>
    fromBoth (.binary operator) (simplified around left) (simplified around right) >>=
      settledForm around
  | .minus operand => (.minus <$> simplified around operand) >>= settledForm around
  | .plus operand => (.plus <$> simplified around operand) >>= settledForm around

/-- Expressions with every part that is known replaced by its constant. -/
def simplifiedAll (around : Surroundings) : List Expression → Run (List Expression)
  | [] => return []
  | expression :: rest =>
    fromBoth List.cons (simplified around expression) (simplifiedAll around rest)

/-- An expression that may be absent. -/
def simplifiedOption (around : Surroundings) : Option Expression → Run (Option Expression)
  | none => return none
  | some expression => some <$> simplified around expression

/-- Arguments with every part that is known replaced by its constant. -/
def simplifiedArguments (around : Surroundings) : Arguments → Run Arguments
  | .mk positional names values spread spreadNamed =>
    rebuilt names (simplifiedAll around positional) (simplifiedAll around values)
      (simplifiedOption around spread) (simplifiedOption around spreadNamed)

end

/-- Runs something outside of all renders, with escaping as it is known. -/
def outside {Result : Type} (setting : Setting) (escapes unsettled : Bool)
    (action : Surroundings → Run Result) : Except Failure Result :=
  let context : Context := ⟨[], [], [], [], [], .bool escapes, none⟩
  let (address, world) := World.empty.add (.context context)
  match (action ⟨escapes, unsettled, address⟩).run setting ⟨world, [], [], 0⟩ with
  | .ok result _ => .ok result
  | .error failure _ => .error failure

end PageTemplates.Template.Constant
