import PageTemplates.Render.Statement

/-!
The next item of an iterator. An iterator whose step fails is at its end; one that stands for a
filter starts its work at the first item.
-/

namespace PageTemplates.Run

open Template (Place Frame Code)

/-- What a step of an iterator yields: an item and how to go on, or the end. -/
abbrev Progress := Option (Value × Iteration)

/-- The value that was assigned to a place. -/
def placeValue (stage : Stage) : Place → Run Value
  | .slot slot => slotValue stage slot
  | .member slot name => do item (← slotValue stage slot) (.text (Text.ofString name))
  | .tuple places => Value.tuple <$> placeValues stage places
where
  /-- The values that were assigned to places. -/
  placeValues (stage : Stage) : List Place → Run (List Value)
    | [] => return []
    | place :: rest => do
      let value ← placeValue stage place
      return value :: (← placeValues stage rest)

/-- The arguments of a filter that maps: the path it follows with a fallback, or the name of the
filter it applies. -/
def startMap (value : Value) (given : Given) (context : Option Ref) : Run Iteration := do
  if !(← truth value) then return .done
  match given.positional with
  | name :: rest => return .mapped (← iterate value) name { given with positional := rest } context
  | [] =>
    match given.named.lookup (Text.ofString "attribute") with
    | none => fail (Rule.badArgument "map requires a filter argument")
    | some path =>
      let fallback := (given.named.lookup (Text.ofString "default")).getD .none
      let others := given.named.filter fun (name, _) =>
        name != Text.ofString "attribute" && name != Text.ofString "default"
      match others with
      | (name, _) :: _ =>
        fail (Rule.badArgument ("Unexpected keyword argument " ++ Text.quoted name))
      | [] => return .picked (← iterate value) (Rule.pathOf path) (Rule.fallbackOf fallback)

/-- The arguments of a filter that selects: the path to what is tested, and the test with its
arguments; without a test it is truth that counts. -/
def startSelect (value : Value) (given : Given) (context : Option Ref) (negated byPath : Bool) :
    Run Iteration := do
  if !(← truth value) then return .done
  let (path, arguments) ←
    if byPath then
      match given.positional with
      | path :: rest => pure (Rule.pathOf path, rest)
      | [] => fail (Rule.badArgument "Missing parameter for attribute name")
    else pure ([], given.positional)
  let test := match arguments with
    | name :: rest => some (name, { given with positional := rest })
    | [] => none
  return .selected (← iterate value) path test negated context

/-- Starts an iterator that stands for a filter. -/
def startFilter (filter : String) (value : Value) (given : Given) (context : Option Ref) :
    Run Iteration := do
  let argument (place : Nat) : Value := given.positional[place]?.getD .none
  match filter with
  | "items" => return .values (← SequenceFilters.pairs value)
  | "map" => startMap value given context
  | "select" => startSelect value given context false false
  | "reject" => startSelect value given context true false
  | "selectattr" => startSelect value given context false true
  | "rejectattr" => startSelect value given context true true
  | "unique" =>
    let caseSensitive ← truth (argument 0)
    return .unique (← iterate value) caseSensitive (Rule.pathOf (argument 1)) []
  | "batch" => return .batches (← iterate value) (argument 0) (argument 1)
  | "slice" => return .values (← SequenceFilters.slices value (argument 0) (argument 1))
  | _ => return .done

/-- Takes items until one is found for which there is a result. -/
def firstResult (source : Ref) (result : Value → Run (Option Value)) :
    (bound : Nat) → Run (Option Value)
  | 0 => return none
  | bound + 1 => do
    match ← advance source with
    | none => return none
    | some item =>
      match ← result item with
      | some found => return some found
      | none => firstResult source result bound

/-- Takes up to a number of items. -/
def takeItems (source : Ref) : (count : Nat) → (done : List Value) → Run (List Value)
  | 0, done => return done.reverse
  | count + 1, done => do
    match ← advance source with
    | some item => takeItems source count (item :: done)
    | none => return done.reverse

/-- Whether an item is selected. -/
def isSelected (path : List Value) (test : Option (Value × Given)) (negated : Bool)
    (context : Option Ref) (item : Value) : Run Bool := do
  let value ← Rule.follow path none item
  let answer ← match test with
    | some (name, given) =>
      truth (← callTest context name { given with positional := value :: given.positional })
    | none => truth value
  return answer != negated

/-- The number of items that a list of a batch has before the next one starts: the given size, where
it is a number that a list can have. -/
def batchSize? (size : Value) : Option Nat := do
  let whole ← match size with
    | .float number =>
      let cut ← Number.truncate? number
      if Number.ofInt? cut == some number then some cut else none
    | other => other.int?
  if 0 ≤ whole then some whole.toNat else none

/-- The last list of a batch, filled up to the size where there is something to fill it with. -/
def filledBatch (items : List Value) (size fill : Value) : Run Value := do
  match fill with
  | .none => newList items
  | fill =>
    let count := Value.int items.length
    if ← compared .less count size then
      let filling ← binary .mul (← newList [fill]) (← binary .sub size count)
      newList (items ++ (← itemsOf filling))
    else newList items

/-- The next list of a batch. -/
def nextBatch (source : Ref) (size fill : Value) : Run Progress := do
  match batchSize? size with
  | some 0 =>
    match ← advance source with
    | none => return none
    | some first =>
      let rest ← drain source Value.itemLimit []
      let iterator ← allocate (.iterator "list_iterator" (.values (first :: rest)))
      return some (← newList [], .batches iterator (.int (-1)) fill)
  | size? =>
    let items ← takeItems source (size?.getD Value.itemLimit) []
    if items.isEmpty then return none
    else if size? = some items.length then
      return some (← newList items, .batches source size fill)
    else return some (← filledBatch items size fill, .batches source size fill)

/-- One step of an iterator that has started. -/
def step : Iteration → Run Progress
  | .done => return none
  | .notStarted .. => return none
  | .values [] => return none
  | .values (item :: rest) => return some (item, .values rest)
  | .list source place => do
    match ((← world).items? source).bind fun items => items[place]? with
    | some item => return some (item, .list source (place + 1))
    | none => return none
  | .listBackwards source remaining => do
    match remaining with
    | 0 => return none
    | place + 1 =>
      match ((← world).items? source).bind fun items => items[place]? with
      | some item => return some (item, .listBackwards source place)
      | none => return none
  | .range next stop step => do
    if (0 < step && next < stop) || (step < 0 && stop < next) then
      return some (.int next, .range (next + step) stop step)
    else return none
  | .entries source kind place size => do
    let entries := ((← world).entries? source).getD []
    if entries.length != size then
      fail ⟨.failed, "dictionary changed size during iteration"⟩
    match (entries.drop place).head? with
    | none => return none
    | some (key, value) =>
      let shown := match kind with
        | .keys => key
        | .values => value
        | .items => Value.tuple [key, value]
      return some (shown, .entries source kind (place + 1) size)
  | .loop source => do
    match ← loopState? (.ref source) with
    | none => return none
    | some (_, state) =>
      match ← loopNext source state with
      | some item => return some (.tuple [item, .ref source], .loop source)
      | none => return none
  | .mapped source filter given context => do
    match ← advance source with
    | none => return none
    | some item =>
      let value ← callFilter context filter { given with positional := item :: given.positional }
      return some (value, .mapped source filter given context)
  | .picked source path fallback => do
    match ← advance source with
    | none => return none
    | some item => return some (← Rule.follow path fallback item, .picked source path fallback)
  | .selected source path test negated context => do
    let choose (item : Value) : Run (Option Value) := do
      return if ← isSelected path test negated context item then some item else none
    return (← firstResult source choose Value.itemLimit).map fun item =>
      (item, .selected source path test negated context)
  | .unique source caseSensitive path seen => do
    let fresh (item : Value) : Run (Option Value) := do
      let key ← Rule.foldedCase caseSensitive (← Rule.follow path none item)
      requireHashable key
      return if ← isAmong key seen then none else some (.tuple [key, item])
    match ← firstResult source fresh Value.itemLimit with
    | some (.tuple [key, item]) =>
      return some (item, .unique source caseSensitive path (seen ++ [key]))
    | _ => return none
  | .batches source size fill => nextBatch source size fill
  | .filtered source place test outer slots context height => do
    let choose (item : Value) : Run (Option Value) := do
      let stage : Stage := ⟨← allocate (.activation ⟨some outer, slots, none⟩), context, height⟩
      assign stage item place
      if ← truth (← evaluate stage test) then return some (← placeValue stage place)
      else return none
    return (← firstResult source choose Value.itemLimit).map fun item =>
      (item, .filtered source place test outer slots context height)

/-- The next item of an iterator. -/
def nextItem (address : Ref) : Run (Option Value) := do
  match ← cell address with
  | some (.iterator kind state) =>
    match state with
    | .done => return none
    | .values (item :: rest) =>
      put address (.iterator kind (.values rest))
      return some item
    | _ =>
      put address (.iterator kind .done)
      let started ← match state with
        | .notStarted filter value given context => startFilter filter value given context
        | other => pure other
      match ← step started with
      | some (item, state) =>
        put address (.iterator kind state)
        return some item
      | none => return none
  | some (.loop _) =>
    match ← loopState? (.ref address) with
    | some (_, state) => loopNext address state
    | none => return none
  | _ => return none

end PageTemplates.Run
