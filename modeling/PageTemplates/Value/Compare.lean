import PageTemplates.Value.Print

/-!
Equality and order of values. Numbers compare exactly across their kinds, texts by their code
points, containers item by item. Equality of unlike things is false and never fails, save for
undefined values that are strict; order fails between unlike things.
-/

namespace PageTemplates.Value

/-- A number for comparison: a quotient, or one of the values that are not finite. -/
inductive Magnitude where
  | quotient (numerator : Int) (denominator : Nat)
  | infinite (negative : Bool)
  | undefined

/-- The number that a value is, if it is one. -/
def magnitude? : Value → Option Magnitude
  | .int value => some (.quotient value 1)
  | .bool value => some (.quotient (if value then 1 else 0) 1)
  | .float value =>
    match Number.asQuotient? value with
    | some (numerator, denominator) => some (.quotient numerator denominator)
    | Option.none =>
      if Number.isInfinite value then some (.infinite (Number.signBit value)) else some .undefined
  | _ => Option.none

/-- The order of two numbers; there is none where one is no number. -/
def compareMagnitudes? : Magnitude → Magnitude → Option Ordering
  | .undefined, _ => Option.none
  | _, .undefined => Option.none
  | .infinite first, .infinite second =>
    some (if first == second then .eq else if first then .lt else .gt)
  | .infinite first, _ => some (if first then .lt else .gt)
  | _, .infinite second => some (if second then .gt else .lt)
  | .quotient first firstUnit, .quotient second secondUnit =>
    some (compare (first * secondUnit) (second * firstUnit))

/-- The members of a range. -/
def rangeLength (start stop step : Int) : Nat :=
  if step > 0 then
    if start < stop then ((stop - start - 1) / step + 1).toNat else 0
  else if step < 0 then
    if stop < start then ((start - stop - 1) / (-step) + 1).toNat else 0
  else 0

/-- The items of a fixed sequence. -/
def fixedItems? : Value → Option (List Value)
  | .tuple items => some items
  | .group key members => some [key, members]
  | _ => Option.none

/-- Whether two dates with times are the same moment, or the same reading without offsets. -/
def equalDateTimes (first second : DateTime) : Bool :=
  match first.offset, second.offset with
  | Option.none, Option.none => Calendar.moment first == Calendar.moment second
  | some _, some _ => Calendar.moment first == Calendar.moment second
  | _, _ => false

/-- Equality item by item under an equality of items. -/
def equalItems (same : Value → Value → Except Failure Bool) :
    List Value → List Value → Except Failure Bool
  | [], [] => .ok true
  | first :: firsts, second :: seconds => do
    if ← same first second then equalItems same firsts seconds else return false
  | _, _ => .ok false

/-- Equality of entries whatever their order. -/
def equalEntries (same : Value → Value → Except Failure Bool)
    (firsts seconds : List (Value × Value)) : Except Failure Bool := do
  if firsts.length != seconds.length then return false
  let found ← firsts.mapM fun (key, value) => do
    let equals ← seconds.mapM fun (key', value') => do
      if ← same key key' then same value value' else return false
    return equals.any id
  return found.all id

/-- Equality. -/
def equalWith (world : World) : (depth : Nat) → Value → Value → Except Failure Bool
  | 0, _, _ => .error ⟨.tooDeep, "maximum recursion depth exceeded in comparison"⟩
  | depth + 1, first, second =>
    match first, second with
    | .undefined true hint owner name cause, _ =>
      .error ⟨cause, undefinedMessage world hint owner name⟩
    | _, .undefined true hint owner name cause =>
      .error ⟨cause, undefinedMessage world hint owner name⟩
    | .undefined false .., .undefined false .. => .ok true
    | .none, .none => .ok true
    | .missing, .missing => .ok true
    | .bytes first, .bytes second => .ok (first == second)
    | .date first, .date second => .ok (first == second)
    | .datetime first, .datetime second => .ok (equalDateTimes first second)
    | .range start stop step, .range start' stop' step' =>
      let count := rangeLength start stop step
      .ok (count == rangeLength start' stop' step' &&
        (count == 0 || (start == start' && (count == 1 || step == step'))))
    | .function first, .function second => .ok (first == second)
    | .builtin first, .builtin second => .ok (first == second)
    | .classOf first, .classOf second => .ok (first == second)
    | .builtin first, .classOf second => .ok (first == second)
    | .classOf first, .builtin second => .ok (first == second)
    | .method receiver name, .method receiver' name' =>
      if name == name' then equalWith world depth receiver receiver' else .ok false
    | .view kind dict, .view kind' dict' => .ok (kind == kind' && dict == dict')
    | .template first, .template second => .ok (first == second)
    | .blockOf first context place, .blockOf second context' place' =>
      .ok (first == second && context == context' && place == place')
    | .slice start stop step, .slice start' stop' step' =>
      equalItems (equalWith world depth) [start, stop, step] [start', stop', step']
    | .ref first, .ref second =>
      if first == second then .ok true
      else
        match world.cell? first, world.cell? second with
        | some (.list firsts), some (.list seconds) =>
          if firsts.size == seconds.size then
            equalItems (equalWith world depth) firsts.toList seconds.toList
          else .ok false
        | some (.dict firsts), some (.dict seconds) =>
          equalEntries (equalWith world depth) firsts.toList seconds.toList
        | some (.mapping firsts), some (.mapping seconds) =>
          equalEntries (equalWith world depth) firsts seconds
        | some (.dict firsts), some (.mapping seconds) =>
          equalEntries (equalWith world depth) firsts.toList seconds
        | some (.mapping firsts), some (.dict seconds) =>
          equalEntries (equalWith world depth) firsts seconds.toList
        | some (.object firsts), some (.object seconds) =>
          equalEntries (equalWith world depth) (firsts.map fun (name, value) => (.text name, value))
            (seconds.map fun (name, value) => (.text name, value))
        | some (.set firsts), some (.set seconds) =>
          if firsts.length == seconds.length then do
            let found ← firsts.mapM fun item => do
              let same ← seconds.mapM (equalWith world depth item)
              return same.any id
            return found.all id
          else .ok false
        | _, _ => .ok false
    | first, second =>
      match first.text?, second.text? with
      | some first, some second => .ok (first == second)
      | _, _ =>
        match first.magnitude?, second.magnitude? with
        | some first, some second => .ok (compareMagnitudes? first second == some .eq)
        | _, _ =>
          match first.fixedItems?, second.fixedItems? with
          | some firsts, some seconds => equalItems (equalWith world depth) firsts seconds
          | _, _ => .ok false

/-- Equality of two values. -/
def equal? (world : World) (first second : Value) : Except Failure Bool :=
  equalWith world depthLimit first second

/-- Whether two values are the same thing: the same reference, or equal values of one kind. -/
def isSame (world : World) (first second : Value) : Bool :=
  match first, second with
  | .ref first, .ref second => first == second
  | .ref _, _ => false
  | _, .ref _ => false
  | .undefined .., .undefined .. => false
  | .float first, .float second => first.toBits == second.toBits
  | first, second =>
    classOfValue world first == classOfValue world second &&
      (equal? world first second).toOption.getD false

/-- Whether an item is the same thing as another or equal to it. -/
def matches? (world : World) (first second : Value) : Except Failure Bool :=
  if isSame world first second then .ok true else equal? world first second

/-- Whether a value can be a key; a container inside a fixed sequence counts too. -/
def hashable? (world : World) : (depth : Nat) → Value → Except Failure Unit
  | 0, _ => .ok ()
  | depth + 1, value =>
    match value with
    | .undefined true hint owner name cause =>
      .error ⟨cause, undefinedMessage world hint owner name⟩
    | .slice _ _ _ => .error (.unhashable "slice")
    | .tuple items => items.forM (hashable? world depth)
    | .group key members => [key, members].forM (hashable? world depth)
    | .ref address =>
      match world.cell? address with
      | some (.list _) => .error (.unhashable "list")
      | some (.dict _) => .error (.unhashable "dict")
      | some (.set _) => .error (.unhashable "set")
      | some (.mapping _) => .error (.unhashable "mappingproxy")
      | some (.object _) => .error (.unhashable "types.SimpleNamespace")
      | _ => .ok ()
    | .view .values _ => .ok ()
    | .view .keys _ => .error (.unhashable "dict_keys")
    | .view .items _ => .error (.unhashable "dict_items")
    | _ => .ok ()

/-- Fails if a value cannot be a key. -/
def requireHashable (world : World) (value : Value) : Except Failure Unit :=
  hashable? world depthLimit value

/-- The place of a key among entries. -/
def keyPlace? (world : World) (key : Value) (entries : List (Value × Value)) : Option Nat :=
  entries.findIdx? fun (other, _) => (matches? world other key).toOption.getD false

/-- The value of a key among entries. -/
def lookup? (world : World) (key : Value) (entries : List (Value × Value)) : Option Value :=
  (entries.find? fun (other, _) => (matches? world other key).toOption.getD false).map Prod.snd

/-- The four orders. -/
inductive OrderOperator where
  | less | lessEqual | greater | greaterEqual
  deriving DecidableEq

/-- How an order is written. -/
def OrderOperator.symbol : OrderOperator → String
  | .less => "<"
  | .lessEqual => "<="
  | .greater => ">"
  | .greaterEqual => ">="

/-- Whether an order holds when two things compare in a given way. -/
def OrderOperator.holds : OrderOperator → Ordering → Bool
  | .less, ordering => ordering == .lt
  | .lessEqual, ordering => ordering != .gt
  | .greater, ordering => ordering == .gt
  | .greaterEqual, ordering => ordering != .lt

/-- Whether every item of one set is in another. -/
def isSubset (world : World) (firsts seconds : List Value) : Bool :=
  firsts.all fun item => seconds.any fun other =>
    (matches? world item other).toOption.getD false

/-- Order by the first items that differ, then by length. -/
def orderedItems (world : World) (operator : OrderOperator)
    (ordered : Value → Value → Except Failure Bool) :
    List Value → List Value → Except Failure Bool
  | first :: firsts, second :: seconds => do
    if ← matches? world first second then orderedItems world operator ordered firsts seconds
    else ordered first second
  | [], [] => .ok (operator.holds .eq)
  | [], _ :: _ => .ok (operator.holds .lt)
  | _ :: _, [] => .ok (operator.holds .gt)

/-- Order. -/
def orderedWith (world : World) (operator : OrderOperator) :
    (depth : Nat) → Value → Value → Except Failure Bool
  | 0, _, _ => .error ⟨.tooDeep, "maximum recursion depth exceeded in comparison"⟩
  | depth + 1, first, second =>
    let unordered : Except Failure Bool :=
      .error (.unordered (Text.ofString operator.symbol) (className world first)
        (className world second))
    match undefinedFailure? world first, undefinedFailure? world second with
    | some failure, _ => .error failure
    | _, some failure => .error failure
    | _, _ =>
      match first, second with
      | .bytes first, .bytes second =>
        .ok (operator.holds (compareOfLessAndEq first second))
      | .date first, .date second => .ok (operator.holds (Calendar.compareDates first second))
      | .datetime first, .datetime second =>
        if first.offset.isSome == second.offset.isSome then
          .ok (operator.holds (compare (Calendar.moment first) (Calendar.moment second)))
        else .error (.wrongType "can't compare offset-naive and offset-aware datetimes")
      | .date _, .datetime _ => .error (.wrongType "can't compare datetime.datetime to datetime.date")
      | .datetime _, .date _ => .error (.wrongType "can't compare datetime.datetime to datetime.date")
      | .ref firstAddress, .ref secondAddress =>
        match world.cell? firstAddress, world.cell? secondAddress with
        | some (.list firsts), some (.list seconds) =>
          orderedItems world operator (orderedWith world operator depth) firsts.toList seconds.toList
        | some (.set firsts), some (.set seconds) =>
          match operator with
          | .lessEqual => .ok (isSubset world firsts seconds)
          | .less => .ok (isSubset world firsts seconds && firsts.length < seconds.length)
          | .greaterEqual => .ok (isSubset world seconds firsts)
          | .greater => .ok (isSubset world seconds firsts && seconds.length < firsts.length)
        | _, _ => unordered
      | first, second =>
        match first.text?, second.text? with
        | some first, some second => .ok (operator.holds (Text.order first second))
        | _, _ =>
          match first.magnitude?, second.magnitude? with
          | some first, some second =>
            .ok (((compareMagnitudes? first second).map operator.holds).getD false)
          | _, _ =>
            match first.fixedItems?, second.fixedItems? with
            | some firsts, some seconds => orderedItems world operator (orderedWith world operator depth) firsts seconds
            | _, _ => unordered

/-- The order of two values. -/
def ordered? (world : World) (operator : OrderOperator) (first second : Value) :
    Except Failure Bool :=
  orderedWith world operator depthLimit first second

end PageTemplates.Value
