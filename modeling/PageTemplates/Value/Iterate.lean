import PageTemplates.Value.Compare
import PageTemplates.Markup.Escape

/-!
Going through values: iterators, the items of a value as a list, truth, length and membership.
Iterators over lists and dictionaries look at the thing itself at each step, so a change made on the
way is seen.
-/

namespace PageTemplates

namespace Value

/-- The most items that are ever taken from one iterator. -/
def itemLimit : Nat := 100000000

/-- The characters of a text as values. -/
def characters (text : Text) : List Value := text.map fun point => .text [point]

/-- The members of a range in order. -/
def rangeItems (start stop step : Int) : List Value :=
  (List.range (rangeLength start stop step)).map fun (place : Nat) =>
    .int (start + Int.ofNat place * step)

/-- Whether a number is a member of a range. -/
def isInRange (start stop step number : Int) : Bool :=
  (if 0 < step then start ≤ number && number < stop else stop < number && number ≤ start) &&
    Int.emod (number - start) step == 0

/-- What a view of entries shows. -/
def viewItems (kind : ViewKind) (entries : List (Value × Value)) : List Value :=
  match kind with
  | .keys => entries.map Prod.fst
  | .values => entries.map Prod.snd
  | .items => entries.map fun (key, value) => .tuple [key, value]

/-- The items of a value that has them at hand. -/
def items? (world : World) : Value → Option (List Value)
  | .text value => some (characters value)
  | .markup value => some (characters value)
  | .bytes value => some (value.map fun byte => .int (Int.ofNat byte.toNat))
  | .tuple items => some items
  | .group key members => some [key, members]
  | .range start stop step => some (rangeItems start stop step)
  | .view kind dict => (world.entries? dict).map (viewItems kind)
  | .undefined false .. => some []
  | .ref address =>
    match world.cell? address with
    | some (.list items) => some items.toList
    | some (.dict entries) => some (entries.toList.map Prod.fst)
    | some (.mapping entries) => some (entries.map Prod.fst)
    | some (.set items) => some items
    | _ => Option.none
  | _ => Option.none

/-- The length of a value that has one, without asking a loop. -/
def length? (world : World) : Value → Option Nat
  | .range start stop step => some (rangeLength start stop step)
  | .ref address =>
    match world.cell? address with
    | some (.list items) => some items.size
    | some (.dict entries) => some entries.size
    | some (.mapping entries) => some entries.length
    | some (.set items) => some items.length
    | _ => Option.none
  | .text value => some value.length
  | .markup value => some value.length
  | .bytes value => some value.length
  | .tuple items => some items.length
  | .group _ _ => some 2
  | .view _ dict => (world.entries? dict).map List.length
  | .undefined false .. => some 0
  | _ => Option.none

end Value

namespace Run

/-- Whether the first value stands before the second; fails where there is no order. -/
def less (first second : Value) : Run Bool := do
  settled (Value.ordered? (← world) .less first second)

/-- Equality. -/
def equal (first second : Value) : Run Bool := do settled (Value.equal? (← world) first second)

/-- Fails if the value cannot be a key. -/
def requireHashable (value : Value) : Run Unit := do
  settled (Value.requireHashable (← world) value)

/-- An iterator over a value. -/
def iterate (value : Value) : Run Ref := do
  let start (kind : String) (state : Iteration) : Run Ref := allocate (.iterator kind state)
  match value with
  | .text text => start "str_iterator" (.values (Value.characters text))
  | .markup text => start "str_iterator" (.values (Value.characters text))
  | .bytes bytes =>
    start "bytes_iterator" (.values (bytes.map fun byte => .int (Int.ofNat byte.toNat)))
  | .tuple items => start "tuple_iterator" (.values items)
  | .group key members => start "tuple_iterator" (.values [key, members])
  | .range first stop step => start "range_iterator" (.range first stop step)
  | .view kind dict =>
    let size := (((← world).entries? dict).map List.length).getD 0
    start "dict_keyiterator" (.entries dict kind 0 size)
  | .undefined false .. => start "generator" .done
  | .undefined true .. =>
    failIfStrict value
    start "generator" .done
  | .ref address =>
    match ← cell address with
    | some (.list _) => start "list_iterator" (.list address 0)
    | some (.dict entries) => start "dict_keyiterator" (.entries address .keys 0 entries.size)
    | some (.mapping entries) => start "dict_keyiterator" (.values (entries.map Prod.fst))
    | some (.set items) => start "set_iterator" (.values items)
    | some (.iterator _ _) => return address
    | some (.loop _) => start "LoopContext" (.loop address)
    | _ => fail (.notIterable (← className value))
  | _ => fail (.notIterable (← className value))

/-- Takes the items of an iterator that are left, in order. -/
def drain (iterator : Ref) : (bound : Nat) → (done : List Value) → Run (List Value)
  | 0, done => return done.reverse
  | bound + 1, done => do
    match ← advance iterator with
    | some item => drain iterator bound (item :: done)
    | none => return done.reverse

/-- The items of a value. -/
def itemsOf (value : Value) : Run (List Value) := do
  match value.items? (← world) with
  | some items => return items
  | none => drain (← iterate value) Value.itemLimit []

/-- The state of a loop. -/
def loopState? (value : Value) : Run (Option (Ref × LoopState)) := do
  match value with
  | .ref address =>
    match ← cell address with
    | some (.loop state) => return some (address, state)
    | _ => return none
  | _ => return none

/-- The number of items of a loop: that of its source where it has one, else what is found by taking
all items that are left. -/
def loopLength (address : Ref) (state : LoopState) : Run Nat := do
  match state.length with
  | some length => return length
  | none =>
    match state.source.length? (← world) with
    | some length =>
      put address (.loop { state with length := some length })
      return length
    | none =>
      let rest ← drain state.iterator Value.itemLimit []
      let iterator ← allocate (.iterator "list_iterator" (.values rest))
      let length := rest.length + (state.index + 1).toNat + (if state.ahead.isSome then 1 else 0)
      put address (.loop { state with length := some length, iterator := iterator })
      return length

/-- The item after the current one, fetched before its turn. -/
def loopAhead (address : Ref) (state : LoopState) : Run (Option Value) := do
  match state.ahead with
  | some item => return some item
  | none =>
    match ← advance state.iterator with
    | some item =>
      put address (.loop { state with ahead := some item })
      return some item
    | none => return none

/-- Goes on to the next item of a loop. -/
def loopNext (address : Ref) (state : LoopState) : Run (Option Value) := do
  let next ← match state.ahead with
    | some item => pure (some item)
    | none => advance state.iterator
  match next with
  | some item =>
    let state := ((← loopState? (.ref address)).map Prod.snd).getD state
    put address (.loop { state with
      ahead := none, index := state.index + 1, before := state.current, current := some item })
    return some item
  | none => return none

/-- The length of a value. -/
def lengthOf (value : Value) : Run Nat := do
  failIfStrict value
  match ← loopState? value with
  | some (address, state) => loopLength address state
  | none =>
    match value.length? (← world) with
    | some length => return length
    | none => fail (.noLength (← className value))

/-- Truth. -/
def truth (value : Value) : Run Bool := do
  match value with
  | .none => return false
  | .bool value => return value
  | .int value => return value != 0
  | .float value => return value != 0
  | .undefined .. =>
    failIfStrict value
    return false
  | other =>
    match ← loopState? other with
    | some (address, state) => return (← loopLength address state) != 0
    | none => return ((other.length? (← world)).map (· != 0)).getD true

/-- The plain form of a value. -/
def plain (value : Value) : Run Text := do
  match ← loopState? value with
  | some (address, state) =>
    let _ ← loopLength address state
    settled (Value.plain? (← world) value)
  | none => settled (Value.plain? (← world) value)

/-- Whether one of the values is the given one or equal to it. -/
def isAmong (value : Value) : List Value → Run Bool
  | [] => return false
  | item :: items => do
    if ← settled (Value.matches? (← world) item value) then return true else isAmong value items

/-- Whether a byte string holds a byte or another byte string. -/
def holdsBytes (bytes : Bytes) (value : Value) : Run Bool := do
  match value, value.int? with
  | .bytes part, _ =>
    let places := List.range (bytes.length + 1)
    return places.any fun place => part.isPrefixOf (bytes.drop place)
  | _, some number =>
    if 0 ≤ number && number < 256 then
      return bytes.any fun byte => Int.ofNat byte.toNat == number
    else fail (.wrongValue "byte must be in range(0, 256)")
  | _, none =>
    fail (.wrongType ("a bytes-like object is required, not '" ++ (← className value) ++ "'"))

/-- Fails if the value is looked for among keys and cannot be one. -/
def requireSought (container value : Value) : Run Unit := do
  match container with
  | .view .keys _ => requireHashable value
  | .view .items _ =>
    match value.fixedItems? with
    | some [key, _] => requireHashable key
    | _ => return ()
  | .ref address =>
    match ← cell address with
    | some (.set _) => requireHashable value
    | _ => return ()
  | _ => return ()

/-- Membership. -/
def contains (container value : Value) : Run Bool := do
  failIfStrict container
  match container.text? with
  | some text =>
    match value.text? with
    | some part => return Text.includes text part
    | none =>
      fail (.wrongType ("'in <string>' requires string as left operand, not " ++
        (← className value)))
  | none =>
    match container with
    | .ref address =>
      match (← world).entries? address with
      | some entries =>
        requireHashable value
        return (Value.lookup? (← world) value entries).isSome
      | none =>
        match container.items? (← world) with
        | some items =>
          requireSought container value
          isAmong value items
        | none =>
          let iterator ← recovering (iterate container)
            (fun failure => failure.cause = .wrongType) fun _ => do
              fail (.wrongType ("argument of type '" ++ (← className container) ++
                "' is not iterable"))
          isAmong value (← drain iterator Value.itemLimit [])
    | .range start stop step =>
      match value with
      | .int number => return Value.isInRange start stop step number
      | _ => isAmong value (Value.rangeItems start stop step)
    | .bytes bytes => holdsBytes bytes value
    | _ =>
      match container.items? (← world) with
      | some items =>
        requireSought container value
        isAmong value items
      | none =>
        fail (.wrongType ("argument of type '" ++ (← className container) ++
          "' is not iterable"))

/-- Escapes a value unless it is markup. -/
def escaped (value : Value) : Run Text := do
  match value with
  | .markup content => return content
  | .ref address =>
    match ← cell address with
    | some (.module _ body _) => joined body
    | _ => return Markup.escape (← plain value)
  | _ => return Markup.escape (← plain value)

/-- The entries of a dictionary or mapping. -/
def entriesOf? (value : Value) : Run (Option (List (Value × Value))) := do
  match value with
  | .ref address => return (← world).entries? address
  | _ => return none

end Run

end PageTemplates
