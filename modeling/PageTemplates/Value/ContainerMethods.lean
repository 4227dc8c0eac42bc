import PageTemplates.Value.Arity
import PageTemplates.Value.Item
import PageTemplates.Value.Convert

/-!
The methods of lists, dictionaries, mappings, sets, tuples and ranges. Those that change a container
change the thing in the world, so every holder of its reference sees the change.
-/

namespace PageTemplates.ContainerMethods

open Run

/-- Puts an entry into entries: a key that is there keeps its place and its spelling. -/
def putEntry (world : World) (key value : Value) (entries : List (Value × Value)) :
    List (Value × Value) :=
  match Value.keyPlace? world key entries with
  | some place => entries.modify place fun (old, _) => (old, value)
  | none => entries ++ [(key, value)]

/-- The two items of one element of an update. -/
def pairOf (place : Nat) (element : Value) : Run (Value × Value) := do
  let items ← recovering (itemsOf element) (fun failure => failure.cause = .wrongType) fun _ =>
    fail (.wrongType ("cannot convert dictionary update sequence element #" ++ Text.ofNat place ++
      " to a sequence"))
  match items with
  | [key, value] => return (key, value)
  | items =>
    fail (.wrongValue ("dictionary update sequence element #" ++ Text.ofNat place ++
      " has length " ++ Text.ofNat items.length ++ "; 2 is required"))

/-- The entries that a value stands for: those of a mapping, or pairs. -/
def entriesFrom (value : Value) : Run (List (Value × Value)) := do
  match ← entriesOf? value with
  | some entries => return entries
  | none =>
    let elements ← itemsOf value
    (elements.zipIdx).mapM fun (element, place) => pairOf place element

/-- Adds entries to entries one by one. -/
def mergeEntries (entries : List (Value × Value)) :
    List (Value × Value) → Run (List (Value × Value))
  | [] => return entries
  | (key, value) :: others => do
    requireHashable key
    mergeEntries (putEntry (← world) key value entries) others

/-- Arguments by name as entries. -/
def namedEntries (given : Given) : List (Value × Value) :=
  given.named.map fun (name, value) => (.text name, value)

/-- The place of an item that is the same as or equal to a value. -/
def findItem (value : Value) : (place : Nat) → List Value → Run (Option Nat)
  | _, [] => return none
  | place, item :: items => do
    if ← settled (Value.matches? (← world) item value) then return some place
    else findItem value (place + 1) items

/-- How many items are the same as or equal to a value. -/
def countItems (value : Value) : List Value → Run Nat
  | [] => return 0
  | item :: items => do
    let rest ← countItems value items
    return if ← settled (Value.matches? (← world) item value) then rest + 1 else rest

/-- How many items go on as the first two began: each before its neighbour, or none of them. -/
def runLength (falling : Bool) (before : Value) : List (Value × Value) → Run Nat
  | [] => return 0
  | (key, _) :: rest => do
    if (← less key before) == falling then return (← runLength falling key rest) + 1
    else return 0

/-- The place of a key among keys that are in order, after those equal to it. The search halves the
places between its two bounds. -/
def insertionPlace (sorted : Array (Value × Value)) (key : Value) :
    (bound low high : Nat) → Run Nat
  | 0, low, _ => return low
  | bound + 1, low, high => do
    if low < high then
      let middle := low + (high - low) / 2
      let other := (sorted[middle]?.map Prod.fst).getD .none
      if ← less key other then insertionPlace sorted key bound low middle
      else insertionPlace sorted key bound (middle + 1) high
    else return low

/-- Inserts keyed items one after another into items that are in order. -/
def insertAll (sorted : Array (Value × Value)) :
    List (Value × Value) → Run (List (Value × Value))
  | [] => return sorted.toList
  | (key, value) :: rest => do
    let place ← insertionPlace sorted key (sorted.size + 1) 0 sorted.size
    insertAll (sorted.insertIdxIfInBounds place (key, value)) rest

/-- Puts a short list in order: the run that it starts with is taken as it is, or turned round, and
the other items are inserted. -/
def insertionSorted : List (Value × Value) → Run (List (Value × Value))
  | first :: second :: rest => do
    let falling ← less second.1 first.1
    let length := (← runLength falling second.1 rest) + 2
    let items := first :: second :: rest
    let run := items.take length
    insertAll (if falling then run.reverse else run).toArray (items.drop length)
  | items => return items

/-- Merges two lists that are in order; of equal keys those of the first list come first. -/
def mergeSorted : (bound : Nat) → List (Value × Value) → List (Value × Value) →
    Run (List (Value × Value))
  | 0, firsts, seconds => return firsts ++ seconds
  | _ + 1, [], seconds => return seconds
  | _ + 1, firsts, [] => return firsts
  | bound + 1, first :: firsts, second :: seconds => do
    if ← less second.1 first.1 then
      return second :: (← mergeSorted bound (first :: firsts) seconds)
    else return first :: (← mergeSorted bound firsts (second :: seconds))

/-- Puts keyed items in rising order. The first argument bounds the halvings. -/
def sortRising : (bound : Nat) → List (Value × Value) → Run (List (Value × Value))
  | 0, items => insertionSorted items
  | bound + 1, items => do
    if items.length < 64 then insertionSorted items
    else
      let half := items.length / 2
      let firsts ← sortRising bound (items.take half)
      let seconds ← sortRising bound (items.drop half)
      mergeSorted items.length firsts seconds

/-- Puts keyed items in order; items with equal keys keep their order, also in falling order. -/
def sortKeyed (reverse : Bool) (items : List (Value × Value)) : Run (List (Value × Value)) := do
  if reverse then return (← sortRising 64 items.reverse).reverse
  else sortRising 64 items

/-- Puts values in order by their keys. -/
def sortBy (reverse : Bool) (key : Value → Run Value) (values : List Value) : Run (List Value) := do
  let keyed ← values.mapM fun value => do return (← key value, value)
  return (← sortKeyed reverse keyed).map Prod.snd

/-- The bound of a search in a list. -/
def searchBound (length : Nat) (value : Option Value) (default : Nat) : Run Nat := do
  match value with
  | none => return default
  | some value =>
    match value.int? with
    | some number =>
      let number := if number < 0 then number + length else number
      return number.toNat
    | none => fail (.wrongType "slice indices must be integers or have an __index__ method")

/-- The place of a value among items. -/
def indexAmong (items : List Value) (arguments : List Value) (failure : Value → Run Failure) :
    Run Value := do
  match arguments with
  | value :: bounds =>
    let start ← searchBound items.length bounds[0]? 0
    let stop ← searchBound items.length bounds[1]? items.length
    match ← findItem value start ((items.take stop).drop start) with
    | some place => return .int place
    | none => fail (← failure value)
  | [] => return .none

/-- Puts other items into a list. -/
def setItems (address : Ref) (items : List Value) : Run Value := do
  put address (.list items.toArray)
  return .none

/-- Adds an item to a list. -/
def appendItem (address : Ref) (items : Array Value) (given : Given) : Run Value := do
  let value ← Arity.one "list" "append" given
  put address (.list (items.push value))
  return .none

/-- Adds items to a list, which may change while they are gone through. -/
def extendItems (address : Ref) (items : Array Value) (given : Given) : Run Value := do
  let more ← itemsOf (← Arity.one "list" "extend" given)
  let items := ((← world).items? address).getD items
  put address (.list (items ++ more.toArray))
  return .none

/-- Puts an item into a list at a place, which may be counted from the end. -/
def insertItem (address : Ref) (items : Array Value) (given : Given) : Run Value := do
  match ← Arity.between "list" "insert" 2 2 given with
  | [place, value] =>
    let place ← toSize place
    let size := Int.ofNat items.size
    let place := if place < 0 then max 0 (place + size) else min place size
    setItems address (items.toList.insertIdx place.toNat value)
  | _ => return .none

/-- Takes the first item equal to a value out of a list. -/
def removeItem (address : Ref) (items : Array Value) (given : Given) : Run Value := do
  let value ← Arity.one "list" "remove" given
  match ← findItem value 0 items.toList with
  | some place => setItems address (items.toList.eraseIdx place)
  | none => fail (.wrongValue "list.remove(x): x not in list")

/-- Takes the item at a place out of a list, or the last one. -/
def popItem (address : Ref) (items : Array Value) (given : Given) : Run Value := do
  let arguments ← Arity.between "list" "pop" 0 1 given
  let place ← match arguments with
    | value :: _ => toSize value
    | [] => pure (-1)
  if items.isEmpty then fail (.missingIndex "pop from empty list")
  match Value.place? items.size place with
  | some place =>
    let _ ← setItems address (items.toList.eraseIdx place)
    return items[place]?.getD .none
  | none => fail (.missingIndex "pop index out of range")

/-- The key by which an item is sorted: what a function gives for it, or the item. -/
def sortKey (key : Option Value) (value : Value) : Run Value :=
  match key with
  | none => return value
  | some .none => return value
  | some function => Run.call none function (.ofList [value])

/-- Sorts a list in place. -/
def sortItems (address : Ref) (items : Array Value) (given : Given) : Run Value := do
  if !given.positional.isEmpty then
    fail (.wrongType "sort() takes no positional arguments")
  match ← Arity.optional "sort" ["key", "reverse"] given with
  | [key, reverse] =>
    let reverse ← match reverse with
      | some value => pure ((← toIndex value) != 0)
      | none => pure false
    setItems address (← sortBy reverse (sortKey key) items.toList)
  | _ => return .none

/-- Calls a method of a list. -/
def callList (address : Ref) (items : Array Value) (method : String) (given : Given) :
    Run Value := do
  let name := Text.ofString method
  match method with
  | "append" => appendItem address items given
  | "extend" => extendItems address items given
  | "insert" => insertItem address items given
  | "remove" => removeItem address items given
  | "pop" => popItem address items given
  | "index" =>
    indexAmong items.toList (← Arity.between "list" name 1 3 given) fun value => do
      return .wrongValue ((← quoted value) ++ " is not in list")
  | "count" => return .int (← countItems (← Arity.one "list" name given) items.toList)
  | "sort" => sortItems address items given
  | "reverse" =>
    Arity.none "list" name given
    setItems address items.toList.reverse
  | "copy" =>
    Arity.none "list" name given
    new (.list items)
  | "clear" =>
    Arity.none "list" name given
    setItems address []
  | _ => fail ⟨.unsupported, "method " ++ name ++ " is not supported"⟩

/-- A dictionary with given keys and one value. -/
def fromKeys (given : Given) : Run Value := do
  match ← Arity.between "dict" "fromkeys" 1 2 given with
  | keys :: rest =>
    let value := rest.head?.getD .none
    let keys ← itemsOf keys
    newDict (← mergeEntries [] (keys.map fun key => (key, value)))
  | [] => return .none

/-- Puts other entries into a dictionary. -/
def setEntries (address : Ref) (entries : List (Value × Value)) : Run Unit :=
  put address (.dict entries.toArray)

/-- The value of a key, or a given one. -/
def getEntry (entries : List (Value × Value)) (owner : Text) (given : Given) : Run Value := do
  match ← Arity.between owner "get" 1 2 given with
  | key :: rest =>
    requireHashable key
    return (Value.lookup? (← world) key entries).getD (rest.head?.getD .none)
  | [] => return .none

/-- Takes the entry of a key out of a dictionary. -/
def popEntry (address : Ref) (entries : List (Value × Value)) (owner : Text) (given : Given) :
    Run Value := do
  match ← Arity.between owner "pop" 1 2 given with
  | key :: rest =>
    requireHashable key
    match Value.keyPlace? (← world) key entries with
    | some place =>
      setEntries address (entries.eraseIdx place)
      return (entries[place]?.map Prod.snd).getD .none
    | none =>
      match rest with
      | value :: _ => return value
      | [] => fail (.missingKey (← quoted key))
  | [] => return .none

/-- Takes the last entry out of a dictionary. -/
def popLastEntry (address : Ref) (entries : List (Value × Value)) (owner : Text) (given : Given) :
    Run Value := do
  Arity.none owner "popitem" given
  match entries.reverse with
  | (key, value) :: before =>
    setEntries address before.reverse
    return .tuple [key, value]
  | [] => fail (.missingKey (Text.quoted "popitem(): dictionary is empty"))

/-- The value of a key, which is put into a dictionary if there is none. -/
def defaultEntry (address : Ref) (entries : List (Value × Value)) (owner : Text) (given : Given) :
    Run Value := do
  match ← Arity.between owner "setdefault" 1 2 given with
  | key :: rest =>
    requireHashable key
    match Value.lookup? (← world) key entries with
    | some value => return value
    | none =>
      let value := rest.head?.getD .none
      setEntries address (entries ++ [(key, value)])
      return value
  | [] => return .none

/-- Merges entries into a dictionary. -/
def updateEntries (address : Ref) (entries : List (Value × Value)) (owner : Text) (given : Given) :
    Run Value := do
  let arguments ← Arity.between owner "update" 0 1 { given with named := [] }
  let added ← match arguments with
    | value :: _ => entriesFrom value
    | [] => pure []
  setEntries address (← mergeEntries entries (added ++ namedEntries given))
  return .none

/-- Calls a method of a dictionary or mapping. -/
def callDict (address : Ref) (entries : List (Value × Value)) (owner : Text) (method : String)
    (given : Given) : Run Value := do
  let name := Text.ofString method
  match method with
  | "get" => getEntry entries owner given
  | "keys" =>
    Arity.none owner name given
    return .view .keys address
  | "values" =>
    Arity.none owner name given
    return .view .values address
  | "items" =>
    Arity.none owner name given
    return .view .items address
  | "copy" =>
    Arity.none owner name given
    newDict entries
  | "clear" =>
    Arity.none owner name given
    setEntries address []
    return .none
  | "pop" => popEntry address entries owner given
  | "popitem" => popLastEntry address entries owner given
  | "setdefault" => defaultEntry address entries owner given
  | "update" => updateEntries address entries owner given
  | "fromkeys" => fromKeys given
  | _ => fail ⟨.unsupported, "method " ++ name ++ " is not supported"⟩

/-- Calls a method of a tuple. -/
def callTuple (items : List Value) (method : String) (given : Given) : Run Value := do
  let name := Text.ofString method
  match method with
  | "count" => return .int (← countItems (← Arity.one "tuple" name given) items)
  | "index" =>
    indexAmong items (← Arity.between "tuple" name 1 3 given) fun _ => do
      return .wrongValue "tuple.index(x): x not in tuple"
  | _ => fail ⟨.unsupported, "method " ++ name ++ " is not supported"⟩

/-- Calls a method of a range. -/
def callRange (items : List Value) (method : String) (given : Given) : Run Value := do
  let name := Text.ofString method
  let value ← Arity.one "range" name given
  match method with
  | "count" => return .int (← countItems value items)
  | "index" =>
    match ← findItem value 0 items with
    | some place => return .int place
    | none =>
      if value.int?.isSome then fail (.wrongValue ((← quoted value) ++ " is not in range"))
      else fail (.wrongValue "sequence.index(x): x not in sequence")
  | _ => fail ⟨.unsupported, "method " ++ name ++ " is not supported"⟩

end PageTemplates.ContainerMethods
