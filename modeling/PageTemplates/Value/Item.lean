import PageTemplates.Value.Member

/-!
Items, slices and the two ways a template reaches into a value: by point, which takes a member
first, and by brackets, which takes an item first. What is found nowhere is undefined. Under a guard
internal members are undefined as well, and so are the methods that change a value where the guard
keeps values as they are.
-/

namespace PageTemplates

namespace Value

/-- The place that an index means in a sequence of a length: negative ones count from the end. -/
def place? (length : Nat) (index : Int) : Option Nat :=
  let place := if index < 0 then index + length else index
  if 0 ≤ place && place < length then some place.toNat else Option.none

/-- The places that a slice takes from a sequence of a length. The step is not zero. -/
def slicePlaces (length : Nat) (start stop : Option Int) (step : Int) : List Nat :=
  let size := Int.ofNat length
  let low : Int := if step > 0 then 0 else -1
  let high : Int := if step > 0 then size else size - 1
  let clamp (index : Int) : Int :=
    let index := if index < 0 then index + size else index
    max low (min high index)
  let first := (start.map clamp).getD (if step > 0 then low else high)
  let last := (stop.map clamp).getD (if step > 0 then high else low)
  (List.range (rangeLength first last step)).map fun (place : Nat) =>
    (first + Int.ofNat place * step).toNat

/-- The items at places. -/
def pick {Item : Type} (items : Array Item) (places : List Nat) : List Item :=
  places.filterMap fun place => items[place]?

end Value

namespace Run

/-- The failure of a place outside a sequence. -/
def outOfRange (kind : Text) : Failure := .missingIndex (kind ++ " index out of range")

/-- An index as a whole number. -/
def indexOf (kind : Text) (index : Value) : Run Int := do
  match index.int? with
  | some number => return number
  | none =>
    fail (.wrongType (kind ++ " indices must be integers or slices, not " ++ (← className index)))

/-- A bound of a slice. -/
def sliceBound (bound : Value) : Run (Option Int) := do
  match bound with
  | .none => return none
  | bound =>
    match bound.int? with
    | some number => return some number
    | none =>
      fail (.wrongType "slice indices must be integers or None or have an __index__ method")

/-- The start, the stop and the step of a slice. -/
def sliceBounds (start stop step : Value) : Run (Option Int × Option Int × Int) := do
  let step := (← sliceBound step).getD 1
  if step == 0 then fail (.wrongValue "slice step cannot be zero")
  return (← sliceBound start, ← sliceBound stop, step)

/-- A part of a sequence. -/
def sliced (value start stop step : Value) : Run Value := do
  failIfUndefined value
  let take {Item : Type} (items : List Item) : Run (List Item) := do
    let (start, stop, step) ← sliceBounds start stop step
    return Value.pick items.toArray (Value.slicePlaces items.length start stop step)
  match value with
  | .text text => return .text (← take text)
  | .markup text => return .markup (← take text)
  | .bytes bytes => return .bytes (← take bytes)
  | .tuple items => return .tuple (← take items)
  | .group key members => return .tuple (← take [key, members])
  | .range first last unit =>
    let length := Value.rangeLength first last unit
    let (start, stop, step) ← sliceBounds start stop step
    let size := Int.ofNat length
    let low : Int := if step > 0 then 0 else -1
    let high : Int := if step > 0 then size else size - 1
    let clamp (index : Int) : Int :=
      max low (min high (if index < 0 then index + size else index))
    let opening := (start.map clamp).getD (if step > 0 then low else high)
    let closing := (stop.map clamp).getD (if step > 0 then high else low)
    return .range (first + opening * unit) (first + closing * unit) (unit * step)
  | .ref address =>
    match ← cell address with
    | some (.list items) => newList (← take items.toList)
    | some (.dict _) => fail (.unhashable "slice")
    | some (.mapping _) => fail (.unhashable "slice")
    | _ => fail (.notSubscriptable (← className value))
  | _ => fail (.notSubscriptable (← className value))

/-- The item of a mapping. -/
def entryAt (entries : List (Value × Value)) (key : Value) : Run Value := do
  requireHashable key
  match Value.lookup? (← world) key entries with
  | some found => return found
  | none => fail (.missingKey (← quoted key))

/-- An item of a value. -/
def item (value index : Value) : Run Value := do
  match index with
  | .slice start stop step => sliced value start stop step
  | _ =>
    failIfUndefined value
    let itemAt {Item : Type} (kind : Text) (items : List Item) (build : Item → Value) : Run Value := do
      let number ← indexOf kind index
      match (Value.place? items.length number).bind fun place => items[place]? with
      | some found => return build found
      | none => fail (outOfRange kind)
    match value with
    | .text text => itemAt "string" text fun point => .text [point]
    | .markup text => itemAt "string" text fun point => .markup [point]
    | .bytes bytes => itemAt "index" bytes fun byte => .int (Int.ofNat byte.toNat)
    | .tuple items => itemAt "tuple" items id
    | .group key members => itemAt "tuple" [key, members] id
    | .range first last unit =>
      let number ← indexOf "range" index
      match Value.place? (Value.rangeLength first last unit) number with
      | some place => return .int (first + Int.ofNat place * unit)
      | none => fail (.missingIndex "range object index out of range")
    | .template context =>
      match ← cell context, index.text? with
      | some (.context state), some name =>
        match Text.toString? name with
        | some name =>
          if (state.blocks.lookup name).isSome then return .blockOf name context 0
          else fail (.missingKey (Text.quoted (Text.ofString name)))
        | none => fail (.missingKey (Text.quoted name))
      | _, _ => fail (.missingKey (← quoted index))
    | .ref address =>
      match ← cell address with
      | some (.list items) =>
        let number ← indexOf "list" index
        match (Value.place? items.size number).bind fun place => items[place]? with
        | some found => return found
        | none => fail (outOfRange "list")
      | some (.dict entries) => entryAt entries.toList index
      | some (.mapping entries) => entryAt entries index
      | _ => fail (.notSubscriptable (← className value))
    | _ => fail (.notSubscriptable (← className value))

/-- What a value lacks, as an undefined value. -/
def undefinedMember (owner name : Value) : Run Value := do
  return .undefined (← environment).strict none (some owner) (some name) .undefinedName

/-- A member that the guard hides, as an undefined value. -/
def hiddenMember (owner : Value) (name : Text) : Run Value := do
  let hint := "access to attribute " ++ Text.quoted name ++ " of " ++
    Text.quoted (← bareClassName owner) ++ " object is unsafe."
  return .undefined (← environment).strict (some hint) (some owner) (some (.text name)) .security

/-- The methods that change a value of a class. -/
def changingMethods (className : String) : List String :=
  if className == "list" then
    ["append", "clear", "pop", "reverse", "insert", "sort", "extend", "remove"]
  else if className == "dict" then ["clear", "pop", "popitem", "setdefault", "update"]
  else if className == "set" then
    ["add", "clear", "difference_update", "discard", "pop", "remove",
      "symmetric_difference_update", "update"]
  else []

/-- Whether the guard lets a template see a member. -/
def isVisible (owner : Value) (name : Text) : Run Bool := do
  let kind := (Value.classOfValue (← world) owner).2
  let internal := name.head? == some (.scalar '_') ||
    (kind == "type" && name == Text.ofString "mro") ||
    (kind == "generator" && (name == Text.ofString "gi_frame" || name == Text.ofString "gi_code"))
  if internal then return false
  else if (← environment).guard = .immutable then
    return !((changingMethods kind).any fun method => Text.ofString method = name)
  else return true

/-- A member as the guard shows it. -/
def shownMember (owner : Value) (name : Text) (found : Value) : Run Value := do
  if (← environment).guard = .open then return found
  else if ← isVisible owner name then return found
  else hiddenMember owner name

/-- What stands after a point: a member, else an item of that name. -/
def memberOrItem (value : Value) (name : Text) : Run Value := do
  match ← member? value name with
  | some found => shownMember value name found
  | none =>
    match ← attempt (item value (.text name)) Failure.isLookup with
    | some found => return found
    | none => undefinedMember value (.text name)

/-- What stands in brackets: an item, else a member of that name. -/
def itemOrMember (value index : Value) : Run Value := do
  match ← attempt (item value index) Failure.isLookup with
  | some found => return found
  | none =>
    match index.text? with
    | some name =>
      match ← member? value name with
      | some found => shownMember value name found
      | none => undefinedMember value index
    | none => undefinedMember value index

end Run

end PageTemplates
