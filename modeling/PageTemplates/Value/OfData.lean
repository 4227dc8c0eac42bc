import PageTemplates.Render.Run

/-!
Data and values: data becomes a value whose containers are new things in the world, and a value is
read back as data where it has that form.
-/

namespace PageTemplates

namespace Run

mutual

/-- The value of data. -/
def ofData : Data → Run Value
  | .none => return .none
  | .bool value => return .bool value
  | .int value => return .int value
  | .float value => return .float value
  | .text value => return .text value
  | .markup value => return .markup value
  | .bytes value => return .bytes value
  | .list items => do newList (← ofItems items)
  | .tuple items => do return .tuple (← ofItems items)
  | .set items => do new (.set (← ofItems items))
  | .dict entries => do newDict (← ofEntries entries)
  | .mapping entries => do new (.mapping (← ofEntries entries))
  | .object attributes => do new (.object (← ofAttributes attributes))
  | .date value => return .date value
  | .datetime value => return .datetime value
  | .sealed => new .sealed
  | .explosive => new .explosive

/-- The values of items. -/
def ofItems : List Data → Run (List Value)
  | [] => return []
  | item :: items => do
    let value ← ofData item
    return value :: (← ofItems items)

/-- The values of entries. -/
def ofEntries : List (Data × Data) → Run (List (Value × Value))
  | [] => return []
  | (key, item) :: entries => do
    let key ← ofData key
    let value ← ofData item
    return (key, value) :: (← ofEntries entries)

/-- The values of attributes. -/
def ofAttributes : List (Text × Data) → Run (List (Text × Value))
  | [] => return []
  | (name, item) :: attributes => do
    let value ← ofData item
    return (name, value) :: (← ofAttributes attributes)

end

end Run

namespace Value

/-- The data of a value that is made of constants only: nothing, truth values, numbers, texts,
markup, and lists, tuples and dictionaries of these. The first argument bounds the nesting. -/
def constant? (world : World) : (depth : Nat) → Value → Option Data
  | 0, _ => Option.none
  | depth + 1, value =>
    match value with
    | .none => some .none
    | .bool value => some (.bool value)
    | .int value => some (.int value)
    | .float value => some (.float value)
    | .text value => some (.text value)
    | .markup value => some (.markup value)
    | .tuple items => (items.mapM (constant? world depth)).map .tuple
    | .ref address =>
      match world.cell? address with
      | some (.list items) => (items.toList.mapM (constant? world depth)).map .list
      | some (.dict entries) => do
        let entries ← entries.toList.mapM fun (key, item) => do
          let key ← constant? world depth key
          let item ← constant? world depth item
          return (key, item)
        return .dict entries
      | _ => Option.none
    | _ => Option.none


end Value

end PageTemplates
