import PageTemplates.Rule

/-!
Filters on sequences and mappings. Those that yield their items one by one do nothing until the
first item is asked for.
-/

namespace PageTemplates.SequenceFilters

open Run Rule

/-- The first item of a sequence. -/
def firstOf (value : Value) : Run Value := do
  match ← advance (← iterate value) with
  | some item => return item
  | none => undefinedWith "No first item, sequence was empty."

/-- Some item of a sequence: any will do, and the first one is taken. -/
def someOf (value : Value) : Run Value := do
  if (← lengthOf value) == 0 then undefinedWith "No random item, sequence was empty."
  else item value (.int 0)

/-- A new iterator over items from the last one. -/
def fromLast (kind : String) (items : List Value) : Run (Option Value) := do
  return some (← new (.iterator kind (.values items.reverse)))

/-- An iterator over a value from its end; none if the value has no end to start from. -/
def backwards? (value : Value) : Run (Option Value) := do
  match value with
  | .ref address =>
    match ← cell address with
    | some (.list items) =>
      return some (← new (.iterator "list_reverseiterator" (.listBackwards address items.size)))
    | some (.dict entries) =>
      fromLast "dict_reversekeyiterator" (entries.toList.map Prod.fst)
    | some (.mapping entries) => fromLast "dict_reversekeyiterator" (entries.map Prod.fst)
    | _ => return none
  | .range first stop step =>
    fromLast "range_iterator" (Value.rangeItems first stop step)
  | .view kind dict =>
    let entries := ((← world).entries? dict).getD []
    fromLast "dict_reversekeyiterator" (Value.viewItems kind entries)
  | .markup text => fromLast "reversed" (text.map fun point => .markup [point])
  | .undefined .. =>
    failIfStrict value
    fromLast "reversed" []
  | .text text => fromLast "reversed" (Value.characters text)
  | .bytes _ => fromLast "reversed" ((value.items? (← world)).getD [])
  | .tuple items => fromLast "reversed" items
  | .group key members => fromLast "reversed" [key, members]
  | _ => return none

/-- The last item of a sequence. -/
def lastOf (value : Value) : Run Value := do
  match ← backwards? value with
  | none => fail (.wrongType ("'" ++ (← className value) ++ "' object is not reversible"))
  | some iterator =>
    match iterator with
    | .ref address =>
      match ← advance address with
      | some item => return item
      | none => undefinedWith "No last item, sequence was empty."
    | _ => undefinedWith "No last item, sequence was empty."

/-- A value from its end: a text as a text, all else item by item. -/
def reversedOf (value : Value) : Run Value := do
  match value.text? with
  | some text => return value.like text.reverse
  | none =>
    match ← backwards? value with
    | some iterator => return iterator
    | none =>
      recovering (do newList (← itemsOf value).reverse) (fun failure => failure.cause = .wrongType)
        fun _ => fail (badArgument "argument must be iterable")

/-- The entries of a mapping, which a filter asks for by calling its method. -/
def itemsMethod (value : Value) : Run (List (Value × Value)) := do
  match ← entriesOf? value with
  | some entries => return entries
  | none =>
    failIfUndefined value
    fail (.missingAttribute (← className value) "items")

/-- The entries of a mapping in the order of their keys or values. -/
def sortedEntries (bound : Bound) : Run Value := do
  let side := (bound.get "by").text?
  let byKey := side = some "key"
  if !byKey && side != some (Text.ofString "value") then
    fail (badArgument "You can only sort by either \"key\" or \"value\"")
  let entries ← itemsMethod (bound.get "value")
  let caseSensitive ← flag bound "case_sensitive"
  let reverse := (← toIndex (bound.get "reverse")) != 0
  let keyed ← entries.mapM fun (key, value) => do
    return (← foldedCase caseSensitive (if byKey then key else value), Value.tuple [key, value])
  newList ((← ContainerMethods.sortKeyed reverse keyed).map Prod.snd)

/-- What items are sorted by: what each of some paths leads to. -/
def sortKey (caseSensitive : Bool) (paths : List (List Value)) (item : Value) : Run Value := do
  let keys ← paths.mapM fun path => do foldedCase caseSensitive (← follow path none item)
  return .tuple keys

/-- The items of a sequence in order, by themselves or by what paths lead to. -/
def sorted (bound : Bound) : Run Value := do
  let paths := pathsOf (bound.get "attribute")
  let caseSensitive ← flag bound "case_sensitive"
  let items ← itemsOf (bound.get "value")
  let reverse := (← toIndex (bound.get "reverse")) != 0
  newList (← ContainerMethods.sortBy reverse (sortKey caseSensitive paths) items)

/-- An item behind what a path leads to in it. -/
def keyed (caseSensitive : Bool) (path : List Value) (fallback : Option Value) (item : Value) :
    Run (Value × Value) := do
  return (← foldedCase caseSensitive (← follow path fallback item), item)

/-- The first item with the least or greatest key. -/
def extreme (greatest : Bool) (best : Value × Value) : List (Value × Value) → Run Value
  | [] => return best.2
  | (key, item) :: rest => do
    let better ←
      settled (Value.ordered? (← world) (if greatest then .greater else .less) key best.1)
    extreme greatest (if better then (key, item) else best) rest

/-- The least or greatest item of a sequence. -/
def extremeOf (greatest : Bool) (bound : Bound) : Run Value := do
  let path := pathOf (bound.get "attribute")
  let items ← itemsOf (bound.get "value")
  match items with
  | [] => undefinedWith "No aggregated item, sequence was empty."
  | first :: rest =>
    let caseSensitive ← flag bound "case_sensitive"
    let best ← keyed caseSensitive path none first
    extreme greatest best (← rest.mapM (keyed caseSensitive path none))

/-- Neighbours with equal keys together. -/
def runsOf : List (Value × Value) → Run (List (Value × List Value))
  | [] => return []
  | (key, item) :: rest => do
    match ← runsOf rest with
    | [] => return [(key, [item])]
    | (other, members) :: groups =>
      if ← settled (Value.matches? (← world) key other) then
        return (key, item :: members) :: groups
      else return (key, [item]) :: (other, members) :: groups

/-- A group of items with a key, which is shown as it stands in the first item. -/
def group (caseSensitive : Bool) (path : List Value) (fallback : Option Value)
    (found : Value × List Value) : Run Value := do
  let shown ←
    if caseSensitive then pure found.1
    else
      match found.2 with
      | first :: _ => follow path fallback first
      | [] => pure found.1
  return .group shown (← newList found.2)

/-- The items of a sequence in groups by what a path leads to, in the order of the keys. -/
def grouped (bound : Bound) : Run Value := do
  let path := pathOf (bound.get "attribute")
  let fallback := fallbackOf (bound.get "default")
  let caseSensitive ← flag bound "case_sensitive"
  let items ← itemsOf (bound.get "value")
  let pairs ← items.mapM (keyed caseSensitive path fallback)
  let groups ← runsOf (← ContainerMethods.sortKeyed false pairs)
  newList (← groups.mapM (group caseSensitive path fallback))

/-- The sum of the items of a sequence, or of what a path leads to in them. -/
def summed (bound : Bound) : Run Value := do
  let path := pathOf (bound.get "attribute")
  let start := bound.get "start"
  let items ← itemsOf (bound.get "iterable")
  if start.text?.isSome then
    fail (.wrongType "sum() can't sum strings [use ''.join(seq) instead]")
  match start with
  | .bytes _ => fail (.wrongType "sum() can't sum bytes [use b''.join(seq) instead]")
  | _ => pure ()
  items.foldlM (fun total item => do binary .add total (← follow path none item)) start

/-- One of a number of lists of items, of which the first ones have an item more and the others are
filled up. -/
def slice (items : List Value) (each extra : Int) (fill : Value) (place : Nat) : Run Value := do
  let place := Int.ofNat place
  let start := place * each + min place extra
  let stop := (place + 1) * each + min (place + 1) extra
  let members := (items.take stop.toNat).drop start.toNat
  newList (if extra ≤ place then members ++ (fallbackOf fill).toList else members)

/-- The items of a sequence in a number of lists, of which the first ones take the items too many. -/
def slices (value count fill : Value) : Run (List Value) := do
  let items ← itemsOf value
  let size := Value.int items.length
  let each := ((← binary .floorDiv size count).int?).getD 0
  let extra := ((← binary .mod size count).int?).getD 0
  let number ← toIndex count
  requireRoom number.toNat
  (List.range number.toNat).mapM (slice items each extra fill)

/-- The entries of a mapping as pairs. -/
def pairs (value : Value) : Run (List Value) := do
  if value.isUndefined then return []
  match ← entriesOf? value with
  | some entries => return entries.map fun (key, item) => .tuple [key, item]
  | none => fail (.wrongType "Can only get item pairs from a mapping.")

/-- A value, or another one where it is undefined, or where it is not true if that counts too. -/
def defaulted (bound : Bound) : Run Value := do
  let value := bound.get "value"
  if value.isUndefined then return bound.get "default_value"
  if ← flag bound "boolean" then
    if ← truth value then return value else return bound.get "default_value"
  return value

/-- A member of a value and never an item. -/
def memberOf (bound : Bound) : Run Value := do
  let owner := bound.get "obj"
  let name := bound.get "name"
  match name.text? with
  | some text =>
    match ← member? owner text with
    | some found => shownMember owner text found
    | none => undefinedMember owner name
  | none => fail (.wrongType "hasattr(): attribute name must be string")

/-- Further arguments by place and by name. -/
def anyArguments : Signature := [⟨"args", .rest, none⟩, ⟨"kwargs", .restNamed, none⟩]

/-- A filter that does its work when items are asked for. -/
def lazyRule (title name : String) (companion : Companion) (parameters : Signature) : Rule :=
  signed title companion (.required "value" :: parameters) fun context bound =>
    let given : Given := ⟨bound.rest ++ (parameters.filterMap fun parameter =>
      bound.values.lookup parameter.name), bound.named⟩
    lazily name (bound.get "value") given context

/-- The rule for the number of items. -/
def lengthRule : Rule :=
  ⟨"len", .nothing, .fixed "" 1 .exactly, fun _ bound => do
    return .int (← lengthOf (bound.get "first"))⟩

/-- The rule for a value in place of one that is undefined. -/
def defaultRule : Rule :=
  plain "do_default" .nothing
    [.required "value", .optional "default_value" (.text []), .optional "boolean" (.bool false)]
    defaulted

/-- The parameters of the least and the greatest. -/
def extremeParameters : Signature :=
  [.required "value", .optional "case_sensitive" (.bool false), .optional "attribute" .none]

/-- The filters on sequences by name. -/
def rules : List (String × Rule) :=
  [ ("first", plain "sync_do_first" .environment [.required "seq"] fun bound =>
      firstOf (bound.get "seq")),
    ("last", plain "do_last" .environment [.required "seq"] fun bound => lastOf (bound.get "seq")),
    ("random", plain "do_random" .context [.required "seq"] fun bound => someOf (bound.get "seq")),
    ("length", lengthRule),
    ("count", lengthRule),
    ("list", plain "sync_do_list" .nothing [.required "value"] fun bound => do
      newList (← itemsOf (bound.get "value"))),
    ("reverse", plain "do_reverse" .nothing [.required "value"] fun bound =>
      reversedOf (bound.get "value")),
    ("dictsort", plain "do_dictsort" .nothing
      [.required "value", .optional "case_sensitive" (.bool false), .optional "by" (.text "key"),
        .optional "reverse" (.bool false)] sortedEntries),
    ("sort", plain "do_sort" .environment
      [.required "value", .optional "reverse" (.bool false),
        .optional "case_sensitive" (.bool false), .optional "attribute" .none] sorted),
    ("min", plain "do_min" .environment extremeParameters (extremeOf false)),
    ("max", plain "do_max" .environment extremeParameters (extremeOf true)),
    ("groupby", plain "sync_do_groupby" .environment
      [.required "value", .required "attribute", .optional "default" .none,
        .optional "case_sensitive" (.bool false)] grouped),
    ("sum", plain "sync_do_sum" .environment
      [.required "iterable", .optional "attribute" .none, .optional "start" (.int 0)] summed),
    ("default", defaultRule),
    ("d", defaultRule),
    ("attr", plain "do_attr" .environment [.required "obj", .required "name"] memberOf),
    ("items", lazyRule "do_items" "items" .nothing []),
    ("map", lazyRule "sync_do_map" "map" .context anyArguments),
    ("select", lazyRule "sync_do_select" "select" .context anyArguments),
    ("reject", lazyRule "sync_do_reject" "reject" .context anyArguments),
    ("selectattr", lazyRule "sync_do_selectattr" "selectattr" .context anyArguments),
    ("rejectattr", lazyRule "sync_do_rejectattr" "rejectattr" .context anyArguments),
    ("unique", lazyRule "sync_do_unique" "unique" .environment
      [.optional "case_sensitive" (.bool false), .optional "attribute" .none]),
    ("batch", lazyRule "do_batch" "batch" .nothing
      [.required "linecount", .optional "fill_with" .none]),
    ("slice", lazyRule "sync_do_slice" "slice" .nothing
      [.required "slices", .optional "fill_with" .none]) ]

end PageTemplates.SequenceFilters
