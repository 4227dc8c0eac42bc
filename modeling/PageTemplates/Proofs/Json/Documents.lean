import PageTemplates.Proofs.Json.Write
import PageTemplates.Proofs.Render.Payloads
import PageTemplates.FunctionTable.Standard

/-!
The documents of data. Data that a document can show comes to that document, and everything else is rejected:
a run that looks for the document changes nothing either way, and does not take data for circular that is not.
-/

namespace PageTemplates

section Unique

variable {world : World}

theorem Value.Refers.unique {value : Value} {cell other : Cell} (refers : value.Refers world cell)
    (again : value.Refers world other) : cell = other := by
  obtain ⟨address, rfl, here⟩ := refers
  obtain ⟨_, ⟨⟩, there⟩ := again
  exact Option.some.inj (here.2.symm.trans there.2)

namespace Data

mutual

/-- A value is one piece of data at most. -/
theorem IsIn.unique (data : Data) {other : Data} {value : Value} (isIn : data.IsIn world value)
    (again : other.IsIn world value) : data = other := by
  cases data with
  | list items =>
      obtain ⟨values, ⟨address, rfl, here⟩, each⟩ := isIn
      cases other with
      | list others =>
          obtain ⟨_, again, more⟩ := again
          cases Value.Refers.unique ⟨address, rfl, here⟩ again
          rw [are_in_unique items each more]
      | _ => simp_all [IsIn, Value.Refers, World.Has]
  | tuple items =>
      obtain ⟨values, rfl, each⟩ := isIn
      cases other with
      | tuple others =>
          obtain ⟨_, ⟨⟩, more⟩ := again
          rw [are_in_unique items each more]
      | _ => simp_all [IsIn, Value.Refers]
  | set items =>
      obtain ⟨values, ⟨address, rfl, here⟩, each⟩ := isIn
      cases other with
      | set others =>
          obtain ⟨_, again, more⟩ := again
          cases Value.Refers.unique ⟨address, rfl, here⟩ again
          rw [are_in_unique items each more]
      | _ => simp_all [IsIn, Value.Refers, World.Has]
  | dict items =>
      obtain ⟨values, ⟨address, rfl, here⟩, each⟩ := isIn
      cases other with
      | dict others =>
          obtain ⟨_, again, more⟩ := again
          cases Value.Refers.unique ⟨address, rfl, here⟩ again
          rw [entries_unique items each more]
      | _ => simp_all [IsIn, Value.Refers, World.Has]
  | mapping items =>
      obtain ⟨values, ⟨address, rfl, here⟩, each⟩ := isIn
      cases other with
      | mapping others =>
          obtain ⟨_, again, more⟩ := again
          cases Value.Refers.unique ⟨address, rfl, here⟩ again
          rw [entries_unique items each more]
      | _ => simp_all [IsIn, Value.Refers, World.Has]
  | object items =>
      obtain ⟨values, ⟨address, rfl, here⟩, each⟩ := isIn
      cases other with
      | object others =>
          obtain ⟨_, again, more⟩ := again
          cases Value.Refers.unique ⟨address, rfl, here⟩ again
          rw [attributes_unique items each more]
      | _ => simp_all [IsIn, Value.Refers, World.Has]
  | sealed =>
      obtain ⟨address, rfl, here⟩ := isIn
      cases other <;> simp_all [IsIn, Value.Refers, World.Has]
  | explosive =>
      obtain ⟨address, rfl, here⟩ := isIn
      cases other <;> simp_all [IsIn, Value.Refers, World.Has]
  | _ =>
      cases isIn
      cases other <;> simp_all [IsIn, Value.Refers]
termination_by structural data

theorem are_in_unique (items : List Data) {others : List Data} {values : List Value}
    (each : areIn world items values) (again : areIn world others values) : items = others := by
  rcases items with _ | ⟨item, rest⟩ <;> rcases others with _ | ⟨other, more⟩ <;>
    rcases values with _ | ⟨value, values⟩ <;> try first | rfl | exact each.elim | exact again.elim
  rw [IsIn.unique item each.1 again.1, are_in_unique rest each.2 again.2]
termination_by structural items

theorem entries_unique (entries : List (Data × Data)) {others : List (Data × Data)}
    {values : List (Value × Value)}
    (each : entriesAreIn world entries values) (again : entriesAreIn world others values) : entries = others := by
  rcases entries with _ | ⟨⟨key, item⟩, rest⟩ <;> rcases others with _ | ⟨⟨name, other⟩, more⟩ <;>
    rcases values with _ | ⟨value, values⟩ <;> try first | rfl | exact each.elim | exact again.elim
  rw [IsIn.unique key each.1 again.1, IsIn.unique item each.2.1 again.2.1, entries_unique rest each.2.2 again.2.2]
termination_by structural entries

theorem attributes_unique (attributes : List (Text × Data)) {others : List (Text × Data)}
    {values : List (Text × Value)}
    (each : attributesAreIn world attributes values) (again : attributesAreIn world others values) :
    attributes = others := by
  rcases attributes with _ | ⟨⟨name, item⟩, rest⟩ <;> rcases others with _ | ⟨⟨second, other⟩, more⟩ <;>
    rcases values with _ | ⟨value, values⟩ <;> try first | rfl | exact each.elim | exact again.elim
  rw [each.1, again.1, IsIn.unique item each.2.1 again.2.1, attributes_unique rest each.2.2 again.2.2]
termination_by structural attributes

end

end Data

end Unique

namespace Run

variable {First Result Item : Type} {setting : Setting} {machine : Machine}

/-- A run finds something of the wrong type or with a wrong value, and has changed nothing. -/
def Rejects (run : Run Result) (setting : Setting) (machine : Machine) : Prop :=
  ∃ failure : Failure, (failure.cause = .wrongType ∨ failure.cause = .wrongValue) ∧
    run setting machine = .error failure machine

/-- A run that changes nothing comes to a result, or rejects where there is none. -/
def Comes (run : Run Result) (setting : Setting) (machine : Machine) (result : Option Result) : Prop :=
  result.elim (run.Rejects setting machine) fun value => run.Gives setting machine value machine

theorem comes_pure (result : Result) : (pure result : Run Result).Comes setting machine (some result) := rfl

theorem rejects_bind {run : Run First} (more : First → Run Result) (rejected : run.Rejects setting machine) :
    (run >>= more).Rejects setting machine := by
  obtain ⟨failure, known, failed⟩ := rejected
  refine ⟨failure, known, ?_⟩
  change EStateM.bind (run setting) (fun first => more first setting) machine = _
  unfold EStateM.bind
  rw [failed]

theorem bind_given {run : Run First} (more : First → Run Result) {first : First}
    (given : run.Gives setting machine first machine) :
    (run >>= more) setting machine = more first setting machine := by
  change EStateM.bind (run setting) (fun first => more first setting) machine = _
  unfold EStateM.bind
  rw [given]

theorem rejects_after {run : Run First} {more : First → Run Result} {first : First}
    (given : run.Gives setting machine first machine) (late : (more first).Rejects setting machine) :
    (run >>= more).Rejects setting machine := by
  obtain ⟨failure, known, failed⟩ := late
  exact ⟨failure, known, (bind_given more given).trans failed⟩

theorem comes_after {run : Run First} {more : First → Run Result} {first : First} {result : Option Result}
    (given : run.Gives setting machine first machine) (late : (more first).Comes setting machine result) :
    (run >>= more).Comes setting machine result := by
  cases result with
  | none => exact rejects_after given late
  | some last => exact (bind_given more given).trans late

theorem comes_bind {run : Run First} {more : First → Run Result} {first : Option First}
    {result : First → Option Result} (early : run.Comes setting machine first)
    (late : ∀ value, first = some value → (more value).Comes setting machine (result value)) :
    (run >>= more).Comes setting machine (first.bind result) := by
  cases first with
  | none => exact rejects_bind more early
  | some value => exact comes_after early (late value rfl)

/-- A run that changes nothing comes to some result or rejects. -/
def Settles (run : Run Result) (setting : Setting) (machine : Machine) : Prop :=
  ∃ result, run.Comes setting machine result

theorem settles_bind {run : Run First} {more : First → Run Result} (early : run.Settles setting machine)
    (late : ∀ value, (more value).Settles setting machine) : (run >>= more).Settles setting machine := by
  obtain ⟨first | first, comes⟩ := early
  · exact ⟨none, rejects_bind more comes⟩
  · obtain ⟨last, followed⟩ := late first
    exact ⟨last, comes_after comes followed⟩

theorem settles_after {run : Run First} {more : First → Run Result} {first : First}
    (given : run.Gives setting machine first machine) (late : (more first).Settles setting machine) :
    (run >>= more).Settles setting machine := by
  obtain ⟨last, followed⟩ := late
  exact ⟨last, comes_after given followed⟩

/-- What rejects in the end rejects, if all before it comes to some result or rejects. -/
theorem rejects_later {run : Run First} {more : First → Run Result} (early : run.Settles setting machine)
    (late : ∀ value, (more value).Rejects setting machine) : (run >>= more).Rejects setting machine := by
  obtain ⟨first | first, comes⟩ := early
  · exact rejects_bind more comes
  · exact rejects_after comes (late first)

theorem settles_mapM {action : Item → Run Result} {items : List Item}
    (each : ∀ item ∈ items, (action item).Settles setting machine) :
    (items.mapM action).Settles setting machine := by
  induction items with
  | nil => exact ⟨some [], comes_pure []⟩
  | cons first rest ih =>
      obtain ⟨here, others⟩ := List.forall_mem_cons.mp each
      rw [List.mapM_cons]
      exact settles_bind here fun _ => settles_bind (ih others) fun _ => ⟨_, comes_pure _⟩

/-- One item that rejects is enough. -/
theorem rejects_mapM {action : Item → Run Result} {items : List Item} {item : Item}
    (each : ∀ item ∈ items, (action item).Settles setting machine) (inside : item ∈ items)
    (rejected : (action item).Rejects setting machine) : (items.mapM action).Rejects setting machine := by
  induction items with
  | nil => exact absurd inside List.not_mem_nil
  | cons first rest ih =>
      obtain ⟨here, others⟩ := List.forall_mem_cons.mp each
      rw [List.mapM_cons]
      rcases List.mem_cons.mp inside with rfl | later
      · exact rejects_bind _ rejected
      · exact rejects_later here fun _ => rejects_bind _ (ih others later)

theorem gives_recovering {attempt : Run Result} {result : Result} (handles : Failure → Bool)
    (otherwise : Failure → Run Result) (given : attempt.Gives setting machine result machine) :
    (recovering attempt handles otherwise).Gives setting machine result machine := by
  change EStateM.tryCatch (attempt setting) _ machine = _
  unfold EStateM.tryCatch
  rw [given]

/-- A refusal that is handled leaves nothing behind. -/
theorem gives_otherwise {attempt : Run Result} {handles : Failure → Bool} {otherwise : Failure → Run Result}
    {result : Result} (rejected : attempt.Rejects setting machine)
    (handled : ∀ failure : Failure, failure.cause = .wrongType ∨ failure.cause = .wrongValue →
      handles failure = true)
    (goesOn : ∀ failure, (otherwise failure).Gives setting machine result machine) :
    (recovering attempt handles otherwise).Gives setting machine result machine := by
  obtain ⟨failure, known, failed⟩ := rejected
  have closed : (closeCapturesTo machine.captures.length).Gives setting machine () machine := by
    change EStateM.Result.ok () { machine with captures := machine.captures.drop _ } = _
    rw [Nat.sub_self, List.drop_zero]
  change EStateM.tryCatch (attempt setting) _ machine = _
  unfold EStateM.tryCatch
  rw [failed]
  dsimp only [EStateM.dummyRestore]
  rw [if_pos (handled failure known)]
  exact gives_bind closed (goesOn failure)

end Run

namespace Data

/-- The digits of a whole number, unless there are too many. -/
@[irreducible]
def digits? (number : Int) : Option Text := (Value.shownInt number).toOption

/-- The name of a member that an entry with a key becomes. -/
def memberName? : Data → Option Text
  | .none => some "null"
  | .bool flag => some (if flag then "true" else "false")
  | .int number => digits? number
  | .float number => some (Json.writeFloat number)
  | .text name => some name
  | .markup name => some name
  | _ => Option.none

mutual

/-- The document that shows data. -/
def document? : Data → Option Json
  | .none => some .null
  | .bool flag => some (.bool flag)
  | .int number => (digits? number).map fun _ => .int number
  | .float number => some (.float number)
  | .text content => some (.text content)
  | .markup content => some (.text content)
  | .list items => (itemDocuments? items).map .array
  | .tuple items => (itemDocuments? items).map .array
  | .dict entries => (memberDocuments? entries).map .object
  | _ => Option.none

/-- The documents that show items. -/
def itemDocuments? : List Data → Option (List Json)
  | [] => some []
  | item :: items => (document? item).bind fun first => (itemDocuments? items).map fun others => first :: others

/-- The members that show entries. -/
def memberDocuments? : List (Data × Data) → Option (List (Text × Json))
  | [] => some []
  | (key, value) :: entries =>
    ((memberName? key).bind fun name => (document? value).map fun shown => (name, shown)).bind fun member =>
      (memberDocuments? entries).map fun others => member :: others

end

mutual

/-- How deep the parts of data lie that a document shows. -/
def nesting : Data → Nat
  | .list items => nestingOf items + 1
  | .tuple items => nestingOf items + 1
  | .dict entries => nestingIn entries + 1
  | _ => 0

/-- The deepest nesting of items. -/
def nestingOf : List Data → Nat
  | [] => 0
  | item :: items => max (nesting item) (nestingOf items)

/-- The deepest nesting of the values of entries. -/
def nestingIn : List (Data × Data) → Nat
  | [] => 0
  | (_, value) :: entries => max (nesting value) (nestingIn entries)

end

/-- Data that JSON has in the same form: nothing, truth values, whole numbers that are not too long, whole texts,
and lists and dictionaries of these with different whole texts for keys. -/
inductive IsPlain : Data → Prop where
  | none : IsPlain .none
  | bool (flag : Bool) : IsPlain (.bool flag)
  | int {number : Int} (few : number.natAbs < Nat.pow 10 Json.digitLimit) : IsPlain (.int number)
  | text {content : Text} (whole : content.IsWhole) : IsPlain (.text content)
  | list {items : List Data} (each : ∀ item ∈ items, IsPlain item) : IsPlain (.list items)
  | dict {entries : List (Data × Data)}
      (named : ∀ entry ∈ entries, ∃ name : Text, name.IsWhole ∧ entry.1 = .text name)
      (distinct : (entries.map Prod.fst).Nodup) (each : ∀ entry ∈ entries, IsPlain entry.2) :
      IsPlain (.dict entries)

/-- A document that can be read back shows data and nothing else. -/
structure ShownBy (data : Data) (document : Json) : Prop where
  found : data.document? = some document
  plain : document.IsPlain
  back : ofJson document = data
  level : Json.nesting document = data.nesting

theorem few_digits {number : Int} (few : number.natAbs < Nat.pow 10 Json.digitLimit) :
    digits? number = some (Text.ofInt number) := by
  unfold digits? Value.shownInt
  unfold Json.digitLimit at few
  -- the power is a numeral that nothing should evaluate
  revert few
  generalize 4300 = digits
  intro few
  exact congrArg Except.toOption (if_pos few)

theorem items_shown {items : List Data} (each : ∀ item ∈ items, ∃ document, item.ShownBy document) :
    ∃ documents, itemDocuments? items = some documents ∧ (∀ document ∈ documents, document.IsPlain) ∧
      ofItems documents = items ∧ Json.nestingOf documents = nestingOf items := by
  induction items with
  | nil => exact ⟨[], rfl, fun _ inside => absurd inside List.not_mem_nil, rfl, rfl⟩
  | cons item rest ih =>
      obtain ⟨⟨document, shown⟩, others⟩ := List.forall_mem_cons.mp each
      obtain ⟨documents, found, plain, back, level⟩ := ih others
      refine ⟨document :: documents, ?_, List.forall_mem_cons.mpr ⟨shown.plain, plain⟩, ?_, ?_⟩
      · rw [itemDocuments?, shown.found, found]
        rfl
      · rw [ofItems, shown.back, back]
      · rw [Json.nestingOf, nestingOf, shown.level, level]

theorem entries_shown {entries : List (Data × Data)}
    (named : ∀ entry ∈ entries, ∃ name : Text, name.IsWhole ∧ entry.1 = .text name)
    (each : ∀ entry ∈ entries, ∃ document, entry.2.ShownBy document) :
    ∃ members, memberDocuments? entries = some members ∧ (∀ member ∈ members, member.1.IsWhole) ∧
      (∀ member ∈ members, member.2.IsPlain) ∧ ofMembers members = entries ∧
      Json.nestingIn members = nestingIn entries := by
  induction entries with
  | nil =>
      exact ⟨[], rfl, fun _ inside => absurd inside List.not_mem_nil,
        fun _ inside => absurd inside List.not_mem_nil, rfl, rfl⟩
  | cons entry rest ih =>
      obtain ⟨⟨name, whole, same⟩, names⟩ := List.forall_mem_cons.mp named
      obtain ⟨⟨document, shown⟩, others⟩ := List.forall_mem_cons.mp each
      obtain ⟨members, found, wholes, plain, back, level⟩ := ih names others
      obtain ⟨key, value⟩ := entry
      cases same
      refine ⟨(name, document) :: members, ?_, List.forall_mem_cons.mpr ⟨whole, wholes⟩,
        List.forall_mem_cons.mpr ⟨shown.plain, plain⟩, ?_, ?_⟩
      · rw [memberDocuments?, shown.found, found]
        rfl
      · rw [ofMembers, shown.back, back]
      · rw [Json.nestingIn, nestingIn, shown.level, level]

theorem keys_of_members (members : List (Text × Json)) :
    (ofMembers members).map Prod.fst = (members.map Prod.fst).map Data.text := by
  induction members with
  | nil => rfl
  | cons member rest ih =>
      rw [ofMembers, List.map_cons, ih]
      rfl

theorem IsPlain.shown {data : Data} (plain : data.IsPlain) : ∃ document, data.ShownBy document := by
  induction plain with
  | none => exact ⟨.null, rfl, .null, rfl, rfl⟩
  | bool flag => exact ⟨.bool flag, rfl, .bool flag, rfl, rfl⟩
  | int few =>
      refine ⟨.int _, ?_, .int few, rfl, rfl⟩
      rw [document?, few_digits few]
      rfl
  | text whole => exact ⟨.text _, rfl, .text whole, rfl, rfl⟩
  | list each ih =>
      obtain ⟨documents, found, plain, back, level⟩ := items_shown ih
      refine ⟨.array documents, ?_, .array plain, ?_, ?_⟩
      · rw [document?, found]
        rfl
      · rw [ofJson, back]
      · rw [Json.nesting, nesting, level]
  | @dict entries named distinct each ih =>
      obtain ⟨members, found, wholes, plain, back, level⟩ := entries_shown named ih
      have names : (members.map Prod.fst).Nodup := by
        rw [← back, keys_of_members] at distinct
        exact distinct.of_map _
      refine ⟨.object members, ?_, .object wholes names plain, ?_, ?_⟩
      · rw [document?, found]
        rfl
      · rw [ofJson, back]
      · rw [Json.nesting, nesting, level]

/-- Each of some addresses holds data that lies deeper than a level. -/
def Beyond (world : World) (enclosing : List Ref) (level : Nat) : Prop :=
  ∀ address ∈ enclosing, ∃ outer : Data, outer.IsIn world (.ref address) ∧ level < outer.nesting

section Beyond

variable {world : World} {enclosing : List Ref} {level : Nat}

theorem Beyond.mono {lower : Nat} (beyond : Beyond world enclosing level) (below : lower ≤ level) :
    Beyond world enclosing lower := by
  intro address inside
  obtain ⟨outer, isIn, deeper⟩ := beyond address inside
  exact ⟨outer, isIn, Nat.lt_of_le_of_lt below deeper⟩

/-- Data does not stand in itself. -/
theorem Beyond.new {data : Data} {address : Ref} (beyond : Beyond world enclosing data.nesting)
    (isIn : data.IsIn world (.ref address)) : enclosing.contains address = false := by
  refine Bool.eq_false_iff.mpr fun inside => ?_
  rw [List.contains_iff_mem] at inside
  obtain ⟨outer, same, deeper⟩ := beyond address inside
  rw [IsIn.unique outer same isIn] at deeper
  exact Nat.lt_irrefl _ deeper

theorem Beyond.push {data : Data} {address : Ref} (beyond : Beyond world enclosing data.nesting)
    (isIn : data.IsIn world (.ref address)) (below : level < data.nesting) :
    Beyond world (address :: enclosing) level := by
  intro other inside
  rcases List.mem_cons.mp inside with rfl | outside
  · exact ⟨data, isIn, below⟩
  · exact beyond.mono (Nat.le_of_lt below) other outside

end Beyond

end Data

namespace Value

/-- Whether a value can be the key of an entry that a document shows. -/
def isName : Value → Bool
  | .none => true
  | .bool _ => true
  | .int _ => true
  | .float _ => true
  | .text _ => true
  | .markup _ => true
  | _ => false

/-- Whether a document can show a value, as far as its own kind goes. -/
def hasForm (world : World) : Value → Bool
  | .tuple _ => true
  | .group _ _ => true
  | .ref address =>
    match world.cell? address with
    | some (.list _) => true
    | some (.dict _) => true
    | _ => false
  | value => value.isName

/-- The values that stand in a value where a document shows them. -/
def parts (world : World) : Value → List Value
  | .tuple items => items
  | .group key members => [key, members]
  | .ref address =>
    match world.cell? address with
    | some (.list items) => items.toList
    | some (.dict entries) => entries.toList.map Prod.snd
    | _ => []
  | _ => []

/-- The keys of the entries of a value. -/
def keys (world : World) : Value → List Value
  | .ref address =>
    match world.cell? address with
    | some (.dict entries) => entries.toList.map Prod.fst
    | _ => []
  | _ => []

/-- Something in a value is of a kind that JSON does not have, or a key in it is no name. -/
inductive HasForeign (world : World) : Value → Prop where
  | self {value : Value} (formless : value.hasForm world = false) : HasForeign world value
  | key {value key : Value} (inside : key ∈ value.keys world) (strange : key.isName = false) :
      HasForeign world value
  | part {value part : Value} (inside : part ∈ value.parts world) (foreign : HasForeign world part) :
      HasForeign world value

/-- The parts of a value lie in one another at fewer levels than a depth. -/
def Within (world : World) : Nat → Value → Prop
  | 0, _ => False
  | depth + 1, value => ∀ part ∈ value.parts world, Within world depth part

end Value

namespace AsJson

open Run

variable {setting : Setting} {machine : Machine}

theorem comes_undocumented (value : Value) : (withoutDocument value).Comes setting machine none :=
  ⟨_, .inl rfl, rfl⟩

theorem comes_digits (number : Int) :
    (settled (Value.shownInt number)).Comes setting machine (Data.digits? number) := by
  unfold Data.digits? Value.shownInt
  generalize Nat.pow 10 4300 = bound
  split
  · exact comes_pure _
  · exact ⟨_, .inr rfl, rfl⟩

theorem rejects_strange_name {key : Value} (strange : key.isName = false) :
    (memberName key).Rejects setting machine := by
  cases key with
  | none => cases strange
  | bool flag => cases strange
  | int number => cases strange
  | float number => cases strange
  | text name => cases strange
  | markup name => cases strange
  | _ => exact ⟨_, .inl rfl, rfl⟩

theorem settles_member_name (key : Value) : (memberName key).Settles setting machine := by
  cases known : key.isName with
  | false => exact ⟨none, rejects_strange_name known⟩
  | true =>
      cases key with
      | none => exact ⟨_, comes_pure _⟩
      | bool flag => exact ⟨_, comes_pure _⟩
      | int number => exact ⟨_, comes_digits number⟩
      | float number => exact ⟨_, comes_pure _⟩
      | text name => exact ⟨_, comes_pure _⟩
      | markup name => exact ⟨_, comes_pure _⟩
      | _ => cases known

theorem comes_member_name {key : Data} {value : Value} (isIn : key.IsIn machine.world value) :
    (memberName value).Comes setting machine key.memberName? := by
  cases key with
  | none => cases isIn; exact comes_pure _
  | bool flag => cases isIn; exact comes_pure _
  | int number => cases isIn; exact comes_digits number
  | float number => cases isIn; exact comes_pure _
  | text name => cases isIn; exact comes_pure _
  | markup name => cases isIn; exact comes_pure _
  | bytes content => cases isIn; exact rejects_strange_name rfl
  | date day => cases isIn; exact rejects_strange_name rfl
  | datetime time => cases isIn; exact rejects_strange_name rfl
  | tuple items => obtain ⟨values, rfl, -⟩ := isIn; exact rejects_strange_name rfl
  | list items => obtain ⟨values, ⟨address, rfl, -⟩, -⟩ := isIn; exact rejects_strange_name rfl
  | set items => obtain ⟨values, ⟨address, rfl, -⟩, -⟩ := isIn; exact rejects_strange_name rfl
  | dict entries => obtain ⟨values, ⟨address, rfl, -⟩, -⟩ := isIn; exact rejects_strange_name rfl
  | mapping entries => obtain ⟨values, ⟨address, rfl, -⟩, -⟩ := isIn; exact rejects_strange_name rfl
  | object attributes => obtain ⟨values, ⟨address, rfl, -⟩, -⟩ := isIn; exact rejects_strange_name rfl
  | sealed => obtain ⟨address, rfl, -⟩ := isIn; exact rejects_strange_name rfl
  | explosive => obtain ⟨address, rfl, -⟩ := isIn; exact rejects_strange_name rfl

/-- What is neither a list nor a dictionary has no document. -/
theorem comes_elsewhere {depth : Nat} {enclosing : List Ref} {address : Ref} {cell : Cell}
    (here : machine.world.Has address cell)
    (noList : ∀ values, cell ≠ .list values) (noDict : ∀ values, cell ≠ .dict values) :
    (documentWith false (depth + 1) enclosing (.ref address)).Comes setting machine none := by
  refine comes_after (gives_cell address) ?_
  rw [here.2]
  cases cell with
  | list values => exact absurd rfl (noList values)
  | dict values => exact absurd rfl (noDict values)
  | _ => exact comes_undocumented _

mutual

/-- The run that looks for the document of data comes to it, from any place that the data can stand in. -/
theorem comes_document (data : Data) {depth : Nat} {enclosing : List Ref} {value : Value}
    (isIn : data.IsIn machine.world value)
    (shallow : data.nesting < depth) (beyond : Data.Beyond machine.world enclosing data.nesting) :
    (documentWith false depth enclosing value).Comes setting machine data.document? := by
  obtain ⟨room, rfl⟩ : ∃ room, depth = room + 1 := ⟨depth - 1, by omega⟩
  cases data with
  | none => cases isIn; exact comes_pure _
  | bool flag => cases isIn; exact comes_pure _
  | int number =>
      cases isIn
      rw [Data.document?, Option.map_eq_bind]
      exact comes_bind (comes_digits number) fun _ _ => comes_pure _
  | float number => cases isIn; exact comes_pure _
  | text content => cases isIn; exact comes_pure _
  | markup content => cases isIn; exact comes_pure _
  | tuple items =>
      obtain ⟨values, rfl, each⟩ := isIn
      rw [Data.nesting] at shallow beyond
      rw [Data.document?, Option.map_eq_bind]
      exact comes_bind (comes_item_documents items each (by omega) (beyond.mono (by omega)))
        fun _ _ => comes_pure _
  | list items =>
      obtain ⟨values, ⟨address, rfl, here⟩, each⟩ := id isIn
      have new := beyond.new isIn
      have inner := beyond.push isIn (Nat.lt_succ_self (Data.nestingOf items))
      rw [Data.nesting] at shallow
      rw [Data.document?, Option.map_eq_bind]
      refine comes_after (gives_cell address) ?_
      rw [here.2]
      refine comes_after (?_ : (requireNew enclosing address).Gives setting machine () machine) ?_
      · unfold requireNew
        rw [if_neg (by rw [new]; decide)]
        rfl
      · exact comes_bind (comes_item_documents items each (by omega) inner) fun _ _ => comes_pure _
  | dict entries =>
      obtain ⟨values, ⟨address, rfl, here⟩, each⟩ := id isIn
      have new := beyond.new isIn
      have inner := beyond.push isIn (Nat.lt_succ_self (Data.nestingIn entries))
      rw [Data.nesting] at shallow
      rw [Data.document?, Option.map_eq_bind]
      refine comes_after (gives_cell address) ?_
      rw [here.2]
      refine comes_after (?_ : (requireNew enclosing address).Gives setting machine () machine) ?_
      · unfold requireNew
        rw [if_neg (by rw [new]; decide)]
        rfl
      · refine comes_after (gives_pure _) ?_
        exact comes_bind (comes_member_documents entries each (by omega) inner) fun _ _ => comes_pure _
  | set items =>
      obtain ⟨values, ⟨address, rfl, here⟩, -⟩ := isIn
      exact comes_elsewhere here nofun nofun
  | mapping entries =>
      obtain ⟨values, ⟨address, rfl, here⟩, -⟩ := isIn
      exact comes_elsewhere here nofun nofun
  | object attributes =>
      obtain ⟨values, ⟨address, rfl, here⟩, -⟩ := isIn
      exact comes_elsewhere here nofun nofun
  | sealed =>
      obtain ⟨address, rfl, here⟩ := isIn
      exact comes_elsewhere here nofun nofun
  | explosive =>
      obtain ⟨address, rfl, here⟩ := isIn
      exact comes_elsewhere here nofun nofun
  | bytes content => cases isIn; exact comes_undocumented _
  | date day => cases isIn; exact comes_undocumented _
  | datetime time => cases isIn; exact comes_undocumented _
termination_by structural data

theorem comes_item_documents (items : List Data) {depth : Nat} {enclosing : List Ref} {values : List Value}
    (each : Data.areIn machine.world items values) (shallow : Data.nestingOf items < depth)
    (beyond : Data.Beyond machine.world enclosing (Data.nestingOf items)) :
    (values.mapM (documentWith false depth enclosing)).Comes setting machine (Data.itemDocuments? items) := by
  rcases items with _ | ⟨item, rest⟩ <;> rcases values with _ | ⟨value, values⟩
  · exact comes_pure _
  · exact each.elim
  · exact each.elim
  · rw [Data.nestingOf] at shallow beyond
    rw [List.mapM_cons, Data.itemDocuments?]
    refine comes_bind (comes_document item each.1 (by omega) (beyond.mono (by omega))) fun _ _ => ?_
    rw [Option.map_eq_bind]
    exact comes_bind (comes_item_documents rest each.2 (by omega) (beyond.mono (by omega)))
      fun _ _ => comes_pure _
termination_by structural items

theorem comes_member_documents (entries : List (Data × Data)) {depth : Nat} {enclosing : List Ref}
    {values : List (Value × Value)}
    (each : Data.entriesAreIn machine.world entries values) (shallow : Data.nestingIn entries < depth)
    (beyond : Data.Beyond machine.world enclosing (Data.nestingIn entries)) :
    (values.mapM fun (entry : Value × Value) => do
      return (← memberName entry.1, ← documentWith false depth enclosing entry.2)).Comes setting machine
      (Data.memberDocuments? entries) := by
  rcases entries with _ | ⟨⟨key, item⟩, rest⟩ <;> rcases values with _ | ⟨⟨name, value⟩, values⟩
  · exact comes_pure _
  · exact each.elim
  · exact each.elim
  · rw [Data.nestingIn] at shallow beyond
    rw [List.mapM_cons, Data.memberDocuments?]
    refine comes_bind (comes_bind (comes_member_name each.1) fun _ _ => ?_) fun _ _ => ?_
    · rw [Option.map_eq_bind]
      exact comes_bind (comes_document item each.2.1 (by omega) (beyond.mono (by omega))) fun _ _ => comes_pure _
    · rw [Option.map_eq_bind]
      exact comes_bind (comes_member_documents rest each.2.2 (by omega) (beyond.mono (by omega)))
        fun _ _ => comes_pure _
termination_by structural entries

end

/-- The parts of a container are reached unless the container stands in itself. -/
theorem settles_new (enclosing : List Ref) (address : Ref) :
    (requireNew enclosing address).Settles setting machine := by
  unfold requireNew
  split
  · exact ⟨none, _, .inr rfl, rfl⟩
  · exact ⟨_, comes_pure ()⟩

theorem settles_member {depth : Nat} {enclosing : List Ref} {entry : Value × Value}
    (settles : (documentWith false depth enclosing entry.2).Settles setting machine) :
    (do return (← memberName entry.1, ← documentWith false depth enclosing entry.2) : Run (Text × Json)).Settles
      setting machine :=
  settles_bind (settles_member_name entry.1) fun _ => settles_bind settles fun _ => ⟨_, comes_pure _⟩

/-- What settles for each part settles for the whole. -/
theorem settles_step {depth : Nat} {value : Value} (enclosing : List Ref)
    (each : ∀ part ∈ value.parts machine.world, ∀ enclosing,
      (documentWith false depth enclosing part).Settles setting machine) :
    (documentWith false (depth + 1) enclosing value).Settles setting machine := by
  cases value with
  | none => exact ⟨_, comes_pure _⟩
  | bool flag => exact ⟨_, comes_pure _⟩
  | int number => exact settles_bind ⟨_, comes_digits number⟩ fun _ => ⟨_, comes_pure _⟩
  | float number => exact ⟨_, comes_pure _⟩
  | text content => exact ⟨_, comes_pure _⟩
  | markup content => exact ⟨_, comes_pure _⟩
  | tuple items =>
      exact settles_bind (settles_mapM fun item inside => each item inside enclosing) fun _ => ⟨_, comes_pure _⟩
  | group key members =>
      exact settles_bind (settles_mapM fun item inside => each item inside enclosing) fun _ => ⟨_, comes_pure _⟩
  | ref address =>
      refine settles_after (gives_cell address) ?_
      rcases found : machine.world.cell? address with _ | cell
      · exact ⟨none, comes_undocumented _⟩
      · cases cell with
        | list items =>
            simp only [Value.parts, found] at each
            refine settles_bind (settles_new enclosing address) fun _ => ?_
            exact settles_bind (settles_mapM fun item inside => each item inside _) fun _ => ⟨_, comes_pure _⟩
        | dict entries =>
            simp only [Value.parts, found] at each
            refine settles_bind (settles_new enclosing address) fun _ => settles_after (gives_pure _) ?_
            refine settles_bind (settles_mapM fun entry inside => settles_member ?_) fun _ => ⟨_, comes_pure _⟩
            exact each entry.2 (List.mem_map_of_mem inside) _
        | _ => exact ⟨none, comes_undocumented _⟩
  | _ => exact ⟨none, comes_undocumented _⟩

theorem settles_document {depth : Nat} {value : Value} (enclosing : List Ref)
    (within : value.Within machine.world depth) :
    (documentWith false depth enclosing value).Settles setting machine := by
  induction depth generalizing value enclosing with
  | zero => exact within.elim
  | succ depth ih => exact settles_step enclosing fun part inside enclosing => ih enclosing (within part inside)

theorem rejects_step {depth : Nat} {value : Value} (enclosing : List Ref)
    (each : ∀ part ∈ value.parts machine.world, ∀ enclosing,
      (documentWith false depth enclosing part).Settles setting machine)
    (foreign : value.hasForm machine.world = false ∨ (∃ key ∈ value.keys machine.world, key.isName = false) ∨
      ∃ part ∈ value.parts machine.world, ∀ enclosing,
        (documentWith false depth enclosing part).Rejects setting machine) :
    (documentWith false (depth + 1) enclosing value).Rejects setting machine := by
  cases value with
  | tuple items =>
      obtain formless | ⟨key, inside, -⟩ | ⟨part, inside, rejects⟩ := foreign
      · cases formless
      · cases inside
      · refine rejects_bind _ (rejects_mapM (fun item inside => each item inside enclosing) inside ?_)
        exact rejects enclosing
  | group key members =>
      obtain formless | ⟨key, inside, -⟩ | ⟨part, inside, rejects⟩ := foreign
      · cases formless
      · cases inside
      · refine rejects_bind _ (rejects_mapM (fun item inside => each item inside enclosing) inside ?_)
        exact rejects enclosing
  | ref address =>
      refine rejects_after (gives_cell address) ?_
      rcases found : machine.world.cell? address with _ | cell
      · exact comes_undocumented _
      · cases cell with
        | list items =>
            simp only [Value.parts, Value.keys, Value.hasForm, found] at each foreign
            obtain formless | ⟨key, inside, -⟩ | ⟨part, inside, rejects⟩ := foreign
            · cases formless
            · cases inside
            · refine rejects_later (settles_new enclosing address) fun _ => rejects_bind _ ?_
              exact rejects_mapM (fun item inside => each item inside _) inside (rejects _)
        | dict entries =>
            simp only [Value.parts, Value.keys, Value.hasForm, found] at each foreign
            refine rejects_later (settles_new enclosing address) fun _ =>
              rejects_after (gives_pure _) (rejects_bind _ ?_)
            have members : ∀ entry ∈ entries.toList, ∀ enclosing, (do
                return (← memberName entry.1, ← documentWith false depth enclosing entry.2) :
                Run (Text × Json)).Settles setting machine := fun entry inside others =>
              settles_member (each entry.2 (List.mem_map_of_mem inside) others)
            obtain formless | ⟨key, inside, strange⟩ | ⟨part, inside, rejects⟩ := foreign
            · cases formless
            · obtain ⟨entry, among, rfl⟩ := List.mem_map.mp inside
              refine rejects_mapM (fun entry inside => members entry inside _) among ?_
              exact rejects_bind _ (rejects_strange_name strange)
            · obtain ⟨entry, among, rfl⟩ := List.mem_map.mp inside
              refine rejects_mapM (fun entry inside => members entry inside _) among ?_
              exact rejects_later (settles_member_name entry.1) fun _ => rejects_bind _ (rejects _)
        | _ => exact comes_undocumented _
  | none => exact absurd foreign (by simp [Value.hasForm, Value.isName, Value.keys, Value.parts])
  | bool flag => exact absurd foreign (by simp [Value.hasForm, Value.isName, Value.keys, Value.parts])
  | int number => exact absurd foreign (by simp [Value.hasForm, Value.isName, Value.keys, Value.parts])
  | float number => exact absurd foreign (by simp [Value.hasForm, Value.isName, Value.keys, Value.parts])
  | text content => exact absurd foreign (by simp [Value.hasForm, Value.isName, Value.keys, Value.parts])
  | markup content => exact absurd foreign (by simp [Value.hasForm, Value.isName, Value.keys, Value.parts])
  | _ => exact comes_undocumented _

/-- A value with something foreign in it is rejected. -/
theorem rejects_foreign {depth : Nat} {value : Value} (enclosing : List Ref)
    (within : value.Within machine.world depth) (foreign : value.HasForeign machine.world) :
    (documentWith false depth enclosing value).Rejects setting machine := by
  induction depth generalizing value enclosing with
  | zero => exact within.elim
  | succ depth ih =>
      refine rejects_step enclosing (fun part inside others => settles_document others (within part inside)) ?_
      cases foreign with
      | self formless => exact .inl formless
      | key inside strange => exact .inr (.inl ⟨_, inside, strange⟩)
      | part inside foreign =>
          exact .inr (.inr ⟨_, inside, fun others => ih others (within _ inside) foreign⟩)

/-- With the parts of a value few levels deep, its text is that of its document. -/
theorem comes_safe_text {value : Value} {document : Option Json}
    (comes : (documentWith false Value.depthLimit [] value).Comes setting machine document) :
    (safeText false value .none).Comes setting machine (document.map Json.shown) := by
  have onLine : (do return (Json.writeAt .line 0 (← AsJson.document false value)).flatMap safePoint : Run Text).Comes
      setting machine (document.bind fun found => some (Json.shown found)) :=
    comes_bind comes fun _ _ => comes_pure _
  rw [Option.map_eq_bind]
  unfold safeText
  split
  · exact comes_after (gives_pure _) onLine
  · exact comes_after (gives_pure _) onLine

end AsJson

namespace FunctionTable

open Run

variable {setting : Setting} {machine : Machine} {value : Value}

/-- The JSON form of a value is that of its document, and that of nothing where it has none. -/
theorem gives_json_markup {document : Option Json}
    (comes : (AsJson.documentWith false Value.depthLimit [] value).Comes setting machine document) :
    (jsonMarkup value).Gives setting machine (.markup ((document.map Json.shown).getD "null")) machine := by
  have shown := AsJson.comes_safe_text comes
  generalize document.map Json.shown = text at shown
  cases text with
  | some text => exact gives_recovering _ _ (gives_bind shown (gives_pure _))
  | none =>
      exact gives_otherwise (rejects_bind _ shown) (fun failure known => by simpa using known)
        fun _ => gives_pure _

/-- Data has the JSON form of its document, or that of nothing. -/
theorem json_markup_of_data {data : Data} (isIn : data.IsIn machine.world value)
    (shallow : data.nesting < Value.depthLimit) :
    (jsonMarkup value).Gives setting machine (.markup ((data.document?.map Json.shown).getD "null")) machine :=
  gives_json_markup (AsJson.comes_document data isIn shallow fun _ inside => absurd inside List.not_mem_nil)

/-- The standard function for JSON. It gives plain data as markup without a character that markup gives a meaning
to, from which the same data is read back with its entries in order; and nothing for every value with something
foreign in it. -/
theorem json_lossless (setting : Setting) (machine : Machine) :
    ∃ json, standard.get? "json" = some json ∧
      (∀ (data : Data) (value : Value), data.IsPlain → data.IsIn machine.world value →
        data.nesting < Value.depthLimit →
        ∃ text, (json.apply (.ofList [value])).Gives setting machine (.markup text) machine ∧
          (∀ point ∈ text, point ∉ Json.markupPoints) ∧ (Json.read text).map Data.ofJson = .ok data) ∧
      ∀ value : Value, value.HasForeign machine.world → value.Within machine.world Value.depthLimit →
        (json.apply (.ofList [value])).Gives setting machine (.markup "null") machine := by
  refine ⟨_, rfl, fun data value plain isIn shallow => ?_, fun value foreign within => ?_⟩
  · obtain ⟨document, shown⟩ := plain.shown
    have given : (jsonMarkup value).Gives setting machine _ machine := json_markup_of_data isIn shallow
    rw [shown.found] at given
    refine ⟨Json.shown document, given, Json.embedded_apart _, ?_⟩
    have fits : Json.nesting document ≤ Json.nestingLimit := by
      rw [shown.level]
      exact Nat.le_of_lt (Nat.lt_trans shallow (by decide))
    rw [Json.read_shown shown.plain fits, Except.map, shown.back]
  · have rejected : (AsJson.documentWith false Value.depthLimit [] value).Comes setting machine none :=
      AsJson.rejects_foreign [] within foreign
    exact gives_json_markup rejected

theorem json_lossless_of_markup :
    let data := Data.dict [(.text "a<b", .list [.int 7, .text "it's & so"])]
    let value := (Payload.taken data World.empty).1
    let machine : Machine := ⟨(Payload.taken data World.empty).2, [], [], 0⟩
    let setting : Setting := ⟨.none, ⟨true, .open, [], [], [], fun _ => false⟩, []⟩
    ∃ json, standard.get? "json" = some json ∧
      (∃ text, (json.apply (.ofList [value])).Gives setting machine (.markup text) machine ∧
        (∀ point ∈ text, point ∉ Json.markupPoints) ∧ (Json.read text).map Data.ofJson = .ok data) ∧
      (json.apply (.ofList [.tuple [.int 7, .bytes []]])).Gives setting machine (.markup "null") machine := by
  intro data value machine setting
  obtain ⟨-, -, -, isIn⟩ := Run.taken_gives data World.empty
  have plain : data.IsPlain := by
    refine .dict ?_ (List.nodup_singleton _) ?_
    · exact List.forall_mem_singleton.mpr ⟨_, by decide, rfl⟩
    · refine List.forall_mem_singleton.mpr (.list (List.forall_mem_cons.mpr ⟨.int ?_, ?_⟩))
      · exact Nat.lt_of_lt_of_le (by decide : 7 < Nat.pow 10 1) (Nat.pow_le_pow_right (by decide) (by decide))
      · exact List.forall_mem_singleton.mpr (.text (by decide))
  have foreign : (Value.tuple [.int 7, .bytes []]).HasForeign machine.world :=
    .part (List.mem_cons_of_mem _ List.mem_cons_self) (.self rfl)
  have within : (Value.tuple [.int 7, .bytes []]).Within machine.world Value.depthLimit := by
    refine List.forall_mem_cons.mpr ⟨fun _ inside => absurd inside List.not_mem_nil, ?_⟩
    exact List.forall_mem_singleton.mpr fun _ inside => absurd inside List.not_mem_nil
  obtain ⟨json, known, lossless, rejected⟩ := json_lossless setting machine
  exact ⟨json, known, lossless data value plain isIn (by decide), rejected _ foreign within⟩

end FunctionTable

end PageTemplates
