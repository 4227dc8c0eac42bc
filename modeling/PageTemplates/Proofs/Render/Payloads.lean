import PageTemplates.Proofs.Render.Writes
import PageTemplates.Proofs.Results
import PageTemplates.Session
/-!
Payloads in worlds. Data can always be put into a world, and nothing that was there changes. What a payload
gives to a template, by name, are its entries in order; a text in it is that text.
-/

namespace PageTemplates

/-- A world still has all of another one that stays as it is. -/
def World.Retains (world later : World) : Prop :=
  ∀ address cell, cell.isStill = true → world.Has address cell → later.Has address cell

/-- Whether a value refers to a thing of a world. -/
def Value.Refers (world : World) (value : Value) (cell : Cell) : Prop :=
  ∃ address, value = .ref address ∧ world.Has address cell

namespace Data

mutual

/-- Whether a value is data in a world, at every depth. -/
def IsIn (world : World) : Data → Value → Prop
  | .none, value => value = .none
  | .bool held, value => value = .bool held
  | .int held, value => value = .int held
  | .float held, value => value = .float held
  | .text held, value => value = .text held
  | .markup held, value => value = .markup held
  | .bytes held, value => value = .bytes held
  | .list items, value => ∃ values, value.Refers world (.list values) ∧ areIn world items values.toList
  | .tuple items, value => ∃ values, value = .tuple values ∧ areIn world items values
  | .set items, value => ∃ values, value.Refers world (.set values) ∧ areIn world items values
  | .dict entries, value =>
    ∃ values, value.Refers world (.dict values) ∧ entriesAreIn world entries values.toList
  | .mapping entries, value =>
    ∃ values, value.Refers world (.mapping values) ∧ entriesAreIn world entries values
  | .object attributes, value =>
    ∃ values, value.Refers world (.object values) ∧ attributesAreIn world attributes values
  | .date held, value => value = .date held
  | .datetime held, value => value = .datetime held
  | .sealed, value => value.Refers world .sealed
  | .explosive, value => value.Refers world .explosive

/-- Whether values are items in a world. -/
def areIn (world : World) : List Data → List Value → Prop
  | [], [] => True
  | item :: items, value :: values => IsIn world item value ∧ areIn world items values
  | _, _ => False

/-- Whether values are entries in a world. -/
def entriesAreIn (world : World) : List (Data × Data) → List (Value × Value) → Prop
  | [], [] => True
  | (key, item) :: entries, (name, value) :: values =>
    IsIn world key name ∧ IsIn world item value ∧ entriesAreIn world entries values
  | _, _ => False

/-- Whether values are attributes in a world. -/
def attributesAreIn (world : World) : List (Text × Data) → List (Text × Value) → Prop
  | [], [] => True
  | (name, item) :: attributes, (other, value) :: values =>
    name = other ∧ IsIn world item value ∧ attributesAreIn world attributes values
  | _, _ => False

end

section Stays

variable {world later : World}

theorem refers_stays (retains : world.Retains later) {value : Value} {cell : Cell}
    (still : cell.isStill = true) (refers : value.Refers world cell) : value.Refers later cell := by
  obtain ⟨address, rfl, here⟩ := refers
  exact ⟨address, rfl, retains address cell still here⟩

mutual

/-- A value is the same data as long as what data is made of stays. -/
theorem IsIn.stays (retains : world.Retains later) (data : Data) {value : Value}
    (isIn : data.IsIn world value) : data.IsIn later value := by
  cases data with
  | list items =>
      obtain ⟨values, refers, each⟩ := isIn
      exact ⟨values, refers_stays retains rfl refers, are_in_stays retains items each⟩
  | tuple items =>
      obtain ⟨values, same, each⟩ := isIn
      exact ⟨values, same, are_in_stays retains items each⟩
  | set items =>
      obtain ⟨values, refers, each⟩ := isIn
      exact ⟨values, refers_stays retains rfl refers, are_in_stays retains items each⟩
  | dict entries =>
      obtain ⟨values, refers, each⟩ := isIn
      exact ⟨values, refers_stays retains rfl refers, entries_stay retains entries each⟩
  | mapping entries =>
      obtain ⟨values, refers, each⟩ := isIn
      exact ⟨values, refers_stays retains rfl refers, entries_stay retains entries each⟩
  | object attributes =>
      obtain ⟨values, refers, each⟩ := isIn
      exact ⟨values, refers_stays retains rfl refers, attributes_stay retains attributes each⟩
  | sealed => exact refers_stays retains rfl isIn
  | explosive => exact refers_stays retains rfl isIn
  | _ => exact isIn

theorem are_in_stays (retains : world.Retains later) (items : List Data) {values : List Value}
    (each : areIn world items values) : areIn later items values := by
  rcases items with _ | ⟨item, rest⟩ <;> rcases values with _ | ⟨value, values⟩
  · exact each
  · exact each
  · exact each
  · exact ⟨IsIn.stays retains item each.1, are_in_stays retains rest each.2⟩

theorem entries_stay (retains : world.Retains later) (entries : List (Data × Data))
    {values : List (Value × Value)} (each : entriesAreIn world entries values) :
    entriesAreIn later entries values := by
  rcases entries with _ | ⟨⟨key, item⟩, rest⟩ <;> rcases values with _ | ⟨⟨name, value⟩, values⟩
  · exact each
  · exact each
  · exact each
  · exact ⟨IsIn.stays retains key each.1, IsIn.stays retains item each.2.1,
      entries_stay retains rest each.2.2⟩

theorem attributes_stay (retains : world.Retains later) (attributes : List (Text × Data))
    {values : List (Text × Value)} (each : attributesAreIn world attributes values) :
    attributesAreIn later attributes values := by
  rcases attributes with _ | ⟨⟨name, item⟩, rest⟩ <;> rcases values with _ | ⟨⟨other, value⟩, values⟩
  · exact each
  · exact each
  · exact each
  · exact ⟨each.1, IsIn.stays retains item each.2.1, attributes_stay retains rest each.2.2⟩

end

end Stays

section Kept

variable {world later : World} (keeps : world.Keeps later)
include keeps

/-- What was there in a world is the same data when things were added. -/
theorem IsIn.kept {data : Data} {value : Value} (isIn : data.IsIn world value) :
    data.IsIn later value := IsIn.stays (fun _ _ _ here => here.kept keeps) data isIn

theorem are_in_kept {items : List Data} {values : List Value} (each : areIn world items values) :
    areIn later items values := are_in_stays (fun _ _ _ here => here.kept keeps) items each

theorem entries_kept {entries : List (Data × Data)} {values : List (Value × Value)}
    (each : entriesAreIn world entries values) : entriesAreIn later entries values :=
  entries_stay (fun _ _ _ here => here.kept keeps) entries each

theorem attributes_kept {attributes : List (Text × Data)} {values : List (Text × Value)}
    (each : attributesAreIn world attributes values) : attributesAreIn later attributes values :=
  attributes_stay (fun _ _ _ here => here.kept keeps) attributes each

end Kept

/-- A value stands for data: a text stands for that text, and nothing else for a text. -/
structure Stands (data : Data) (value : Value) : Prop where
  named : value.text? = data.text?
  texts : ∀ content, data = .text content → value = .text content

theorem IsIn.stands {world : World} {data : Data} {value : Value} (isIn : data.IsIn world value) :
    data.Stands value := by
  cases data with
  | text content =>
      cases isIn
      refine ⟨rfl, ?_⟩
      rintro _ ⟨⟩
      rfl
  | list items =>
      obtain ⟨values, ⟨address, rfl, -⟩, -⟩ := isIn
      exact ⟨rfl, nofun⟩
  | tuple items =>
      obtain ⟨values, rfl, -⟩ := isIn
      exact ⟨rfl, nofun⟩
  | set items =>
      obtain ⟨values, ⟨address, rfl, -⟩, -⟩ := isIn
      exact ⟨rfl, nofun⟩
  | dict entries =>
      obtain ⟨values, ⟨address, rfl, -⟩, -⟩ := isIn
      exact ⟨rfl, nofun⟩
  | mapping entries =>
      obtain ⟨values, ⟨address, rfl, -⟩, -⟩ := isIn
      exact ⟨rfl, nofun⟩
  | object attributes =>
      obtain ⟨values, ⟨address, rfl, -⟩, -⟩ := isIn
      exact ⟨rfl, nofun⟩
  | sealed =>
      obtain ⟨address, rfl, -⟩ := isIn
      exact ⟨rfl, nofun⟩
  | explosive =>
      obtain ⟨address, rfl, -⟩ := isIn
      exact ⟨rfl, nofun⟩
  | _ =>
      cases isIn
      exact ⟨rfl, nofun⟩

theorem entries_stand {world : World} {entries : List (Data × Data)} {values : List (Value × Value)}
    (each : entriesAreIn world entries values) :
    List.Forall₂ (fun (entry : Data × Data) (value : Value × Value) =>
      entry.1.Stands value.1 ∧ entry.2.Stands value.2) entries values := by
  induction entries generalizing values with
  | nil =>
      rcases values with _ | _
      · exact .nil
      · exact each.elim
  | cons entry rest ih =>
      rcases values with _ | ⟨value, values⟩
      · exact each.elim
      · exact .cons ⟨each.1.stands, each.2.1.stands⟩ (ih each.2.2)

end Data

namespace Run

theorem gives_new {Contents : Type} {action : Run Contents} {before after : Machine}
    {contents : Contents} (given : ∀ setting, action.Gives setting before contents after)
    (build : Contents → Cell) (setting : Setting) :
    (action >>= fun contents => new (build contents)).Gives setting before
      (.ref after.world.fresh) { after with world := (after.world.add (build contents)).2 } :=
  gives_bind (given setting) rfl

mutual

/-- Data can be put into any world, in any setting, and is there then. -/
theorem gives_data (data : Data) (before : Machine) :
    ∃ value after, (∀ setting, (ofData data).Gives setting before value after) ∧
      before.Grew after ∧ data.IsIn after.world value := by
  cases data with
  | list items =>
      obtain ⟨values, after, given, grew, each⟩ := gives_items items before
      have new := after.grew_adding (.list values.toArray)
      exact ⟨_, _, gives_new given (fun values => .list values.toArray), grew.trans new, _,
        ⟨_, rfl, World.add_has _ _⟩, Data.are_in_kept new.keeps each⟩
  | tuple items =>
      obtain ⟨values, after, given, grew, each⟩ := gives_items items before
      exact ⟨_, _, fun setting => gives_bind (given setting) (gives_pure _), grew, values, rfl, each⟩
  | set items =>
      obtain ⟨values, after, given, grew, each⟩ := gives_items items before
      have new := after.grew_adding (.set values)
      exact ⟨_, _, gives_new given .set, grew.trans new, _, ⟨_, rfl, World.add_has _ _⟩,
        Data.are_in_kept new.keeps each⟩
  | dict entries =>
      obtain ⟨values, after, given, grew, each⟩ := gives_entries entries before
      have new := after.grew_adding (.dict values.toArray)
      exact ⟨_, _, gives_new given (fun values => .dict values.toArray), grew.trans new, _,
        ⟨_, rfl, World.add_has _ _⟩, Data.entries_kept new.keeps each⟩
  | mapping entries =>
      obtain ⟨values, after, given, grew, each⟩ := gives_entries entries before
      have new := after.grew_adding (.mapping values)
      exact ⟨_, _, gives_new given .mapping, grew.trans new, _, ⟨_, rfl, World.add_has _ _⟩,
        Data.entries_kept new.keeps each⟩
  | object attributes =>
      obtain ⟨values, after, given, grew, each⟩ := gives_attributes attributes before
      have new := after.grew_adding (.object values)
      exact ⟨_, _, gives_new given .object, grew.trans new, _, ⟨_, rfl, World.add_has _ _⟩,
        Data.attributes_kept new.keeps each⟩
  | sealed =>
      exact ⟨_, _, fun _ => rfl, before.grew_adding .sealed, _, rfl, World.add_has _ _⟩
  | explosive =>
      exact ⟨_, _, fun _ => rfl, before.grew_adding .explosive, _, rfl, World.add_has _ _⟩
  | _ => exact ⟨_, before, fun _ => rfl, .refl _, rfl⟩

theorem gives_items (items : List Data) (before : Machine) :
    ∃ values after, (∀ setting, (ofItems items).Gives setting before values after) ∧
      before.Grew after ∧ Data.areIn after.world items values := by
  cases items with
  | nil => exact ⟨[], _, fun _ => gives_pure _, .refl _, trivial⟩
  | cons first rest =>
      obtain ⟨value, between, here, early, isIn⟩ := gives_data first before
      obtain ⟨values, after, later, late, each⟩ := gives_items rest between
      refine ⟨value :: values, after, fun setting => ?_, early.trans late, isIn.kept late.keeps, each⟩
      exact gives_bind (here setting) (gives_bind (later setting) (gives_pure _))

theorem gives_entries (entries : List (Data × Data)) (before : Machine) :
    ∃ values after, (∀ setting, (ofEntries entries).Gives setting before values after) ∧
      before.Grew after ∧ Data.entriesAreIn after.world entries values := by
  rcases entries with _ | ⟨⟨key, item⟩, rest⟩
  · exact ⟨[], _, fun _ => gives_pure _, .refl _, trivial⟩
  · obtain ⟨name, between, first, early, named⟩ := gives_data key before
    obtain ⟨value, behind, second, mid, valued⟩ := gives_data item between
    obtain ⟨values, after, third, late, each⟩ := gives_entries rest behind
    refine ⟨(name, value) :: values, after, fun setting => ?_, (early.trans mid).trans late,
      named.kept (mid.trans late).keeps, valued.kept late.keeps, each⟩
    exact gives_bind (first setting) (gives_bind (second setting)
      (gives_bind (third setting) (gives_pure _)))

theorem gives_attributes (attributes : List (Text × Data)) (before : Machine) :
    ∃ values after, (∀ setting, (ofAttributes attributes).Gives setting before values after) ∧
      before.Grew after ∧ Data.attributesAreIn after.world attributes values := by
  rcases attributes with _ | ⟨⟨name, item⟩, rest⟩
  · exact ⟨[], _, fun _ => gives_pure _, .refl _, trivial⟩
  · obtain ⟨value, between, here, early, isIn⟩ := gives_data item before
    obtain ⟨values, after, later, late, each⟩ := gives_attributes rest between
    refine ⟨(name, value) :: values, after, fun setting => ?_, early.trans late, rfl,
      isIn.kept late.keeps, each⟩
    exact gives_bind (here setting) (gives_bind (later setting) (gives_pure _))

end

end Run

namespace Data

/-- The entries of a mapping. -/
def entries : Data → List (Data × Data)
  | .dict entries => entries
  | .mapping entries => entries
  | _ => []

/-- Whether data gives names to a template: it is no mapping, or all its keys are texts. -/
def isPayload (data : Data) : Bool := data.entries.all fun entry => entry.1.text?.isSome

/-- Whether data gives a template something under a name: what is no mapping gives itself as data. -/
def defines (data : Data) (name : Text) : Bool :=
  match data with
  | .none => false
  | .dict entries => entries.any fun entry => entry.1.text? = some name
  | .mapping entries => entries.any fun entry => entry.1.text? = some name
  | _ => name = "data"

/-- What a mapping has under a name. -/
def under (data : Data) (name : Text) : Option Data :=
  (data.entries.find? fun entry => entry.1.text? = some name).map Prod.snd

end Data

namespace Run

variable {setting : Setting}

/-- What entries with texts for keys give, by name. -/
def namedEntries (entries : List (Value × Value)) : List (Text × Value) :=
  entries.map fun (key, value) => (key.text?.getD [], value)

/-- A mapping with texts for keys gives what is under them. -/
theorem gives_mapping {entries : List (Value × Value)} {address : Ref} {before : Machine}
    (listed : before.world.entries? address = some entries)
    (named : ∀ entry ∈ entries, entry.1.text?.isSome = true) :
    (TemplateSet.payload (.ref address)).Gives setting before (namedEntries entries) before := by
  have all : entriesOf? (.ref address) setting before = .ok (some entries) before :=
    congrArg (EStateM.Result.ok · before) listed
  apply gives_bind all
  clear all listed
  dsimp only
  induction entries with
  | nil => exact gives_pure _
  | cons first rest ih =>
      obtain ⟨here, others⟩ := List.forall_mem_cons.mp named
      obtain ⟨name, shown⟩ := Option.isSome_iff_exists.mp here
      rw [List.mapM_cons]
      apply gives_bind (?_ : Gives _ _ _ (name, first.2) before)
      · have same : namedEntries (first :: rest) = (name, first.2) :: namedEntries rest := by
          simp [namedEntries, shown]
        rw [same]
        exact gives_bind (ih others) (gives_pure _)
      · rw [shown]
        exact gives_pure _

theorem lookup_named {entries : List (Data × Data)} {values : List (Value × Value)}
    (stand : List.Forall₂ (fun (entry : Data × Data) (value : Value × Value) =>
      entry.1.Stands value.1 ∧ entry.2.Stands value.2) entries values)
    (named : ∀ entry ∈ entries, entry.1.text?.isSome = true) {name content : Text}
    (found : (entries.find? fun entry => entry.1.text? = some name).map Prod.snd =
      some (.text content)) :
    (namedEntries values).lookup name = some (.text content) := by
  induction stand with
  | nil => cases found
  | @cons entry value rest values here others ih =>
      obtain ⟨known, later⟩ := List.forall_mem_cons.mp named
      obtain ⟨key, shown⟩ := Option.isSome_iff_exists.mp known
      have told : value.1.text? = some key := here.1.named.trans shown
      have first : namedEntries (value :: values) = (key, value.2) :: namedEntries values := by
        simp [namedEntries, told]
      rw [first, List.lookup_cons]
      by_cases same : name = key
      · subst same
        rw [List.find?_cons_of_pos (by simp [shown])] at found
        simp [here.2.texts content (Option.some.inj found)]
      · have passed : (name == key) = false := by simpa using same
        rw [List.find?_cons_of_neg (by simp [shown, Ne.symm same])] at found
        rw [passed]
        exact ih later found

/-- Data is put into a world as it would be in any setting. -/
theorem taken_gives (data : Data) (home : World) :
    ∃ after : Machine,
      (∀ setting, (ofData data).Gives setting ⟨home, [], [], 0⟩ (Payload.taken data home).1 after) ∧
      after.world = (Payload.taken data home).2 ∧
      data.IsIn (Payload.taken data home).2 (Payload.taken data home).1 := by
  obtain ⟨value, after, given, -, isIn⟩ := gives_data data ⟨home, [], [], 0⟩
  have run := given ⟨.none, ⟨true, .open, [], [], [], fun _ => false⟩, []⟩
  have same : Payload.taken data home = (value, after.world) := by
    unfold Gives at run
    unfold Payload.taken
    simp only [ReaderT.run, EStateM.run, run]
  rw [same]
  exact ⟨after, given, rfl, isIn⟩

/-- How data stands in a world: as a mapping with its entries, as another thing, or as no thing. -/
inductive Placed (data : Data) : Value → World → Prop where
  | mapping {address : Ref} {world : World} {values : List (Value × Value)}
    (listed : world.entries? address = some values)
    (stand : List.Forall₂ (fun (entry : Data × Data) (value : Value × Value) =>
      entry.1.Stands value.1 ∧ entry.2.Stands value.2) data.entries values) :
    Placed data (.ref address) world
  | thing {address : Ref} {world : World} (unlisted : world.entries? address = none)
    (nothing : data.entries = []) : Placed data (.ref address) world
  | plain {value : Value} {world : World} (apart : ∀ address, value ≠ .ref address)
    (nothing : data.entries = []) : Placed data value world

theorem entries_of_has {world : World} {address : Ref} {cell : Cell}
    (here : world.Has address cell) :
    world.entries? address = match cell with
      | .dict entries => some entries.toList
      | .mapping entries => some entries
      | _ => none := by
  unfold World.entries?
  rw [here.2]
  cases cell <;> rfl

/-- Data is placed as what it is. -/
theorem placed_is_in {data : Data} {value : Value} {world : World} (isIn : data.IsIn world value) :
    Placed data value world := by
  cases data with
  | dict entries =>
      obtain ⟨values, ⟨address, rfl, here⟩, each⟩ := isIn
      exact .mapping (entries_of_has here) (Data.entries_stand each)
  | mapping entries =>
      obtain ⟨values, ⟨address, rfl, here⟩, each⟩ := isIn
      exact .mapping (entries_of_has here) (Data.entries_stand each)
  | list items =>
      obtain ⟨values, ⟨address, rfl, here⟩, -⟩ := isIn
      exact .thing (entries_of_has here) rfl
  | set items =>
      obtain ⟨values, ⟨address, rfl, here⟩, -⟩ := isIn
      exact .thing (entries_of_has here) rfl
  | object attributes =>
      obtain ⟨values, ⟨address, rfl, here⟩, -⟩ := isIn
      exact .thing (entries_of_has here) rfl
  | tuple items =>
      obtain ⟨values, rfl, -⟩ := isIn
      exact .plain nofun rfl
  | sealed =>
      obtain ⟨address, rfl, here⟩ := isIn
      exact .thing (entries_of_has here) rfl
  | explosive =>
      obtain ⟨address, rfl, here⟩ := isIn
      exact .thing (entries_of_has here) rfl
  | _ =>
      cases isIn
      exact .plain nofun rfl

/-- What a payload gives to a template holds its texts under their names. -/
theorem gives_payload {data : Data} (named : data.isPayload = true) (home : World) :
    ∃ given : List (Text × Value),
      (TemplateSet.payload (Payload.taken data home).1).Gives setting
        ⟨(Payload.taken data home).2, [], [], 0⟩ given ⟨(Payload.taken data home).2, [], [], 0⟩ ∧
      ∀ name content, data.under name = some (.text content) →
        given.lookup name = some (.text content) := by
  obtain ⟨-, -, -, isIn⟩ := taken_gives data home
  have placed := placed_is_in isIn
  generalize Payload.taken data home = taken at placed ⊢
  obtain ⟨value, world⟩ := taken
  cases placed with
  | mapping listed stand =>
      have keyed := List.all_eq_true.mp named
      refine ⟨_, gives_mapping listed ?_, fun name content found => lookup_named stand keyed found⟩
      intro entry inside
      obtain ⟨source, among, same⟩ := Results.source_of_result stand inside
      rw [same.1.named]
      exact keyed source among
  | @thing address _ unlisted nothing =>
      refine ⟨[("data", .ref address)], ?_, fun name content found => ?_⟩
      · have all : entriesOf? (.ref address) setting ⟨world, [], [], 0⟩ =
            .ok none ⟨world, [], [], 0⟩ := congrArg (EStateM.Result.ok · _) unlisted
        exact gives_bind all (gives_pure _)
      · simp [Data.under, nothing] at found
  | plain apart nothing =>
      have empty : ∀ name content, data.under name = some (.text content) → False := by
        intro name content found
        simp [Data.under, nothing] at found
      cases value with
      | none => exact ⟨[], rfl, fun name content found => (empty name content found).elim⟩
      | ref address => exact absurd rfl (apart address)
      | _ => exact ⟨_, rfl, fun name content found => (empty name content found).elim⟩

theorem lookup_absent_named {entries : List (Data × Data)} {values : List (Value × Value)}
    (stand : List.Forall₂ (fun (entry : Data × Data) (value : Value × Value) =>
      entry.1.Stands value.1 ∧ entry.2.Stands value.2) entries values)
    (named : ∀ entry ∈ entries, entry.1.text?.isSome = true) {name : Text}
    (absent : (entries.any fun entry => entry.1.text? = some name) = false) :
    (namedEntries values).lookup name = none := by
  induction stand with
  | nil => rfl
  | @cons entry value rest values here others ih =>
      obtain ⟨known, later⟩ := List.forall_mem_cons.mp named
      obtain ⟨key, shown⟩ := Option.isSome_iff_exists.mp known
      rw [List.any_cons, Bool.or_eq_false_iff, shown] at absent
      have told : value.1.text? = some key := here.1.named.trans shown
      have first : namedEntries (value :: values) = (key, value.2) :: namedEntries values := by
        simp [namedEntries, told]
      have passed : (name == key) = false := by
        rw [beq_eq_false_iff_ne]
        rintro rfl
        simp at absent
      rw [first, List.lookup_cons, passed]
      exact ih later absent.2

/-- What a payload gives to a template has nothing under a name that the payload does not define. -/
theorem gives_without {data : Data} (named : data.isPayload = true) {name : Text}
    (free : data.defines name = false) (home : World) :
    ∃ given : List (Text × Value),
      (TemplateSet.payload (Payload.taken data home).1).Gives setting
        ⟨(Payload.taken data home).2, [], [], 0⟩ given ⟨(Payload.taken data home).2, [], [], 0⟩ ∧
      given.lookup name = none := by
  obtain ⟨-, -, -, isIn⟩ := taken_gives data home
  generalize Payload.taken data home = taken at isIn ⊢
  obtain ⟨value, world⟩ := taken
  dsimp only at isIn ⊢
  have keyed := List.all_eq_true.mp named
  have mapping {entries : List (Data × Data)} {values : List (Value × Value)} {address : Ref}
      (listed : world.entries? address = some values) (each : Data.entriesAreIn world entries values)
      (texts : ∀ entry ∈ entries, entry.1.text?.isSome = true)
      (absent : (entries.any fun entry => entry.1.text? = some name) = false) :
      ∃ given : List (Text × Value), (TemplateSet.payload (.ref address)).Gives setting
        ⟨world, [], [], 0⟩ given ⟨world, [], [], 0⟩ ∧ given.lookup name = none := by
    have stand := Data.entries_stand each
    refine ⟨_, gives_mapping listed ?_, lookup_absent_named stand texts absent⟩
    intro entry inside
    obtain ⟨source, among, same⟩ := Results.source_of_result stand inside
    rw [same.1.named]
    exact texts source among
  have alone {given : Value} (apart : data.defines name = decide (name = "data")) :
      List.lookup name [(Text.ofString "data", given)] = none := by
    rw [apart, decide_eq_false_iff_not] at free
    have passed : (name == Text.ofString "data") = false := beq_eq_false_iff_ne.mpr free
    rw [List.lookup_cons, passed, List.lookup_nil]
  have thing {address : Ref} (unlisted : world.entries? address = none)
      (apart : data.defines name = decide (name = "data")) :
      ∃ given : List (Text × Value), (TemplateSet.payload (.ref address)).Gives setting
        ⟨world, [], [], 0⟩ given ⟨world, [], [], 0⟩ ∧ given.lookup name = none := by
    have all : entriesOf? (.ref address) setting ⟨world, [], [], 0⟩ =
        .ok none ⟨world, [], [], 0⟩ := congrArg (EStateM.Result.ok · _) unlisted
    exact ⟨_, gives_bind all (gives_pure _), alone apart⟩
  cases data with
  | none =>
      cases isIn
      exact ⟨[], rfl, rfl⟩
  | dict entries =>
      obtain ⟨values, ⟨address, rfl, here⟩, each⟩ := isIn
      exact mapping (entries_of_has here) each keyed free
  | mapping entries =>
      obtain ⟨values, ⟨address, rfl, here⟩, each⟩ := isIn
      exact mapping (entries_of_has here) each keyed free
  | list | set | object =>
      obtain ⟨values, ⟨address, rfl, here⟩, -⟩ := isIn
      exact thing (entries_of_has here) rfl
  | tuple =>
      obtain ⟨values, rfl, -⟩ := isIn
      exact ⟨_, rfl, alone rfl⟩
  | sealed | explosive =>
      obtain ⟨address, rfl, here⟩ := isIn
      exact thing (entries_of_has here) rfl
  | _ =>
      cases isIn
      exact ⟨_, rfl, alone rfl⟩

end Run

end PageTemplates
