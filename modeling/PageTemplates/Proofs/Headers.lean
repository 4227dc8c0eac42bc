import Mathlib.Data.List.Basic
import PageTemplates.Headers
import PageTemplates.Proofs.Entries

/-!
Headers as a multimap: an ordered list of names with their values, in which small letters tell names
apart. Whatever is done with headers, from their making on, they hold what the same operations come to
on the multimap, they answer alike, and a name that is missing leaves them as they are. Where the
operations go by the spelling of a name and the headers are filed in small letters, this rests on every
header being filed under its own spelling and having a value.
-/

namespace PageTemplates

/-- A name as spelled with its values, of which there is at least one. -/
structure Field where
  name : Text
  first : Data
  more : List Data

namespace Field

def values (field : Field) : List Data := field.first :: field.more

/-- Whether a field goes by a name, in any spelling. -/
def answersTo (field : Field) (name : Text) : Bool := Text.lower field.name = Text.lower name

def header (field : Field) : Header := ⟨field.name, field.values⟩

/-- How a field is filed. -/
def row (field : Field) : Text × Header := (Text.lower field.name, field.header)

theorem answers_iff {field : Field} {name : Text} :
    field.answersTo name = true ↔ Text.lower field.name = Text.lower name := decide_eq_true_iff

end Field

/-- Fields in order, no two of which go by one name. -/
structure Multimap where
  fields : List Field
  apart : fields.Pairwise fun one other => Text.lower one.name ≠ Text.lower other.name

namespace Multimap

def empty : Multimap := ⟨[], .nil⟩

def find? (map : Multimap) (name : Text) : Option Field :=
  map.fields.find? fun field => field.answersTo name

theorem lower_of_find (map : Multimap) {name : Text} {field : Field}
    (found : map.find? name = some field) : Text.lower field.name = Text.lower name := by
  have answers := List.find?_some found
  exact Field.answers_iff.mp answers

/-- Fields with one of them in place of that of the same name, or behind all others. -/
def putAmong (field : Field) (fields : List Field) : List Field :=
  if fields.any fun old => old.answersTo field.name then
    fields.map fun old => if old.answersTo field.name then field else old
  else fields ++ [field]

theorem put_apart {field : Field} {fields : List Field}
    (apart : fields.Pairwise fun one other => Text.lower one.name ≠ Text.lower other.name) :
    (putAmong field fields).Pairwise fun one other =>
      Text.lower one.name ≠ Text.lower other.name := by
  have spelled (old : Field) :
      Text.lower (if old.answersTo field.name then field else old).name = Text.lower old.name := by
    split
    · rename_i answers
      exact (Field.answers_iff.mp answers).symm
    · rfl
  rw [putAmong]
  split
  · rw [List.pairwise_map]
    simpa only [spelled] using apart
  · rename_i absent
    refine List.pairwise_append.mpr ⟨apart, List.pairwise_singleton _ _, ?_⟩
    intro old inside new isNew same
    rw [List.mem_singleton.mp isNew] at same
    exact absent (List.any_eq_true.mpr ⟨old, inside, Field.answers_iff.mpr same⟩)

def put (map : Multimap) (field : Field) : Multimap :=
  ⟨putAmong field map.fields, put_apart map.apart⟩

/-- A single value and a spelling for a name: in its place, or behind all others. -/
def assign (map : Multimap) (name : Text) (value : Data) : Multimap := map.put ⟨name, value, []⟩

/-- One more value for a name, which keeps the spelling it has. -/
def append (map : Multimap) (name : Text) (value : Data) : Multimap :=
  match map.find? name with
  | some field => map.put { field with more := field.more ++ [value] }
  | none => map.assign name value

def without (map : Multimap) (name : Text) : Multimap :=
  ⟨map.fields.filter fun field => !field.answersTo name, map.apart.filter _⟩

def rest (map : Multimap) : Multimap := ⟨map.fields.tail, map.apart.tail⟩

def ofList (pairs : List (Text × Data)) : Multimap :=
  pairs.foldl (fun so (name, value) => so.append name value) empty

/-- The headers that hold a multimap. -/
def filed (map : Multimap) : Headers := ⟨map.fields.map Field.row⟩

end Multimap

namespace Headers

/-- What is done with headers. -/
inductive Operation where
  | first (name : Text)
  | assign (name : Text) (value : Data)
  | append (name : Text) (value : Data)
  | delete (name : Text)
  | pop (name : Text) (fallback : Option Data)
  | popFirst
  | getOrSet (name : Text) (value : Data)
  | update (pairs : List (Text × Data))
  | clear

/-- What an operation yields. -/
inductive Answer where
  | nothing
  | value (value : Data)
  | entry (name : Text) (value : Data)

namespace Operation

/-- An operation on headers. -/
def act : Operation → Action Answer
  | .first name => .value <$> Headers.first name
  | .assign name value => do
    modify fun headers => headers.set name value
    return .nothing
  | .append name value => do
    modify fun headers => headers.add name value
    return .nothing
  | .delete name => do
    Headers.delete name
    return .nothing
  | .pop name fallback => .value <$> Headers.pop name fallback
  | .popFirst => (fun (name, value) => .entry name value) <$> Headers.popFirst
  | .getOrSet name value => .value <$> Headers.getOrSet name value
  | .update pairs => do
    Headers.update pairs
    return .nothing
  | .clear => do
    Headers.clear
    return .nothing

/-- What an operation comes to on a multimap. -/
def applied (map : Multimap) : Operation → Except Failure Answer × Multimap
  | .first name =>
    match map.find? name with
    | some field => (.ok (.value field.first), map)
    | none => (.error (.missingKey (Text.quoted name)), map)
  | .assign name value => (.ok .nothing, map.assign name value)
  | .append name value => (.ok .nothing, map.append name value)
  | .delete name =>
    match map.find? name with
    | some _ => (.ok .nothing, map.without name)
    | none => (.error (.missingKey (Text.quoted (Text.lower name))), map)
  | .pop name fallback =>
    match map.find? name, fallback with
    | some field, _ => (.ok (.value field.first), map.without name)
    | none, some value => (.ok (.value value), map)
    | none, none => (.error (.missingKey (Text.quoted name)), map)
  | .popFirst =>
    match map.fields with
    | field :: _ => (.ok (.entry field.name field.first), map.rest)
    | [] => (.error (.missingKey []), map)
  | .getOrSet name value =>
    match map.find? name with
    | some field => (.ok (.value field.first), map)
    | none => (.ok (.value value), map.assign name value)
  | .update pairs => (.ok .nothing, pairs.foldl (fun so (name, value) => so.assign name value) map)
  | .clear => (.ok .nothing, .empty)

/-- What an operation yields and the headers that it leaves. -/
def perform (headers : Headers) (operation : Operation) : Except Failure Answer × Headers :=
  match operation.act headers with
  | .ok answer after => (.ok answer, after)
  | .error failure after => (.error failure, after)

/-- The answers of operations one after another, and what they leave. -/
def inTurn {State : Type} (step : State → Operation → Except Failure Answer × State) :
    List Operation → State → List (Except Failure Answer) × State
  | [], state => ([], state)
  | operation :: rest, state =>
    let (answer, after) := step state operation
    let (answers, last) := inTurn step rest after
    (answer :: answers, last)

end Operation

/-- What headers show that hold a multimap. -/
structure Shows (headers : Headers) (map : Multimap) : Prop where
  names : headers.names = map.fields.map Field.name
  size : headers.size = map.fields.length
  flat : headers.flat =
    map.fields.flatMap fun field => field.values.map fun value => (field.name, value)
  firsts : headers.firsts = map.fields.map fun field => (field.name, field.first)
  first : ∀ name, headers.get? name = (map.find? name).map Field.first
  contains : ∀ name, headers.contains name = (map.find? name).isSome
  all : ∀ name, headers.getAll name = ((map.find? name).map Field.values).getD []

section Run

variable {First Result : Type}

theorem bind_run (first : Action First) (rest : First → Action Result) (headers : Headers) :
    (first >>= rest) headers =
      match first headers with
      | .ok result after => rest result after
      | .error failure after => .error failure after := by
  change EStateM.bind first rest headers = _
  unfold EStateM.bind
  cases first headers <;> rfl

theorem get_bind_run (rest : Headers → Action Result) (headers : Headers) :
    (get >>= rest) headers = rest headers headers := rfl

theorem map_run (form : First → Result) (first : Action First) (headers : Headers) :
    (form <$> first) headers =
      match first headers with
      | .ok result after => .ok (form result) after
      | .error failure after => .error failure after := by
  change EStateM.map form first headers = _
  unfold EStateM.map
  cases first headers <;> rfl

theorem or_if_missing_run (action : Action Result) (otherwise : Failure → Action Result)
    (headers : Headers) :
    orIfMissing action otherwise headers =
      match action headers with
      | .ok result after => .ok result after
      | .error failure after =>
        if failure.cause = .missingKey then otherwise failure after else .error failure after := by
  change EStateM.tryCatch action _ headers = _
  unfold EStateM.tryCatch
  cases action headers with
  | ok result after => rfl
  | error failure after =>
      dsimp only
      split <;> rfl

end Run

section Filed

variable (map : Multimap)

@[simp] theorem find_filed (name : Text) :
    map.filed.find? name = (map.find? name).map Field.header := by
  rw [find?, Multimap.filed, Multimap.find?]
  induction map.fields with
  | nil => rfl
  | cons field rest ih =>
      rw [List.map_cons, Field.row, Entries.lookup_first, ih, List.find?_cons]
      by_cases same : Text.lower field.name = Text.lower name
      · rw [if_pos same.symm, Field.answers_iff.mpr same]
        rfl
      · rw [if_neg (Ne.symm same), Bool.eq_false_iff.mpr (mt Field.answers_iff.mp same)]

@[simp] theorem get_all_filed (name : Text) :
    map.filed.getAll name = ((map.find? name).map Field.values).getD [] := by
  rw [getAll, find_filed]
  cases map.find? name <;> rfl

@[simp] theorem get_filed (name : Text) :
    map.filed.get? name = (map.find? name).map Field.first := by
  rw [get?, get_all_filed]
  cases map.find? name <;> rfl

/-- In a multimap a field is found under its own name. -/
theorem find_own {field : Field} (inside : field ∈ map.fields) :
    map.find? field.name = some field := by
  obtain ⟨before, after, split⟩ := List.append_of_mem inside
  have apart := map.apart
  rw [split, List.pairwise_append] at apart
  rw [Multimap.find?, split, List.find?_append, List.find?_eq_none.mpr, Option.none_or,
    List.find?_cons, Field.answers_iff.mpr rfl]
  intro other earlier answers
  exact apart.2.2 other earlier field List.mem_cons_self (Field.answers_iff.mp answers)

theorem rest_eq_without {field : Field} {rest : List Field} (fields : map.fields = field :: rest) :
    map.without field.name = map.rest := by
  have apart := map.apart
  rw [fields, List.pairwise_cons] at apart
  simp only [Multimap.without, Multimap.rest, fields, List.tail_cons, Multimap.mk.injEq]
  rw [List.filter_cons, Field.answers_iff.mpr rfl]
  refine List.filter_eq_self.mpr fun other inside => ?_
  simpa [Field.answersTo] using Ne.symm (apart.1 other inside)

theorem shows_filed : Shows map.filed map where
  names := List.map_map
  size := List.length_map _
  flat := List.flatMap_map _ _ _
  firsts := by
    have names : map.filed.names = map.fields.map Field.name := List.map_map
    rw [firsts, names, List.filterMap_map, ← List.filterMap_eq_map]
    refine List.filterMap_congr fun field inside => ?_
    rw [Function.comp_apply, get_filed, find_own map inside]
    rfl
  first := get_filed map
  contains name := by
    rw [contains, get_all_filed]
    cases map.find? name <;> rfl
  all := get_all_filed map

theorem file_fields (field : Field) {fields : List Field}
    (apart : fields.Pairwise fun one other => Text.lower one.name ≠ Text.lower other.name) :
    file (Text.lower field.name) field.header (fields.map Field.row) =
      (Multimap.putAmong field fields).map Field.row := by
  induction fields with
  | nil => rfl
  | cons old rest ih =>
      obtain ⟨others, apart⟩ := List.pairwise_cons.mp apart
      rw [List.map_cons, Field.row, file, Multimap.putAmong, List.any_cons]
      by_cases same : Text.lower old.name = Text.lower field.name
      · -- The field takes the place of the first one, and no other goes by its name.
        have kept : rest.map (fun old => if old.answersTo field.name then field else old) = rest := by
          refine (List.map_congr_left fun other inside => ?_).trans (List.map_id rest)
          rw [if_neg fun answers => others other inside (same.trans (Field.answers_iff.mp answers).symm)]
          rfl
        have answers : old.answersTo field.name = true := Field.answers_iff.mpr same
        rw [if_pos same, answers, Bool.true_or, if_pos rfl, List.map_cons, if_pos answers, kept]
        rfl
      · have passed : old.answersTo field.name = false :=
          Bool.eq_false_iff.mpr (mt Field.answers_iff.mp same)
        rw [if_neg same, ih apart, passed, Bool.false_or, Multimap.putAmong]
        split
        · rw [List.map_cons, List.map_cons, passed, if_neg Bool.false_ne_true]
          rfl
        · rfl

theorem put_filed (field : Field) :
    (⟨file (Text.lower field.name) field.header map.filed.entries⟩ : Headers) =
      (map.put field).filed := congrArg Headers.mk (file_fields field map.apart)

@[simp] theorem set_filed (name : Text) (value : Data) :
    map.filed.set name value = (map.assign name value).filed := put_filed map ⟨name, value, []⟩

@[simp] theorem add_filed (name : Text) (value : Data) :
    map.filed.add name value = (map.append name value).filed := by
  rw [add, find_filed, Multimap.append]
  cases found : map.find? name with
  | none => exact set_filed map name value
  | some field =>
      have same := map.lower_of_find found
      have filing := put_filed map { field with more := field.more ++ [value] }
      rw [same] at filing
      exact filing

@[simp] theorem erase_filed (name : Text) :
    map.filed.erase name = (map.without name).filed := by
  simp only [erase, Multimap.filed, Multimap.without, List.filter_map]
  congr 2
  refine List.filter_congr fun field _ => ?_
  by_cases same : Text.lower field.name = Text.lower name
  · simp [Field.row, Field.answersTo, same]
  · simp [Field.row, Field.answersTo, same]

theorem of_list_filed (pairs : List (Text × Data)) :
    ofList pairs = (Multimap.ofList pairs).filed := by
  have after (map : Multimap) :
      pairs.foldl (fun so (name, value) => so.add name value) map.filed =
        (pairs.foldl (fun so (name, value) => so.append name value) map).filed := by
    induction pairs generalizing map with
    | nil => rfl
    | cons pair rest ih =>
        obtain ⟨name, value⟩ := pair
        simp only [List.foldl_cons, add_filed]
        exact ih _
  exact after .empty

theorem update_filed (pairs : List (Text × Data)) :
    update pairs map.filed =
      .ok () (pairs.foldl (fun so (name, value) => so.assign name value) map).filed := by
  induction pairs generalizing map with
  | nil => rfl
  | cons pair rest ih =>
      obtain ⟨name, value⟩ := pair
      rw [List.foldl_cons, ← ih, ← set_filed]
      rfl

theorem first_filed (name : Text) :
    first name map.filed =
      match map.find? name with
      | some field => .ok field.first map.filed
      | none => .error (.missingKey (Text.quoted name)) map.filed := by
  rw [Headers.first, get_bind_run, get_filed]
  cases map.find? name <;> rfl

theorem delete_filed (name : Text) :
    delete name map.filed =
      match map.find? name with
      | some _ => .ok () (map.without name).filed
      | none => .error (.missingKey (Text.quoted (Text.lower name))) map.filed := by
  rw [Headers.delete, get_bind_run, find_filed]
  cases map.find? name with
  | none => rfl
  | some field => exact congrArg (EStateM.Result.ok ()) (erase_filed map name)

theorem pop_filed (name : Text) (fallback : Option Data) :
    pop name fallback map.filed =
      match map.find? name, fallback with
      | some field, _ => .ok field.first (map.without name).filed
      | none, some value => .ok value map.filed
      | none, none => .error (.missingKey (Text.quoted name)) map.filed := by
  rw [pop, bind_run, or_if_missing_run, map_run, first_filed]
  cases found : map.find? name with
  | none => cases fallback <;> rfl
  | some field =>
      dsimp only
      rw [bind_run, delete_filed, found]
      rfl

theorem pop_first_filed :
    popFirst map.filed =
      match map.fields with
      | field :: _ => .ok (field.name, field.first) map.rest.filed
      | [] => .error (.missingKey []) map.filed := by
  have names : map.filed.names = map.fields.map Field.name := (shows_filed map).names
  rw [popFirst, get_bind_run, names]
  cases fields : map.fields with
  | nil => rfl
  | cons field rest =>
      have inside : field ∈ map.fields := fields ▸ List.mem_cons_self
      change (do let value ← first field.name; delete field.name; pure (field.name, value) :
        Action _) map.filed = _
      rw [bind_run, first_filed, find_own map inside]
      dsimp only
      rw [bind_run, delete_filed, find_own map inside, rest_eq_without map fields]
      rfl

theorem pop_all_filed (bound : Nat) (enough : map.fields.length < bound) :
    popAll bound map.filed = .ok () Multimap.empty.filed := by
  induction bound generalizing map with
  | zero => cases enough
  | succ bound ih =>
      rw [popAll, bind_run, or_if_missing_run, bind_run, pop_first_filed]
      cases fields : map.fields with
      | nil =>
          have none_left : map = .empty := by
            cases map
            cases fields
            rfl
          subst none_left
          rfl
      | cons field rest =>
          refine ih map.rest ?_
          rw [fields, List.length_cons] at enough
          simpa only [Multimap.rest, fields, List.tail_cons] using Nat.lt_of_succ_lt_succ enough

theorem clear_filed : clear map.filed = .ok () Multimap.empty.filed :=
  pop_all_filed map _ (Nat.lt_succ_of_le (Nat.le_of_eq (shows_filed map).size.symm))

theorem get_or_set_filed (name : Text) (value : Data) :
    getOrSet name value map.filed =
      match map.find? name with
      | some field => .ok field.first map.filed
      | none => .ok value (map.assign name value).filed := by
  rw [getOrSet, or_if_missing_run, first_filed]
  cases map.find? name with
  | some field => rfl
  | none => exact congrArg (EStateM.Result.ok value) (set_filed map name value)

/-- An operation on headers that hold a multimap yields what it comes to on the multimap, and leaves
headers that hold what is left of it. -/
theorem perform_filed (operation : Operation) :
    operation.perform map.filed =
      ((operation.applied map).1, (operation.applied map).2.filed) := by
  rw [Operation.perform]
  cases operation with
  | first name =>
      rw [Operation.act, map_run, first_filed, Operation.applied]
      cases map.find? name <;> rfl
  | assign name value => exact congrArg (Prod.mk _) (set_filed map name value)
  | append name value => exact congrArg (Prod.mk _) (add_filed map name value)
  | delete name =>
      rw [Operation.act, bind_run, delete_filed, Operation.applied]
      cases map.find? name <;> rfl
  | pop name fallback =>
      rw [Operation.act, map_run, pop_filed]
      cases found : map.find? name <;> cases fallback <;> simp only [Operation.applied, found]
  | popFirst =>
      rw [Operation.act, map_run, pop_first_filed, Operation.applied]
      cases map.fields <;> rfl
  | getOrSet name value =>
      rw [Operation.act, map_run, get_or_set_filed, Operation.applied]
      cases map.find? name <;> rfl
  | update pairs =>
      rw [Operation.act, bind_run, update_filed]
      rfl
  | clear =>
      rw [Operation.act, bind_run, clear_filed]
      rfl

theorem in_turn_filed (operations : List Operation) :
    Operation.inTurn Operation.perform operations map.filed =
      ((Operation.inTurn (fun map operation => operation.applied map) operations map).1,
        (Operation.inTurn (fun map operation => operation.applied map) operations map).2.filed) := by
  induction operations generalizing map with
  | nil => rfl
  | cons operation rest ih =>
      simp only [Operation.inTurn, perform_filed, ih]

/-- An operation fails on a multimap only for a name that is missing, and then leaves it as it is. -/
theorem applied_failing {operation : Operation} {failure : Failure}
    (fails : (operation.applied map).1 = .error failure) :
    failure.cause = .missingKey ∧ (operation.applied map).2 = map := by
  cases operation with
  | first name | delete name | getOrSet name value =>
      rw [Operation.applied] at fails ⊢
      cases found : map.find? name <;> rw [found] at fails <;> cases fails <;> exact ⟨rfl, rfl⟩
  | pop name fallback =>
      cases found : map.find? name <;> cases fallback <;>
        simp only [Operation.applied, found] at fails ⊢ <;> cases fails
      exact ⟨rfl, trivial⟩
  | popFirst =>
      rw [Operation.applied] at fails ⊢
      cases fields : map.fields <;> rw [fields] at fails <;> cases fails
      exact ⟨rfl, rfl⟩
  | assign | append | update | clear => cases fails

end Filed

/-- Whatever is done with headers of whatever pairs, they show the multimap that the same operations come
to, each operation yields what it yields there, and one that fails does so for a missing name and leaves
the headers as they were. -/
theorem headers_are_multimaps (pairs : List (Text × Data)) (operations : List Operation) :
    let run := Operation.inTurn Operation.perform operations (ofList pairs)
    let told := Operation.inTurn (fun map operation => operation.applied map) operations
      (Multimap.ofList pairs)
    run.1 = told.1 ∧ Shows run.2 told.2 ∧
      ∀ (operation : Operation) failure after, operation.act run.2 = .error failure after →
        failure.cause = .missingKey ∧ after = run.2 := by
  rw [of_list_filed, in_turn_filed]
  refine ⟨rfl, shows_filed _, fun operation failure after fails => ?_⟩
  have performed := perform_filed (Operation.inTurn (fun map operation => operation.applied map)
    operations (Multimap.ofList pairs)).2 operation
  rw [Operation.perform, fails, Prod.mk.injEq] at performed
  obtain ⟨missing, same⟩ := applied_failing _ performed.1.symm
  exact ⟨missing, performed.2.trans (congrArg Multimap.filed same)⟩

end Headers

end PageTemplates
