import PageTemplates.Data.Bytes
import PageTemplates.Text.Case

/-!
Headers of a response: what is filed under names in small letters, in order, each with a spelling and
its values. A header keeps the spelling it was first added with, or last set with. To look a name up,
set it, add to it or take it away goes by small letters; what is built on these goes by the spellings.
-/

namespace PageTemplates

/-- A header: its name as spelled, and its values in order. -/
structure Header where
  name : Text
  values : List Data

/-- The headers of a response in order, each under its name in small letters. -/
structure Headers where
  entries : List (Text × Header)

namespace Headers

/-- No headers. -/
def empty : Headers := ⟨[]⟩

/-- The header of a name. -/
def find? (headers : Headers) (name : Text) : Option Header :=
  headers.entries.lookup (Text.lower name)

/-- All values of a name. -/
def getAll (headers : Headers) (name : Text) : List Data :=
  ((headers.find? name).map Header.values).getD []

/-- Whether a name has a value. -/
def contains (headers : Headers) (name : Text) : Bool := !(headers.getAll name).isEmpty

/-- The first value of a name. -/
def get? (headers : Headers) (name : Text) : Option Data := (headers.getAll name).head?

/-- The names in order, as spelled. -/
def names (headers : Headers) : List Text := headers.entries.map fun (_, header) => header.name

/-- How many names there are. -/
def size (headers : Headers) : Nat := headers.entries.length

/-- Every value with its name, in order. -/
def flat (headers : Headers) : List (Text × Data) :=
  headers.entries.flatMap fun (_, header) => header.values.map fun value => (header.name, value)

/-- The first value of each name, in order. -/
def firsts (headers : Headers) : List (Text × Data) :=
  headers.names.filterMap fun name => (headers.get? name).map fun value => (name, value)

/-- Puts a header in place of the one under the same key, or behind all others. -/
def file (key : Text) (header : Header) : List (Text × Header) → List (Text × Header)
  | [] => [(key, header)]
  | (other, old) :: rest =>
    if other = key then (key, header) :: rest else (other, old) :: file key header rest

/-- Gives a name a single value and this spelling. -/
def set (headers : Headers) (name : Text) (value : Data) : Headers :=
  ⟨file (Text.lower name) ⟨name, [value]⟩ headers.entries⟩

/-- Gives a name one more value. -/
def add (headers : Headers) (name : Text) (value : Data) : Headers :=
  match headers.find? name with
  | some header =>
    ⟨file (Text.lower name) { header with values := header.values ++ [value] } headers.entries⟩
  | none => ⟨file (Text.lower name) ⟨name, [value]⟩ headers.entries⟩

/-- Without the header of a name. -/
def erase (headers : Headers) (name : Text) : Headers :=
  ⟨headers.entries.filter fun (key, _) => key != Text.lower name⟩

/-- The headers of pairs, added in order. -/
def ofList (pairs : List (Text × Data)) : Headers :=
  pairs.foldl (fun so (name, value) => so.add name value) empty

/-- The quoted form of headers. -/
def quoted (headers : Headers) : Text :=
  "Headers(" ++
    (Data.list (headers.flat.map fun (name, value) => .tuple [.text name, value])).quoted ++ ")"

/-- Something done with headers that may fail. A failure leaves them as they were when it arose. -/
abbrev Action := EStateM Failure Headers

/-- Goes on with something else where a name turns out to be missing. -/
def orIfMissing {Result : Type} (action : Action Result) (otherwise : Failure → Action Result) :
    Action Result :=
  tryCatch action fun failure =>
    if failure.cause = .missingKey then otherwise failure else throw failure

/-- The first value of a name, which fails if there is none. -/
def first (name : Text) : Action Data := do
  match (← get).get? name with
  | some value => return value
  | none => throw (.missingKey (Text.quoted name))

/-- Takes the header of a name away, which fails if there is none. -/
def delete (name : Text) : Action Unit := do
  match (← get).find? name with
  | some _ => modify fun headers => headers.erase name
  | none => throw (.missingKey (Text.quoted (Text.lower name)))

/-- Takes the header of a name away and yields its first value. Without such a header it yields the
fallback, and fails if there is no fallback. -/
def pop (name : Text) (fallback : Option Data) : Action Data := do
  let found ← orIfMissing (some <$> first name) fun failure =>
    if fallback.isSome then return none else throw failure
  match found with
  | some value =>
    delete name
    return value
  | none => return fallback.getD .none

/-- Takes the first header away and yields its name and first value. -/
def popFirst : Action (Text × Data) := do
  match (← get).names with
  | [] => throw (.missingKey [])
  | name :: _ =>
    let value ← first name
    delete name
    return (name, value)

/-- Takes first headers away, until there is none. The argument bounds their number. -/
def popAll : (bound : Nat) → Action Unit
  | 0 => return ()
  | bound + 1 => do
    let goesOn ← orIfMissing (do let _ ← popFirst; return true) fun _ => return false
    if goesOn then popAll bound

/-- Takes all headers away, one by one. -/
def clear : Action Unit := do popAll ((← get).size + 1)

/-- The first value of a name, which gets a value if it has none. -/
def getOrSet (name : Text) (value : Data) : Action Data :=
  orIfMissing (first name) fun _ => do
    modify fun headers => headers.set name value
    return value

/-- Gives each of several names a single value, in order. -/
def update (pairs : List (Text × Data)) : Action Unit :=
  pairs.forM fun (name, value) => modify fun headers => headers.set name value

end Headers

end PageTemplates
