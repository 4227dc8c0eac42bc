import PageTemplates.Data.Bytes
import PageTemplates.Data.Equal
import PageTemplates.Fault
import PageTemplates.Signature

/-!
Forms of faults: how a host makes a fault of a kind from arguments. Each kind has a signature, and
arguments that do not fit it fail as those of a function do.
-/

namespace PageTemplates

namespace Severity

/-- The severity that data names. -/
def ofData (data : Data) : Except Failure Severity :=
  match data.text?.bind ofName? with
  | some severity => .ok severity
  | none => .error (.wrongValue (data.quoted ++ " is not a valid Severity"))

end Severity

namespace Fault

/-- Arguments by place and by name. A domain and a severity can only be given by name. -/
structure Arguments where
  placed : List Data
  named : List (Text × Data)
  domain : Option Domain
  severity : Option Severity

/-- The signature of a kind of fault. The first parameter is the fault that is being made. -/
def signature : FaultKind → Signature
  | .general =>
    [.required "self", .required "code", .required "message", ⟨"domain", .namedOnly, none⟩,
      ⟨"severity", .namedOnly, some .none⟩, ⟨"public", .namedOnly, some .none⟩,
      ⟨"metadata", .namedOnly, some .none⟩]
  | .template =>
    [.required "self", .required "code", .required "message",
      ⟨"severity", .namedOnly, some .none⟩, ⟨"metadata", .namedOnly, some .none⟩]
  | .sourceRead => [.required "self", .required "path", .required "reason"]
  | .parse =>
    [.required "self", .required "name", .required "reason", .optional "lineno" .none]
  | .notFound => [.required "self", .required "name"]
  | .execution => [.required "self", .required "name", .required "reason"]
  | .duplicate => [.required "self", .required "name", .required "paths"]
  | .functionInvalid => [.required "self", .required "name", .required "reason"]
  | .configInvalid => [.required "self", .required "key", .required "reason"]

/-- The arguments of a kind of fault by the names of the parameters. A parameter is bound to the place
of its argument, counted from one. -/
def bindData (kind : FaultKind) (arguments : Arguments) :
    Except Failure (List (String × Data)) := do
  let marker (isGiven : Bool) (name : Text) : List (Text × Data) :=
    if isGiven then [(name, .none)] else []
  let named := arguments.named ++ marker arguments.domain.isSome "domain" ++
    marker arguments.severity.isSome "severity"
  let place (number : Nat) : Value := .int (Int.ofNat number)
  let count := arguments.placed.length + 1
  let given : Given :=
    { positional := (List.range count).map place
      named := named.zipIdx.map fun ((name, _), number) => (name, place (count + number)) }
  let bound ← (signature kind).bind (Text.ofString kind.title ++ ".__init__") given
  let values := Data.none :: arguments.placed ++ named.map Prod.snd
  return bound.values.filterMap fun (name, value) =>
    match value with
    | .int number => some (name, values.getD number.toNat .none)
    | _ => none

/-- The details that are given, or none. -/
def givenDetails (metadata : Data) : Data := if metadata.truth then metadata else .dict []

/-- The parameters that the message of a fault shows. -/
def shownNames : List String := ["code", "message", "path", "reason", "name", "lineno", "key"]

/-- Makes a fault of a kind, whose message has to be fit for printing. -/
def make (kind : FaultKind) (arguments : Arguments) : Except Failure Fault := do
  let bound ← bindData kind arguments
  let _ ← (bound.filter fun (name, _) => shownNames.contains name).mapM fun (_, data) => data.printed
  let get (name : String) : Data := (bound.lookup name).getD .none
  match kind with
  | .general =>
    return { kind := .general
             code := get "code"
             summary := get "message"
             domain := arguments.domain.getD .template
             severity := arguments.severity.getD .error
             exposed := (bound.lookup "public").getD (.bool false)
             metadata := givenDetails (get "metadata") }
  | .template =>
    return { kind := .template
             code := get "code"
             summary := get "message"
             domain := .template
             severity := arguments.severity.getD .error
             exposed := .bool false
             metadata := givenDetails (get "metadata") }
  | .sourceRead => return sourceRead (get "path") (get "reason")
  | .parse => return parse (get "name") (get "reason") (get "lineno")
  | .notFound => return notFound (get "name")
  | .execution => return execution (get "name") (get "reason")
  | .duplicate =>
    return { duplicate (get "name") (← (get "paths").joinable) with
             metadata := details [("name", get "name"), ("paths", get "paths")] }
  | .functionInvalid => return functionInvalid (get "name") (get "reason")
  | .configInvalid => return configInvalid (get "key") (get "reason")

end Fault

end PageTemplates
