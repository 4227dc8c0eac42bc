import PageTemplates.Data.Bytes
import PageTemplates.Fault
import PageTemplates.Render.Run
import PageTemplates.Signature
import PageTemplates.Text.Identifier

/-!
Functions that templates can call, and the tables that hold them. A function has a title for messages, the
signature that binds the arguments of a call, and a body. A table has functions by name and in the order of
registration. A name is checked once, when it is registered, and what was registered is never replaced; a
registration that fails leaves the table as it was.
-/

namespace PageTemplates

/-- A function. -/
structure Function where
  title : String
  signature : Signature
  body : Bound → Run Value

namespace Function

/-- Calls a function. -/
def apply (function : Function) (given : Given) : Run Value := do
  let bound ← match function.signature.bind (Text.ofString function.title) given with
    | .ok bound => pure bound
    | .error failure => Run.fail failure
  function.body bound

end Function

/-- What is offered for registration: a function, something callable whose signature cannot be read,
or data. -/
inductive Candidate where
  | function (function : Function)
  | unreadable (reason : Text)
  | data (data : Data)

/-- A function table: functions by name, and beside them the signatures that they were registered
with. -/
structure FunctionTable where
  entries : List (Text × Function)
  signatures : List (Text × Signature) :=
    entries.map fun (name, function) => (name, function.signature)
  deriving Inhabited

namespace FunctionTable

/-- The words of expressions and statements that no function can have as its name. -/
def reservedWords : List String :=
  [ "False", "None", "True", "and", "as", "assert", "async", "await", "break", "class", "continue",
    "def", "del", "elif", "else", "except", "finally", "for", "from", "global", "if", "import",
    "in", "is", "lambda", "nonlocal", "not", "or", "pass", "raise", "return", "try", "while",
    "with", "yield" ]

/-- Whether a text is a reserved word. -/
def isReserved (name : Text) : Bool := reservedWords.any fun word => Text.ofString word = name

/-- Whether functions can be registered under a name. -/
def isFunctionName (name : Text) : Bool := Text.isIdentifier name && !isReserved name

/-- The name that data gives to a function. -/
def functionName? : Data → Option Text
  | .text name => if isFunctionName name then some name else none
  | .markup name => if isFunctionName name then some name else none
  | _ => none

/-- The table without functions. -/
def empty : FunctionTable := ⟨[], []⟩

/-- The function of a name. -/
def get? (table : FunctionTable) (name : Text) : Option Function := table.entries.lookup name

/-- Whether a table has a name. -/
def contains (table : FunctionTable) (name : Text) : Bool := (table.get? name).isSome

/-- How many functions there are. -/
def size (table : FunctionTable) : Nat := table.entries.length

/-- The names in the order of registration. -/
def registered (table : FunctionTable) : List Text := table.entries.map Prod.fst

/-- The names in order. -/
def names (table : FunctionTable) : List Text := Text.sorted table.registered

/-- The signature of the function of a name. -/
def signature? (table : FunctionTable) (name : Text) : Option Signature :=
  table.signatures.lookup name

/-- The quoted form of a table: its names in order. -/
def quoted (table : FunctionTable) : Text :=
  "FunctionTable(" ++ (Data.list (table.names.map .text)).quoted ++ ")"

/-- The fault of registering under a name, with its reason. -/
def invalid {Result : Type} (name : Data) (reason : Text) : Except Problem Result :=
  .error (.fault (.functionInvalid name (.text reason)))

/-- Registers what is offered under a name. A name that is none is told of as it is printed, and what
cannot be printed fails like that instead. -/
def register (table : FunctionTable) (name : Data) (offered : Candidate) :
    Except Problem FunctionTable :=
  match functionName? name with
  | none =>
    match name.printed with
    | .ok shown => invalid (.text shown) "name must be a valid identifier"
    | .error failure => .error (.failure failure)
  | some known =>
    if table.contains known then invalid name "name is already registered"
    else
      match offered with
      | .data data => invalid name ("expected a callable, got " ++ Text.ofString data.className)
      | .unreadable reason => invalid name ("signature is not introspectable: " ++ reason)
      | .function function =>
        .ok ⟨table.entries ++ [(known, function)],
          table.signatures ++ [(known, function.signature)]⟩

/-- The table of all that is offered, or the problem of the first that cannot be registered. -/
def ofList (offered : List (Data × Candidate)) : Except Problem FunctionTable :=
  offered.foldlM (fun table (name, candidate) => table.register name candidate) empty

/-- The functions by place. -/
def functions (table : FunctionTable) : Array Function := (table.entries.map Prod.snd).toArray

/-- The names with the values that templates see under them. -/
def globals (table : FunctionTable) : List (Text × Value) :=
  table.entries.zipIdx.map fun ((name, _), place) => (name, .function place)

end FunctionTable

end PageTemplates
