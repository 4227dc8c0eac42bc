import PageTemplates.Data.Bytes
import PageTemplates.Data.Equal

/-!
Faults: what a host is told when templates or settings are wrong. A fault has a stable code, a
message, the domain it belongs to, a severity, and further details by name. Each kind of fault fixes
its code, domain and severity and puts its message together from what it is about.
-/

namespace PageTemplates

/-- How grave a fault is. -/
inductive Severity where
  | info
  | warn
  | error
  | fatal
  deriving DecidableEq, Inhabited

namespace Severity

/-- The name of a severity. -/
def name : Severity → String
  | .info => "info"
  | .warn => "warn"
  | .error => "error"
  | .fatal => "fatal"

/-- The severity of a name. -/
def ofName? (name : Text) : Option Severity :=
  [Severity.info, .warn, .error, .fatal].find? fun severity =>
    Text.ofString severity.name = name

end Severity

/-- The part of the work that a fault belongs to. -/
structure Domain where
  name : Text
  description : Text
  deriving DecidableEq, Inhabited

namespace Domain

/-- Finding, compiling and rendering templates. -/
def template : Domain := ⟨"template", "Template discovery, compilation and rendering"⟩

/-- Settings. -/
def config : Domain := ⟨"config", "Configuration errors"⟩

/-- The quoted form of a domain. -/
def quoted (domain : Domain) : Text := "FaultDomain(name='" ++ domain.name ++ "')"

/-- Domains are equal if their names are. -/
def equals (first second : Domain) : Bool := first.name = second.name

/-- A domain equals data that is shown as its name. -/
def equalsData (domain : Domain) (data : Data) : Bool := domain.name = data.plain

/-- How many bytes are used for each code point of a text in store: the least of 1, 2 and 4 that
holds them all. -/
def storedWidth (text : Text) : Nat :=
  if text.all fun point => point.value < 0x100 then 1
  else if text.all fun point => point.value < 0x10000 then 2
  else 4

/-- The bytes of a number, lowest first. -/
def lowBytes : (count number : Nat) → List UInt8
  | 0, _ => []
  | count + 1, number => UInt8.ofNat number :: lowBytes count (number / 256)

/-- The bytes of a text in store, from which its hash is computed. -/
def stored (text : Text) : Bytes :=
  text.flatMap fun point => lowBytes (storedWidth text) point.value

/-- The bytes of a day in store: the year from its high byte on, the month and the day. -/
def storedDate (date : Date) : Bytes :=
  (lowBytes 2 date.year).reverse ++ lowBytes 1 date.month ++ lowBytes 1 date.day

/-- The bytes of a day and time in store; the microsecond begins with its high byte. -/
def storedDateTime (time : DateTime) : Bytes :=
  storedDate time.date ++ lowBytes 1 time.hour ++ lowBytes 1 time.minute ++ lowBytes 1 time.second ++
    (lowBytes 3 time.microsecond).reverse

/-- The bytes that the hash of data is computed from, if it is computed from bytes. That of a time at
a known distance from universal time is computed from the span since a fixed day. -/
def hashedBytes? : Data → Option Bytes
  | .text value => some (stored value)
  | .markup value => some (stored value)
  | .bytes value => some value
  | .date value => some (storedDate value)
  | .datetime value => if value.offset.isNone then some (storedDateTime value) else none
  | _ => none

/-- What whole numbers are divided by, sixty-one bits that are all set; the remainder is the hash. -/
def hashModulus : Int := 0x1FFFFFFFFFFFFFFF

/-- Whether data is a number that hashes as zero. -/
def hashesAsZero : Data → Bool
  | .bool value => !value
  | .int value => value % hashModulus == 0
  | .float value => value == 0
  | _ => false

/-- Whether a text and data have the same hash. No bytes at all hash as zero; beyond that, hashes that
are computed from different things are taken never to meet. -/
def sharesHash (name : Text) (data : Data) : Bool :=
  hashedBytes? data == some (stored name) || (name.isEmpty && hashesAsZero data)

end Domain

namespace Data

mutual

/-- The class name of the part of data that makes it unfit as a key, if there is one. -/
def unhashable? : Data → Option String
  | .list _ => some "list"
  | .set _ => some "set"
  | .dict _ => some "dict"
  | .mapping _ => some "mappingproxy"
  | .object _ => some "types.SimpleNamespace"
  | .tuple items => unhashableIn? items
  | _ => Option.none

/-- The first unfit part among items. -/
def unhashableIn? : List Data → Option String
  | [] => Option.none
  | item :: items => (unhashable? item).or (unhashableIn? items)

end

end Data

/-- What stands on a side of a comparison: a domain or data. -/
inductive Operand where
  | domain (held : Domain)
  | data (held : Data)
  deriving Inhabited

namespace Operand

/-- The name of a domain, and the content of data that is a text. -/
def name? : Operand → Option Text
  | .domain held => some held.name
  | .data held => held.text?

/-- The class name of the part of an operand that has no hash, if there is one. -/
def unhashable? : Operand → Option String
  | .domain _ => none
  | .data held => held.unhashable?

/-- Whether a domain equals data, which has to be fit for printing. -/
def equalsPrinted (first : Domain) (second : Data) : Except Failure Bool :=
  second.printed.map fun _ => first.equalsData second

/-- Whether operands are equal. Data leaves the comparison with a domain to the domain. -/
def equals : Operand → Operand → Except Failure Bool
  | .domain first, .domain second => .ok (first.equals second)
  | .domain first, .data second => equalsPrinted first second
  | .data first, .domain second => equalsPrinted second first
  | .data first, .data second => .ok (first.equals second)

/-- The data whose hash an operand has: that of a domain is the hash of its name. -/
def hashed : Operand → Data
  | .domain held => .text held.name
  | .data held => held

/-- Whether a domain and an operand have the same hash; not all data has one. -/
def sharesHash (first : Domain) (second : Operand) : Except Failure Bool :=
  match second.unhashable? with
  | some className => .error (.unhashable (Text.ofString className))
  | none => .ok (Domain.sharesHash first.name second.hashed)

end Operand

/-- What a fault is about. -/
inductive FaultKind where
  | general
  | template
  | sourceRead
  | parse
  | notFound
  | execution
  | duplicate
  | functionInvalid
  | configInvalid
  deriving DecidableEq, Inhabited

namespace FaultKind

/-- The name of a kind of fault. -/
def title : FaultKind → String
  | .general => "Fault"
  | .template => "TemplateFault"
  | .sourceRead => "SourceReadFault"
  | .parse => "TemplateParseFault"
  | .notFound => "TemplateNotFoundFault"
  | .execution => "TemplateExecutionFault"
  | .duplicate => "DuplicateTemplateFault"
  | .functionInvalid => "FunctionRegistrationFault"
  | .configInvalid => "ConfigInvalidFault"

/-- Every kind of fault. -/
def all : List FaultKind :=
  [ .general, .template, .sourceRead, .parse, .notFound, .execution, .duplicate, .functionInvalid,
    .configInvalid ]

/-- The kind of fault of a name. -/
def ofTitle? (name : Text) : Option FaultKind :=
  all.find? fun kind => Text.ofString kind.title = name

/-- Whether faults of a kind are about templates. -/
def isTemplate : FaultKind → Bool
  | .general => false
  | .configInvalid => false
  | _ => true

/-- The details that can also be read from the fault itself. -/
def attributes : FaultKind → List String
  | .sourceRead => ["path"]
  | .parse => ["name", "lineno"]
  | .notFound => ["name"]
  | .execution => ["name"]
  | .duplicate => ["name"]
  | _ => []

end FaultKind

/-- A fault. `exposed` says whether clients may see it. -/
structure Fault where
  kind : FaultKind
  code : Data
  summary : Data
  domain : Domain
  severity : Severity
  exposed : Data
  metadata : Data
  deriving Inhabited

namespace Fault

/-- Details by name. -/
def details (entries : List (String × Data)) : Data :=
  .dict (entries.map fun (name, value) => (.text (Text.ofString name), value))

/-- A fault of a kind about templates. -/
def ofTemplate (kind : FaultKind) (code : String) (severity : Severity) (message : Text)
    (entries : List (String × Data)) : Fault :=
  { kind := kind
    code := .text (Text.ofString code)
    summary := .text message
    domain := .template
    severity := severity
    exposed := .bool false
    metadata := details entries }

/-- A source that cannot be listed or read. -/
def sourceRead (path reason : Data) : Fault :=
  ofTemplate .sourceRead "TEMPLATE_SOURCE_READ" .fatal
    ("Cannot read template source '" ++ path.plain ++ "': " ++ reason.plain)
    [("path", path), ("reason", reason)]

/-- A source that is no template. The line is left out of the message if there is none. -/
def parse (name reason line : Data) : Fault :=
  let location := if line.truth then name.plain ++ ":" ++ line.plain else name.plain
  ofTemplate .parse "TEMPLATE_PARSE" .fatal
    ("Cannot parse template '" ++ location ++ "': " ++ reason.plain)
    [("name", name), ("reason", reason), ("lineno", line)]

/-- A page that there is no template for. -/
def notFound (name : Data) : Fault :=
  ofTemplate .notFound "TEMPLATE_NOT_FOUND" .error
    ("Template '" ++ name.plain ++ "' not found") [("name", name)]

/-- A render that failed. -/
def execution (name reason : Data) : Fault :=
  ofTemplate .execution "TEMPLATE_EXECUTION" .error
    ("Error executing template '" ++ name.plain ++ "': " ++ reason.plain)
    [("name", name), ("reason", reason)]

/-- A name that several sources claim. -/
def duplicate (name : Data) (paths : List Text) : Fault :=
  ofTemplate .duplicate "TEMPLATE_DUPLICATE" .fatal
    ("Template name '" ++ name.plain ++ "' is claimed by several sources: " ++
      Text.join ", " paths)
    [("name", name), ("paths", .list (paths.map .text))]

/-- A function that cannot be registered. -/
def functionInvalid (name reason : Data) : Fault :=
  ofTemplate .functionInvalid "TEMPLATE_FUNCTION_INVALID" .fatal
    ("Cannot register template function '" ++ name.plain ++ "': " ++ reason.plain)
    [("name", name), ("reason", reason)]

/-- A setting with a wrong value. -/
def configInvalid (key reason : Data) : Fault :=
  { kind := .configInvalid
    code := .text "CONFIG_INVALID"
    summary := .text ("Configuration key '" ++ key.plain ++ "' is invalid: " ++ reason.plain)
    domain := .config
    severity := .fatal
    exposed := .bool false
    metadata := details [("key", key), ("reason", reason)] }

/-- The message of a fault: its code and what it says. -/
def message (fault : Fault) : Text := "[" ++ fault.code.plain ++ "] " ++ fault.summary.plain

/-- The quoted form of a fault. -/
def quoted (fault : Fault) : Text :=
  Text.ofString fault.kind.title ++ "(code=" ++ fault.code.quoted ++ ", domain=" ++
    fault.domain.name ++ ", severity=" ++ Text.ofString fault.severity.name ++ ")"

/-- The record that is logged of a fault. -/
def record (fault : Fault) : List (String × Data) :=
  [ ("code", fault.code),
    ("message", fault.summary),
    ("domain", .text fault.domain.name),
    ("severity", .text (Text.ofString fault.severity.name)),
    ("public", fault.exposed),
    ("metadata", fault.metadata) ]

/-- A detail of a fault. -/
def detail? (fault : Fault) (name : String) : Option Data :=
  match fault.metadata with
  | .dict entries =>
    entries.findSome? fun (key, value) =>
      match key with
      | .text key => if key = Text.ofString name then some value else Option.none
      | _ => Option.none
  | _ => Option.none

/-- The details that can be read from the fault itself, with their values. -/
def attributes (fault : Fault) : List (String × Data) :=
  fault.kind.attributes.filterMap fun name => (fault.detail? name).map fun value => (name, value)

end Fault

/-- What ends an operation: a fault, or a failure that none of the faults stands for. -/
inductive Problem where
  | fault (fault : Fault)
  | failure (failure : Failure)
  deriving Inhabited

namespace Problem

/-- The text of a problem. -/
def message : Problem → Text
  | .fault told => told.message
  | .failure untold => untold.message

end Problem

end PageTemplates
