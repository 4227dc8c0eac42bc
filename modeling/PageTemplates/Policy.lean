import PageTemplates.Data.Equal
import PageTemplates.Filter
import PageTemplates.FunctionTable

/-!
Sandbox policies: which filters, tests and global names the templates of a set may use, and whether
they may change lists and dictionaries. A policy allows a name if it is on the list of its kind, or
if the policy keeps every name of that kind.
-/

namespace PageTemplates

/-- A sandbox policy. -/
structure Policy where
  keepsFilters : Bool
  keepsTests : Bool
  keepsGlobals : Bool
  filters : List Text
  tests : List Text
  globals : List Text
  immutable : Bool
  deriving Inhabited

namespace Policy

/-- The filters on the list of a policy that names none. -/
def usualFilters : List String :=
  [ "abs", "attr", "batch", "capitalize", "center", "default", "d", "dictsort", "e", "escape",
    "filesizeformat", "first", "float", "forceescape", "format", "groupby", "indent", "int", "join",
    "last", "length", "count", "list", "lower", "map", "max", "min", "reject", "rejectattr",
    "replace", "reverse", "round", "safe", "select", "selectattr", "slice", "sort", "string",
    "striptags", "sum", "title", "trim", "truncate", "unique", "upper", "urlencode", "urlize",
    "wordcount", "wordwrap", "xmlattr" ]

/-- The tests on the list of a policy that names none. -/
def usualTests : List String :=
  [ "boolean", "callable", "defined", "divisibleby", "eq", "even", "false", "ge", "gt", "in",
    "iterable", "le", "lower", "lt", "mapping", "ne", "none", "number", "odd", "sameas", "sequence",
    "string", "true", "undefined", "upper" ]

/-- The global names on the list of a policy that names none. -/
def usualGlobals : List String := ["range", "dict", "cycler", "joiner", "namespace"]

/-- The policy with the usual lists. -/
def usual : Policy where
  keepsFilters := false
  keepsTests := false
  keepsGlobals := false
  filters := usualFilters.map Text.ofString
  tests := usualTests.map Text.ofString
  globals := usualGlobals.map Text.ofString
  immutable := false

/-- The policy for production: the usual lists, and nothing may be changed. -/
def strict : Policy := { usual with immutable := true }

/-- Adds a name to a list if it is not on it. -/
def adding (name : Text) (names : List Text) : List Text :=
  if List.contains names name then names else names ++ [name]

/-- Adds names to a list. -/
def addingAll (names listed : List Text) : List Text :=
  names.foldl (fun so name => adding name so) listed

/-- The policy for development: a few more names. -/
def permissive : Policy :=
  { usual with
    filters := addingAll ["tojson", "pprint"] usual.filters
    globals := adding "lipsum" usual.globals }

/-- Whether a filter is allowed. -/
def allowsFilter (policy : Policy) (name : Text) : Bool :=
  policy.keepsFilters || List.contains policy.filters name

/-- Whether a test is allowed. -/
def allowsTest (policy : Policy) (name : Text) : Bool :=
  policy.keepsTests || List.contains policy.tests name

/-- Whether a global name is allowed. -/
def allowsGlobal (policy : Policy) (name : Text) : Bool :=
  policy.keepsGlobals || List.contains policy.globals name

/-- A policy that also allows further global names. -/
def registering (policy : Policy) (names : List Text) : Policy :=
  { policy with globals := addingAll names policy.globals }

/-- A policy that also allows further names of every kind. -/
def extending (policy : Policy) (names : List Text) : Policy :=
  { policy with
    filters := addingAll names policy.filters
    tests := addingAll names policy.tests
    globals := addingAll names policy.globals }

/-- The names that data lists. -/
def namesOf : Data → List Text
  | .list items => items.filterMap Data.text?
  | _ => []

/-- Sets the field of a name; a name that starts with a plus sign adds to the list of the field. -/
def withField (policy : Policy) (name : Text) (value : Data) : Except Failure Policy :=
  let flag := value.truth
  let names := addingAll (namesOf value) []
  match Text.toString? name with
  | some "allow_unsafe_filters" => .ok { policy with keepsFilters := flag }
  | some "allow_unsafe_tests" => .ok { policy with keepsTests := flag }
  | some "allow_unsafe_globals" => .ok { policy with keepsGlobals := flag }
  | some "immutable" => .ok { policy with immutable := flag }
  | some "allowed_filters" => .ok { policy with filters := names }
  | some "allowed_tests" => .ok { policy with tests := names }
  | some "allowed_globals" => .ok { policy with globals := names }
  | some "+allowed_filters" => .ok { policy with filters := addingAll names policy.filters }
  | some "+allowed_tests" => .ok { policy with tests := addingAll names policy.tests }
  | some "+allowed_globals" => .ok { policy with globals := addingAll names policy.globals }
  | _ =>
    .error (.wrongType ("SandboxPolicy.__init__() got an unexpected keyword argument '" ++ name ++ "'"))

/-- The policy that fields give: those that are set first, then those that are added to. -/
def ofFields (fields : List (Text × Data)) : Except Failure Policy :=
  let (added, assigned) := fields.partition fun (name, _) => Text.startsWith name "+"
  (assigned ++ added).foldlM (fun policy (name, value) => policy.withField name value) usual

/-- The fields of a policy by name, the lists in order. -/
def record (policy : Policy) : List (String × Data) :=
  let listed (names : List Text) : Data := .list ((Text.sorted names).map .text)
  [ ("allow_unsafe_filters", .bool policy.keepsFilters),
    ("allow_unsafe_tests", .bool policy.keepsTests),
    ("allow_unsafe_globals", .bool policy.keepsGlobals),
    ("allowed_filters", listed policy.filters), ("allowed_tests", listed policy.tests),
    ("allowed_globals", listed policy.globals), ("immutable", .bool policy.immutable) ]

/-- The name of the guard that a policy asks for. -/
def guard (policy : Policy) : Guard := if policy.immutable then .immutable else .guarded

end Policy

end PageTemplates
