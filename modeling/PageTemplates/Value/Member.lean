import PageTemplates.Value.Iterate

/-!
The members of values: what stands after a point. A member is a value at hand or a method, which is
a value to be called later. Which methods a value has is listed here; what they do is in the modules
of their classes.
-/

namespace PageTemplates

namespace Value

/-- The methods of texts. -/
def textMethods : List String :=
  ["capitalize", "casefold", "center", "count", "encode", "endswith", "expandtabs", "find",
    "format", "format_map", "index", "isalnum", "isalpha", "isascii", "isdecimal", "isdigit",
    "isidentifier", "islower", "isnumeric", "isprintable", "isspace", "istitle", "isupper", "join",
    "ljust", "lower", "lstrip", "maketrans", "partition", "removeprefix", "removesuffix",
    "replace", "rfind", "rindex", "rjust", "rpartition", "rsplit", "rstrip", "split",
    "splitlines", "startswith", "strip", "swapcase", "title", "translate", "upper", "zfill"]

/-- The methods that markup has beside those of texts. -/
def markupMethods : List String := ["unescape", "striptags", "escape"]

/-- The methods of byte strings. -/
def bytesMethods : List String :=
  ["decode", "hex", "capitalize", "center", "count", "endswith", "expandtabs", "find", "fromhex",
    "index", "isalnum", "isalpha", "isascii", "isdigit", "islower", "isspace", "istitle",
    "isupper", "join", "ljust", "lower", "lstrip", "maketrans", "partition", "removeprefix",
    "removesuffix", "replace", "rfind", "rindex", "rjust", "rpartition", "rsplit", "rstrip",
    "split", "splitlines", "startswith", "strip", "swapcase", "title", "translate", "upper",
    "zfill"]

/-- The methods of whole numbers and truth values. -/
def intMethods : List String :=
  ["as_integer_ratio", "bit_count", "bit_length", "conjugate", "from_bytes", "to_bytes"]

/-- The methods of floating-point numbers. -/
def floatMethods : List String :=
  ["as_integer_ratio", "conjugate", "fromhex", "hex", "is_integer"]

/-- The methods of lists. -/
def listMethods : List String :=
  ["append", "clear", "copy", "count", "extend", "index", "insert", "pop", "remove", "reverse",
    "sort"]

/-- The methods of tuples. -/
def tupleMethods : List String := ["count", "index"]

/-- The methods of dictionaries. -/
def dictMethods : List String :=
  ["clear", "copy", "fromkeys", "get", "items", "keys", "pop", "popitem", "setdefault", "update",
    "values"]

/-- The methods of read-only mappings. -/
def mappingMethods : List String := ["copy", "get", "items", "keys", "values"]

/-- The methods of sets. -/
def setMethods : List String :=
  ["add", "clear", "copy", "difference", "difference_update", "discard", "intersection",
    "intersection_update", "isdisjoint", "issubset", "issuperset", "pop", "remove",
    "symmetric_difference", "symmetric_difference_update", "union", "update"]

/-- The methods of dates. -/
def dateMethods : List String :=
  ["ctime", "fromisocalendar", "fromisoformat", "fromordinal", "fromtimestamp", "isocalendar",
    "isoformat", "isoweekday", "replace", "strftime", "timetuple", "today", "toordinal", "weekday"]

/-- The methods that dates with times have beside those of dates. -/
def dateTimeMethods : List String :=
  ["astimezone", "combine", "date", "dst", "now", "strptime", "time", "timestamp", "timetz",
    "tzname", "utcfromtimestamp", "utcnow", "utcoffset", "utctimetuple"]

/-- The internal members that every value has. -/
def commonSpecials : List String :=
  ["__class__", "__doc__", "__init__", "__repr__", "__str__", "__eq__", "__ne__", "__lt__",
    "__le__", "__gt__", "__ge__", "__hash__", "__new__", "__reduce__", "__reduce_ex__",
    "__getattribute__", "__setattr__", "__delattr__", "__format__", "__sizeof__", "__dir__",
    "__init_subclass__", "__subclasshook__", "__getstate__"]

/-- The internal members of sequences. -/
def sequenceSpecials : List String :=
  ["__len__", "__iter__", "__getitem__", "__contains__", "__add__", "__mul__", "__rmul__"]

/-- The internal members of mappings. -/
def mappingSpecials : List String :=
  ["__len__", "__iter__", "__getitem__", "__contains__", "__or__", "__ror__", "__reversed__",
    "__class_getitem__"]

/-- The internal members of numbers. -/
def numberSpecials : List String :=
  ["__abs__", "__add__", "__bool__", "__ceil__", "__divmod__", "__float__", "__floor__",
    "__floordiv__", "__int__", "__mod__", "__mul__", "__neg__", "__pos__", "__pow__", "__radd__",
    "__rmul__", "__round__", "__rsub__", "__sub__", "__truediv__", "__trunc__"]

/-- The internal members of functions and methods. -/
def functionSpecials : List String :=
  ["__name__", "__qualname__", "__module__", "__globals__", "__code__", "__closure__",
    "__defaults__", "__kwdefaults__", "__dict__", "__call__", "__get__", "__annotations__",
    "__builtins__", "__self__", "__func__"]

/-- The internal members of classes. -/
def classSpecials : List String :=
  ["__name__", "__qualname__", "__module__", "__mro__", "__bases__", "__base__", "__dict__",
    "__call__", "__subclasses__", "__init__", "__flags__", "__basicsize__", "__instancecheck__",
    "__subclasscheck__", "__prepare__", "__text_signature__", "__weakrefoffset__",
    "__dictoffset__", "__itemsize__"]

/-- The internal members of objects of library classes. -/
def objectSpecials : List String := ["__dict__", "__module__", "__weakref__", "__annotations__"]

/-- The internal members that a value has beside the common ones. -/
def specials (world : World) : Value → List String
  | .text _ => "__mod__" :: "__rmod__" :: "__getnewargs__" :: sequenceSpecials
  | .markup _ =>
    "__html__" :: "__html_format__" :: "__mod__" :: "__radd__" :: "__dict__" :: "__module__" ::
      sequenceSpecials
  | .bytes _ => sequenceSpecials
  | .tuple _ => sequenceSpecials
  | .group _ _ => "__dict__" :: "__module__" :: sequenceSpecials
  | .range _ _ _ => ["__len__", "__iter__", "__getitem__", "__contains__", "__reversed__", "__bool__"]
  | .int _ => "__index__" :: "__invert__" :: "__and__" :: "__or__" :: "__xor__" :: numberSpecials
  | .bool _ => "__index__" :: "__invert__" :: "__and__" :: "__or__" :: "__xor__" :: numberSpecials
  | .float _ => numberSpecials
  | .none => ["__bool__"]
  | .date _ => ["__add__", "__sub__", "__radd__", "__rsub__"]
  | .datetime _ => ["__add__", "__sub__", "__radd__", "__rsub__"]
  | .function _ => functionSpecials
  | .method _ _ => functionSpecials
  | .builtin name => if name == "lipsum" then functionSpecials else classSpecials
  | .classOf _ => classSpecials
  | .view _ _ => ["__len__", "__iter__", "__contains__"]
  | .template _ => "__getitem__" :: objectSpecials
  | .blockOf _ _ _ => "__call__" :: objectSpecials
  | .undefined .. =>
    ["__add__", "__bool__", "__call__", "__getattr__", "__getitem__", "__iter__", "__len__",
      "__module__", "__slots__"]
  | .ref address =>
    match world.cell? address with
    | some (.list _) => "__setitem__" :: "__delitem__" :: "__iadd__" :: sequenceSpecials
    | some (.dict _) => "__setitem__" :: "__delitem__" :: mappingSpecials
    | some (.set _) => ["__len__", "__iter__", "__contains__", "__and__", "__or__", "__sub__"]
    | some (.mapping _) => mappingSpecials
    | some (.object _) => ["__dict__"]
    | some (.iterator _ _) => ["__iter__", "__next__"]
    | some (.loop _) => "__iter__" :: "__next__" :: "__len__" :: "__call__" :: objectSpecials
    | some (.module _ _ _) => "__html__" :: "__name__" :: objectSpecials
    | some (.macroOf _) => "__call__" :: objectSpecials
    | some (.joiner _ _) => "__call__" :: objectSpecials
    | some (.namespace _) => []
    | _ => objectSpecials
  | _ => []

/-- The methods of a value. -/
def methodsOf (world : World) : Value → List String
  | .text _ => textMethods
  | .markup _ => textMethods ++ markupMethods
  | .bytes _ => bytesMethods
  | .int _ => intMethods
  | .bool _ => intMethods
  | .float _ => floatMethods
  | .tuple _ => tupleMethods
  | .group _ _ => tupleMethods
  | .range _ _ _ => tupleMethods
  | .date _ => dateMethods
  | .datetime _ => dateMethods ++ dateTimeMethods
  | .view .values _ => []
  | .view _ _ => ["isdisjoint"]
  | .slice _ _ _ => ["indices"]
  | .builtin "dict" => ["fromkeys"]
  | .ref address =>
    match world.cell? address with
    | some (.list _) => listMethods
    | some (.dict _) => dictMethods
    | some (.set _) => setMethods
    | some (.mapping _) => mappingMethods
    | some (.cycler _ _) => ["next", "reset"]
    | some (.loop _) => ["cycle", "changed"]
    | some (.iterator "generator" _) => ["close", "send", "throw"]
    | _ => []
  | _ => []

/-- The full name of the class of a value for its printed form. -/
def fullClass (world : World) (value : Value) : String :=
  let (home, name) := classOfValue world value
  if home.isEmpty then name else home ++ "." ++ name

/-- Members of dates and times. -/
def dateMember? (date : Date) : String → Option Value
  | "year" => some (.int date.year)
  | "month" => some (.int date.month)
  | "day" => some (.int date.day)
  | "min" => some (.date ⟨1, 1, 1⟩)
  | "max" => some (.date ⟨9999, 12, 31⟩)
  | _ => Option.none

/-- Members of times of day. -/
def timeMember? (time : DateTime) : String → Option Value
  | "hour" => some (.int time.hour)
  | "minute" => some (.int time.minute)
  | "second" => some (.int time.second)
  | "microsecond" => some (.int time.microsecond)
  | "tzinfo" => if time.offset.isNone then some .none else Option.none
  | "fold" => some (.int 0)
  | name => dateMember? time.date name

end Value

namespace Run

/-- The members of a loop's own object. -/
def loopMember? (address : Ref) (state : LoopState) (name : String) : Run (Option Value) := do
  let undefinedWith (hint : Text) : Run Value := do
    return .undefined (← environment).strict (some hint) none none .undefinedName
  match name with
  | "index" => return some (.int (state.index + 1))
  | "index0" => return some (.int state.index)
  | "length" => return some (.int (← loopLength address state))
  | "revindex" => return some (.int (Int.ofNat (← loopLength address state) - state.index))
  | "revindex0" => return some (.int (Int.ofNat (← loopLength address state) - state.index - 1))
  | "first" => return some (.bool (state.index == 0))
  | "last" => return some (.bool (← loopAhead address state).isNone)
  | "depth" => return some (.int (state.depth + 1))
  | "depth0" => return some (.int state.depth)
  | "previtem" =>
    if state.index == 0 then return some (← undefinedWith "there is no previous item")
    else return some (state.before.getD .missing)
  | "nextitem" =>
    match ← loopAhead address state with
    | some item => return some item
    | none => return some (← undefinedWith "there is no next item")
  | "_iterable" => return some state.source
  | "_recurse" => return some .none
  | "_length" => return some .none
  | "_current" => return some (state.current.getD .missing)
  | "_before" => return some (state.before.getD .missing)
  | "_after" => return some (state.ahead.getD .missing)
  | _ => return none

/-- A value that is undefined because a block has none below it. -/
def noParentBlock (name : String) : Run Value := do
  return .undefined (← environment).strict
    (some ("there is no parent block called " ++ Text.quoted (Text.ofString name) ++ "."))
    none (some (.text "super")) .undefinedName

/-- The block below a place in the chain of a name's blocks. -/
def blockBelow (name : String) (context : Ref) (depth : Nat) : Run Value := do
  match ← cell context with
  | some (.context state) =>
    let chain := (state.blocks.lookup name).getD []
    if depth + 1 < chain.length then return .blockOf name context (depth + 1)
    else noParentBlock name
  | _ => noParentBlock name

/-- The members of a thing in the world. -/
def cellMember? (address : Ref) (content : Cell) (name : String) : Run (Option Value) := do
  match content with
  | .object attributes => return attributes.lookup (Text.ofString name)
  | .explosive =>
    if name == "value" then fail ⟨.failed, "data access failed"⟩ else return none
  | .namespace entries =>
    return Value.lookup? (← world) (.text (Text.ofString name)) entries
  | .cycler items place =>
    match name with
    | "items" => return some (.tuple items)
    | "pos" => return some (.int place)
    | "current" => return items[place]?
    | _ => return none
  | .joiner separator used =>
    match name with
    | "sep" => return some separator
    | "used" => return some (.bool used)
    | _ => return none
  | .loop state => loopMember? address state name
  | .module templateName _ exports =>
    match exports.lookup (Text.ofString name) with
    | some value => return some value
    | none => return if name == "__name__" then some (.text templateName) else none
  | .macroOf state =>
    match name with
    | "name" =>
      return some ((state.code.name.map fun name => Value.text (Text.ofString name)).getD .none)
    | "arguments" =>
      return some (.tuple (state.code.parameters.map fun name => .text (Text.ofString name)))
    | "catch_kwargs" => return some (.bool state.code.takesNamed)
    | "catch_varargs" => return some (.bool state.code.takesRest)
    | "caller" => return some (.bool state.code.takesCaller)
    | "explicit_caller" => return some (.bool (state.code.parameters.contains "caller"))
    | _ => return none
  | _ => return none

/-- The members of a value that are at hand. -/
def plainMember? (value : Value) (name : String) : Run (Option Value) := do
  match value with
  | .int _ =>
    match name with
    | "real" => return some value
    | "numerator" => return some value
    | "imag" => return some (.int 0)
    | "denominator" => return some (.int 1)
    | _ => return none
  | .bool flag =>
    let number : Value := .int (if flag then 1 else 0)
    match name with
    | "real" => return some number
    | "numerator" => return some number
    | "imag" => return some (.int 0)
    | "denominator" => return some (.int 1)
    | _ => return none
  | .float _ =>
    match name with
    | "real" => return some value
    | "imag" => return some (.float 0)
    | _ => return none
  | .date date => return Value.dateMember? date name
  | .datetime time => return Value.timeMember? time name
  | .group key members =>
    match name with
    | "grouper" => return some key
    | "list" => return some members
    | _ => return none
  | .range start stop step =>
    match name with
    | "start" => return some (.int start)
    | "stop" => return some (.int stop)
    | "step" => return some (.int step)
    | _ => return none
  | .slice start stop step =>
    match name with
    | "start" => return some start
    | "stop" => return some stop
    | "step" => return some step
    | _ => return none
  | .blockOf block context depth =>
    match name with
    | "super" => return some (← blockBelow block context depth)
    | "name" => return some (.text (Text.ofString block))
    | _ => return none
  | .classOf full =>
    match name with
    | "__name__" =>
      return some (.text (Text.ofString ((full.splitOn ".").getLast?.getD full)))
    | "__qualname__" =>
      return some (.text (Text.ofString ((full.splitOn ".").getLast?.getD full)))
    | "__module__" =>
      let home := ".".intercalate (full.splitOn ".").dropLast
      return some (.text (Text.ofString (if home.isEmpty then "builtins" else home)))
    | _ => return none
  | .builtin known =>
    match name with
    | "__name__" => return some (.text (Text.ofString known))
    | _ => return none
  | .ref address =>
    match ← cell address with
    | some content => cellMember? address content name
    | none => return none
  | _ => return none

/-- A member of a value, if the value has it. -/
def member? (value : Value) (name : Text) : Run (Option Value) := do
  match Text.toString? name with
  | none =>
    match value with
    | .ref address =>
      match ← cell address with
      | some (.object attributes) => return attributes.lookup name
      | _ => return none
    | _ => return none
  | some known =>
    match ← plainMember? value known with
    | some found => return some found
    | none =>
      let world ← world
      if (Value.methodsOf world value).contains known then return some (.method value known)
      else if known == "__class__" then return some (.classOf (Value.fullClass world value))
      else if (Value.specials world value).contains known then return some (.method value known)
      else
        let hidden := match value with
          | .ref address =>
            match world.cell? address with
            | some (.namespace _) => true
            | _ => false
          | _ => false
        if !hidden && Value.commonSpecials.contains known then return some (.method value known)
        else if value.isUndefined && !known.startsWith "__" then
          failIfUndefined value
          return none
        else return none

end Run

end PageTemplates
