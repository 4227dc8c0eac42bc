import PageTemplates.World

/-!
The kinds of values by the names that messages use: the name of a class, and its full name with the
module it belongs to.
-/

namespace PageTemplates.Value

/-- The module and the name of the class of a thing. -/
def cellClass : Cell → String × String
  | .list _ => ("", "list")
  | .dict _ => ("", "dict")
  | .set _ => ("", "set")
  | .mapping _ => ("", "mappingproxy")
  | .object _ => ("types", "SimpleNamespace")
  | .sealed => ("__main__", "Opaque")
  | .explosive => ("__main__", "Explosive")
  | .iterator kind _ => ("", kind)
  | .namespace _ => ("jinja2.utils", "Namespace")
  | .cycler _ _ => ("jinja2.utils", "Cycler")
  | .joiner _ _ => ("jinja2.utils", "Joiner")
  | .loop _ => ("jinja2.runtime", "LoopContext")
  | .module _ _ _ => ("jinja2.environment", "TemplateModule")
  | .macroOf _ => ("jinja2.runtime", "Macro")
  | .context _ => ("jinja2.runtime", "Context")
  | .activation _ => ("", "frame")

/-- The module and the name of the class of a value; classes of the language have no module. -/
def classOfValue (world : World) : Value → String × String
  | .none => ("", "NoneType")
  | .bool _ => ("", "bool")
  | .int _ => ("", "int")
  | .float _ => ("", "float")
  | .text _ => ("", "str")
  | .markup _ => ("markupsafe", "Markup")
  | .bytes _ => ("", "bytes")
  | .date _ => ("datetime", "date")
  | .datetime _ => ("datetime", "datetime")
  | .tuple _ => ("", "tuple")
  | .group _ _ => ("jinja2.filters", "_GroupTuple")
  | .range _ _ _ => ("", "range")
  | .slice _ _ _ => ("", "slice")
  | .undefined strict _ _ _ _ =>
    ("jinja2.runtime", if strict then "StrictUndefined" else "Undefined")
  | .missing => ("jinja2.utils", "MissingType")
  | .function _ => ("", "function")
  | .builtin name => ("", if name == "lipsum" then "function" else "type")
  | .classOf _ => ("", "type")
  | .method receiver _ =>
    match receiver with
    | .ref address =>
      match world.cell? address with
      | some (.list _) => ("", "builtin_function_or_method")
      | some (.dict _) => ("", "builtin_function_or_method")
      | _ => ("", "method")
    | .markup _ => ("", "method")
    | _ => ("", "builtin_function_or_method")
  | .view .keys _ => ("", "dict_keys")
  | .view .values _ => ("", "dict_values")
  | .view .items _ => ("", "dict_items")
  | .template _ => ("jinja2.runtime", "TemplateReference")
  | .blockOf _ _ _ => ("jinja2.runtime", "BlockReference")
  | .ref address => ((world.cell? address).map cellClass).getD ("", "object")

/-- The bare name of the class of a value. -/
def bareClassName (world : World) (value : Value) : Text :=
  Text.ofString (classOfValue world value).2

/-- The name of the class of a value as operators and built-in functions say it: records and dates
are named with their module. -/
def className (world : World) (value : Value) : Text :=
  let (home, name) := classOfValue world value
  Text.ofString (if ["types", "datetime"].contains home then home ++ "." ++ name else name)

/-- The name of the class of a value with its module. -/
def fullClassName (world : World) (value : Value) : Text :=
  let (home, name) := classOfValue world value
  Text.ofString (if home.isEmpty then name else home ++ "." ++ name)

/-- How messages call a value that lacks something: nothing by its name, all else by its class. -/
def described (world : World) (value : Value) : Text :=
  match value with
  | .none => "None"
  | other => fullClassName world other ++ " object"

end PageTemplates.Value
