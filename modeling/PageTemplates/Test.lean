import PageTemplates.Rule

/-!
Tests: questions about a value that are true or false.
-/

namespace PageTemplates.Test

open Run Rule

/-- A test of a value alone. -/
def simple (title : String) (test : Value → Run Bool) : Rule :=
  plain title .nothing [.required "value"] fun bound => do
    return .bool (← test (bound.get "value"))

/-- Whether the remainder of a division is a given one. -/
def hasRemainder (value divisor : Value) (rest : Int) : Run Bool := do
  equal (← binary .mod value divisor) (.int rest)

/-- Whether a value has a length and items. -/
def isSequence (value : Value) : Run Bool := do
  match value with
  | .undefined strict .. => return !strict
  | .view _ _ => return false
  | .ref address =>
    match ← cell address with
    | some (.list _) => return true
    | some (.dict _) => return true
    | some (.mapping _) => return true
    | _ => return false
  | other => return (other.length? (← world)).isSome

/-- Whether a value can be gone through. -/
def isIterable (value : Value) : Run Bool := do
  recovering (do
    let _ ← iterate value
    return true) (fun failure => failure.cause = .wrongType) fun _ => return false

/-- Whether a value can be called. -/
def isCallable (value : Value) : Run Bool := do
  match value with
  | .function _ => return true
  | .builtin _ => return true
  | .classOf _ => return true
  | .method _ _ => return true
  | .blockOf .. => return true
  | .undefined .. => return true
  | .ref address =>
    match ← cell address with
    | some (.macroOf _) => return true
    | some (.joiner _ _) => return true
    | some (.loop _) => return true
    | _ => return false
  | _ => return false

/-- Whether a value is a mapping. -/
def isMapping (value : Value) : Run Bool := do return (← entriesOf? value).isSome

/-- Whether a value is one of some names. -/
def isNamed (names : List String) (value : Value) : Run Bool := do
  requireHashable value
  match value.text? with
  | some text => return names.any fun name => Text.ofString name = text
  | none => return false

/-- A comparison as a test. -/
def comparison (title : String) (operator : Template.CompareOperator) : Rule :=
  ⟨title, .nothing, .fixed "_operator." 2 .expected, fun _ bound => do
    return .bool (← compared operator (bound.get "first") (bound.get "second"))⟩

/-- The tests by name. -/
def rules : List (String × Rule) :=
  [ ("odd", simple "test_odd" fun value => hasRemainder value (.int 2) 1),
    ("even", simple "test_even" fun value => hasRemainder value (.int 2) 0),
    ("divisibleby", plain "test_divisibleby" .nothing [.required "value", .required "num"]
      fun bound => do return .bool (← hasRemainder (bound.get "value") (bound.get "num") 0)),
    ("defined", simple "test_defined" fun value => return !value.isUndefined),
    ("undefined", simple "test_undefined" fun value => return value.isUndefined),
    ("filter", plain "test_filter" .environment [.required "value"] fun bound => do
      return .bool (← isNamed (← environment).filters (bound.get "value"))),
    ("test", plain "test_test" .environment [.required "value"] fun bound => do
      return .bool (← isNamed (← environment).tests (bound.get "value"))),
    ("none", simple "test_none" fun value =>
      match value with
      | .none => return true
      | _ => return false),
    ("boolean", simple "test_boolean" fun value =>
      match value with
      | .bool _ => return true
      | _ => return false),
    ("false", simple "test_false" fun value =>
      match value with
      | .bool flag => return !flag
      | _ => return false),
    ("true", simple "test_true" fun value =>
      match value with
      | .bool flag => return flag
      | _ => return false),
    ("integer", simple "test_integer" fun value =>
      match value with
      | .int _ => return true
      | _ => return false),
    ("float", simple "test_float" fun value =>
      match value with
      | .float _ => return true
      | _ => return false),
    ("lower", simple "test_lower" fun value => do return Text.allLower (← Run.plain value)),
    ("upper", simple "test_upper" fun value => do return Text.allUpper (← Run.plain value)),
    ("string", simple "test_string" fun value => return value.text?.isSome),
    ("mapping", simple "test_mapping" isMapping),
    ("number", simple "test_number" fun value => return value.magnitude?.isSome),
    ("sequence", simple "test_sequence" isSequence),
    ("iterable", simple "test_iterable" isIterable),
    ("callable", ⟨"callable", .nothing, .fixed "" 1 .exactly, fun _ bound => do
      return .bool (← isCallable (bound.get "first"))⟩),
    ("sameas", plain "test_sameas" .nothing [.required "value", .required "other"] fun bound => do
      return .bool (Value.isSame (← world) (bound.get "value") (bound.get "other"))),
    ("escaped", simple "test_escaped" hasMarkup),
    ("in", plain "test_in" .nothing [.required "value", .required "seq"] fun bound => do
      return .bool (← contains (bound.get "seq") (bound.get "value"))),
    ("==", comparison "eq" .equal),
    ("eq", comparison "eq" .equal),
    ("equalto", comparison "eq" .equal),
    ("!=", comparison "ne" .notEqual),
    ("ne", comparison "ne" .notEqual),
    (">", comparison "gt" .greater),
    ("gt", comparison "gt" .greater),
    ("greaterthan", comparison "gt" .greater),
    (">=", comparison "ge" .greaterEqual),
    ("ge", comparison "ge" .greaterEqual),
    ("<", comparison "lt" .less),
    ("lt", comparison "lt" .less),
    ("lessthan", comparison "lt" .less),
    ("<=", comparison "le" .lessEqual),
    ("le", comparison "le" .lessEqual) ]

end PageTemplates.Test
