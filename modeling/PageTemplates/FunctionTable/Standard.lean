import PageTemplates.FunctionTable
import PageTemplates.Value.Arithmetic
import PageTemplates.Value.AsJson
import PageTemplates.Value.Convert
import PageTemplates.Value.Member

/-!
The standard functions: JSON that can stand inside a page, dates, trusted markup, and the whole
numbers that page links need.
-/

namespace PageTemplates.FunctionTable

open Run

/-- A function by its name, with parameters that all have to be given. -/
def standardFunction (name : String) (parameters : List String) (body : Bound → Run Value) :
    Text × Function :=
  (Text.ofString name, ⟨"default_functions.<locals>." ++ name, parameters.map .required, body⟩)

/-- The JSON form of a value as markup; `null` for what has none. -/
def jsonMarkup (value : Value) : Run Value :=
  recovering (do return .markup (← AsJson.safeText false value .none))
    (fun failure => failure.cause = .wrongType || failure.cause = .wrongValue)
    fun _ => return .markup "null"

/-- How dates are written. -/
def dateFormat : Text := "%Y-%m-%d %H:%M:%S"

/-- A date or time in writing. -/
def writtenDate (value : Value) : Run Value := do
  match ← member? value "strftime" with
  | some method => call none method (.ofList [.text dateFormat])
  | none => fail (.missingAttribute (← className value) "strftime")

/-- A value as markup that is trusted as it stands. -/
def trusted (value : Value) : Run Value := do
  match value with
  | .markup _ => return value
  | .ref address =>
    match ← cell address with
    | some (.module _ body _) => return .markup (← joined body)
    | _ => return .markup (← plain value)
  | _ => return .markup (← plain value)

/-- The whole numbers from one to another, both included. -/
def sequence (start stop : Value) : Run Value := do
  if ← compared .greater start stop then newList []
  else
    let stop ← binary .add stop (.int 1)
    let start ← toIndex start
    newList (Value.rangeItems start (← toIndex stop) 1)

/-- The table of the standard functions. -/
def standard : FunctionTable where
  entries :=
    [ standardFunction "json" ["value"] fun bound => jsonMarkup (bound.get "value"),
      standardFunction "format_date" ["value"] fun bound => writtenDate (bound.get "value"),
      standardFunction "dangerously_set_inner_html" ["value"] fun bound =>
        trusted (bound.get "value"),
      standardFunction "add" ["a", "b"] fun bound => binary .add (bound.get "a") (bound.get "b"),
      standardFunction "sub" ["a", "b"] fun bound => binary .sub (bound.get "a") (bound.get "b"),
      standardFunction "seq" ["start", "end"] fun bound =>
        sequence (bound.get "start") (bound.get "end") ]

end PageTemplates.FunctionTable
