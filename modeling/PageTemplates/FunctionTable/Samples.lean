import PageTemplates.FunctionTable
import PageTemplates.Value.Arithmetic
import PageTemplates.Value.Member
import PageTemplates.Value.Percent

/-!
Sample functions to try templates with: one for each shape of a signature, for each kind of answer
and for each way to fail.
-/

namespace PageTemplates.FunctionTable

open Run

/-- Calls the method of a value. -/
def callMethod (value : Value) (name : Text) (given : Given) : Run Value := do
  match ← member? value name with
  | some method => call none method given
  | none => fail (.missingAttribute (← className value) name)

/-- A sample by its name. -/
def sample (name : String) (signature : Signature) (body : Bound → Run Value) :
    String × Candidate :=
  (name, .function ⟨"catalogue.<locals>." ++ name, signature, body⟩)

/-- Plain texts of the arguments by place, then those by name in the order of the names, joined by a
separator. -/
def joinArguments (bound : Bound) : Run Value := do
  let placed ← bound.rest.mapM plain
  let sorted := bound.named.mergeSort fun first second => !Text.precedes second.1 first.1
  let named ← sorted.mapM fun (name, value) => do return name ++ "=" ++ (← plain value)
  let parts ← newList ((placed ++ named).map .text)
  callMethod (bound.get "sep") "join" (.ofList [parts])

/-- A greeting. -/
def greeting (bound : Bound) : Run Value := do
  let name ← plain (bound.get "name")
  return .text ("Hello " ++ name ++ (← plain (bound.get "punctuation")))

/-- One more with each call. -/
def countCall : Run Value := do
  let world ← world
  setWorld { world with ticks := world.ticks + 1 }
  return .int (world.ticks + 1)

/-- The samples. -/
def samples : List (String × Candidate) :=
  [ sample "shout" [.required "text"] fun bound => callMethod (bound.get "text") "upper" .none,
    sample "double" [.required "n"] fun bound => binary .mul (bound.get "n") (.int 2),
    sample "ident" [.required "x"] fun bound => return bound.get "x",
    sample "nothing" [] fun _ => return .none,
    sample "explode" [] fun _ => fail (.wrongValue "boom"),
    sample "explode_key" [] fun _ => fail (.missingKey "'missing-key'"),
    sample "explode_empty" [] fun _ => fail ⟨.failed, []⟩,
    sample "greet" [.required "name", .optional "punctuation" (.text "!")] greeting,
    sample "join_all"
      [⟨"args", .rest, none⟩, ⟨"sep", .namedOnly, some (.text ",")⟩,
        ⟨"kwargs", .restNamed, none⟩] joinArguments,
    sample "bold" [.required "text"] fun bound => do
      return .markup (← Percent.format true "<b>%s</b>" (bound.get "text")),
    sample "tick" [] fun _ => countCall,
    ("no_signature", .unreadable "no signature") ]

/-- The sample of a name. -/
def sample? (name : Text) : Option Candidate :=
  (Text.toString? name).bind fun name => samples.lookup name

end PageTemplates.FunctionTable
