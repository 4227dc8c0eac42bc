import PageTemplates.Fault
import PageTemplates.Recipe
import PageTemplates.Template.Compile
import PageTemplates.Template.Grammar.Statement

/-!
Template sets: the compiled templates that can refer to one another, by name. A set is a value, so a
clone shares nothing that could change, and an addition that fails leaves the set as it was. What a
render writes is recorded as a trace, from which every target takes what it accepts.
-/

namespace PageTemplates

/-- A template set. Each addition under a name has a version of its own. -/
structure TemplateSet where
  recipe : Recipe
  templates : List (Text × Entry)

/-- What a render writes in order, how it ends, the world it leaves, and how many filters and tests it
was refused. -/
structure Trace where
  emissions : List Emission
  failure : Option Failure
  world : World
  refusals : Nat

namespace TemplateSet

/-- The set without templates. -/
def empty (recipe : Recipe) : TemplateSet := ⟨recipe, []⟩

/-- The template of a name. -/
def get? (set : TemplateSet) (name : Text) : Option Entry := set.templates.lookup name

/-- Whether a set has a template. -/
def contains (set : TemplateSet) (name : Text) : Bool := (set.get? name).isSome

/-- How many templates there are. -/
def size (set : TemplateSet) : Nat := set.templates.length

/-- The names of the templates in order. -/
def names (set : TemplateSet) : List Text := Text.sorted (set.templates.map Prod.fst)

/-- The quoted form of a set: its names in order. -/
def quoted (set : TemplateSet) : Text :=
  "TemplateSet(" ++ (Data.list (set.names.map .text)).quoted ++ ")"

/-- The setting that templates of a set run in. -/
def setting (set : TemplateSet) : Setting :=
  Setting.empowered set.recipe.table.functions set.recipe.environment set.templates

/-- Puts an item in place of the one of the same name, or behind all others. -/
def put {Item : Type} (name : Text) (item : Item) : List (Text × Item) → List (Text × Item)
  | [] => [(name, item)]
  | (other, old) :: rest =>
    if other = name then (name, item) :: rest else (other, old) :: put name item rest

/-- The problem that a fault of compilation is. -/
def problemOf (name : Text) : Template.CompileFault → Problem
  | .source fault => .fault (.parse (.text name) (.text fault.reason) (.int fault.line))
  | .failure failure => .failure failure

/-- The failure of a path that code cannot be filed under. -/
def badPath : Failure := .wrongValue "embedded null character"

/-- Whether code can be filed under a path. -/
def fitsCode (path : Option Text) : Bool := !(path.getD []).any (· = .scalar '\x00')

/-- The program that a source comes to under a name. -/
def translated (recipe : Recipe) (name source : Text) :
    Except Template.CompileFault Template.Program :=
  let environment := recipe.environment
  let compiler : Template.Compiler :=
    { setting := Setting.empowered recipe.table.functions environment []
      name := name
      escapes := environment.escapes name }
  ((Template.parse source).mapError .source).bind (Template.compile compiler)

/-- Compiles a source under a name, with the path that the code is filed under. What is wrong with a
source is told of its path too, so that a path unfit for code comes before it. -/
def compile (recipe : Recipe) (name source : Text) (path : Option Text) :
    Except Problem Template.Program :=
  match translated recipe name source with
  | .error (.failure failure) => .error (.failure failure)
  | .error fault => if fitsCode path then .error (problemOf name fault) else .error (.failure badPath)
  | .ok program => if fitsCode path then .ok program else .error (.failure badPath)

/-- A set with a compiled template added. -/
def holding (set : TemplateSet) (name : Text) (program : Template.Program) : TemplateSet :=
  let version := match set.get? name with
    | some entry => entry.version + 1
    | none => 0
  { set with templates := put name ⟨version, program⟩ set.templates }

/-- Adds a template. -/
def add (set : TemplateSet) (name source : Text) (path : Option Text) :
    Except Problem TemplateSet := do
  return set.holding name (← compile set.recipe name source path)

/-- What names a payload gives to a template: those of a mapping, or `data` for anything else. -/
def payload (data : Value) : Run (List (Text × Value)) := do
  match data with
  | .none => return []
  | _ =>
    match ← Run.entriesOf? data with
    | some entries =>
      entries.mapM fun (key, value) => do
        match key.text? with
        | some name => return (name, value)
        | none => Run.fail (.wrongType "keywords must be strings")
    | none => return [("data", data)]

/-- Renders a template for a payload that is part of a world. -/
def trace (set : TemplateSet) (world : World) (name : Text) (entry : Entry) (data : Value) :
    Trace :=
  let action : Run Unit := do
    let given ← payload data
    Run.renderTemplate name entry (← Run.newContext name entry given)
  match (action.run set.setting).run ⟨world, [], [], 0⟩ with
  | .ok _ machine => ⟨machine.emissions.reverse, none, machine.world, machine.refusals⟩
  | .error failure machine =>
    ⟨machine.emissions.reverse, some failure, machine.world, machine.refusals⟩

/-- The whole text that a template renders to, with the world that is left. -/
def renderText (set : TemplateSet) (world : World) (name : Text) (entry : Entry) (data : Value) :
    Except Failure Text × World :=
  let trace := set.trace world name entry data
  match trace.failure with
  | some failure => (.error failure, trace.world)
  | none => (Value.joinChunks trace.world (trace.emissions.map Emission.chunk), trace.world)

end TemplateSet

end PageTemplates
