import PageTemplates.Build
import PageTemplates.PageRender

/-!
Renderers: what a host asks for pages. In release mode every page is compiled once, when the renderer
is made, and a renderer whose templates have a problem is never made. In debug mode nothing is kept:
each page asked for is compiled from the source as it is then, and a fault is kept until the render.
-/

namespace PageTemplates

/-- How a renderer works. -/
inductive Mode where
  | release
  | debug
  deriving DecidableEq

namespace Mode

/-- The name of a mode. -/
def name : Mode → String
  | .release => "release"
  | .debug => "debug"

/-- The mode of a name. -/
def ofName? (name : Text) : Option Mode :=
  [Mode.release, .debug].find? fun mode => Text.ofString mode.name = name

/-- The mode that data names. -/
def ofData (data : Data) : Except Failure Mode :=
  match data.text?.bind ofName? with
  | some mode => .ok mode
  | none => .error (.wrongValue (data.quoted ++ " is not a valid Mode"))

end Mode

/-- The page sets of a renderer by name, each with its number. -/
abbrev Registry := List (Text × Nat × TemplateSet)

/-- A renderer. In release mode it has a registry. -/
structure Renderer where
  source : Source
  recipe : Recipe
  mode : Mode
  root : Data
  extensions : List Text
  registry : Option Registry

/-- What a renderer is made with. -/
structure RendererOptions where
  table : FunctionTable
  policy : Option Policy
  mode : Mode
  root : Data
  extensions : List Text
  autoescape : Bool
  strict : Bool

namespace Session

/-- Gives numbers to page sets. -/
def numbering (session : Session) (sets : List (Text × TemplateSet)) : Registry × Session :=
  (sets.zipIdx.map fun ((name, set), place) => (name, session.sets + place, set),
    session.opening sets.length)

end Session

namespace Renderer

/-- Makes a renderer. -/
def make (options : RendererOptions) (disk : Node) (source : Source) (session : Session) :
    Except Problem (Renderer × Session) := do
  let recipe := Recipe.make options.table options.policy options.autoescape options.strict
    options.extensions
  let bare : Renderer := ⟨source, recipe, options.mode, options.root, options.extensions, none⟩
  match options.mode with
  | .debug => return (bare, session)
  | .release =>
    let root ← (Discovery.rootText options.root).mapError .failure
    let sets ← (Build.all recipe disk source root options.extensions).outcome
    let (registry, session) := session.numbering sets
    return ({ bare with registry := some registry }, session)

/-- The failure of giving a renderer another mode, which it never takes. -/
def assignMode : Failure :=
  ⟨.missingAttribute, "property 'mode' of 'PageRenderer' object has no setter"⟩

/-- The failure of giving a renderer another page set, which it never takes. -/
def assignPage (renderer : Renderer) : Failure :=
  let holder : Text := if renderer.registry.isSome then "mappingproxy" else "NoneType"
  .wrongType ("'" ++ holder ++ "' object does not support item assignment")

/-- The quoted form of a renderer. -/
def quoted (renderer : Renderer) : Text :=
  "PageRenderer(" ++ renderer.source.quoted ++ ", mode=" ++
    Text.ofString renderer.mode.name ++ ")"

/-- The names of the pages in order. In debug mode they are looked up anew. -/
def pages (renderer : Renderer) (disk : Node) : Except Problem (List Text) :=
  match renderer.registry with
  | some registry => .ok (Text.sorted (registry.map Prod.fst))
  | none => do
    let root ← (Discovery.rootText renderer.root).mapError .failure
    return (← Discovery.ofSource disk renderer.source root renderer.extensions).pages

/-- The set of a page, compiled from the source as it is. -/
def compiled (renderer : Renderer) (disk : Node) (name : Text) :
    Except Problem (Option TemplateSet) := do
  let root ← (Discovery.rootText renderer.root).mapError .failure
  (Build.one renderer.recipe disk renderer.source root renderer.extensions name).outcome

/-- A page for data. Faults of templates in debug mode are kept until the render. -/
def page (renderer : Renderer) (disk : Node) (session : Session) (name : Text) (data : Data) :
    Except Problem PageRender × Session :=
  match renderer.registry with
  | some registry => (.ok (.make name data (registry.lookup name) none), session)
  | none =>
    match renderer.compiled disk name with
    | .ok none => (.ok (.make name data none none), session)
    | .ok (some set) =>
      let (registry, session) := session.numbering [(name, set)]
      (.ok (.make name data (registry.lookup name) none), session)
    | .error (.fault fault) =>
      if fault.kind.isTemplate then
        (.ok (.make name data none (some fault)),
          session.logging
            [⟨.warning, "Deferred template fault for '" ++ name ++ "': " ++ fault.message⟩])
      else (.error (.fault fault), session)
    | .error (.failure failure) => (.error (.failure failure), session)

/-- Renders a page for data into a response, and keeps nothing of the page. -/
def render (renderer : Renderer) (disk : Node) (session : Session) (name : Text) (data : Data)
    (response : Response) : PageRender.Outcome :=
  match renderer.page disk session name data with
  | (.ok page, session) => (page.render session response).2
  | (.error problem, session) => ⟨response, session, some problem⟩

end Renderer

end PageTemplates
