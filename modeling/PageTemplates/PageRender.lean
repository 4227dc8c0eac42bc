import PageTemplates.Response
import PageTemplates.Session
import PageTemplates.Value.Compare

/-!
Pieces of output that are no texts. Every piece is asked for its encoding, which only texts have; how
a piece of another kind fails depends on what it keeps under that name.
-/

namespace PageTemplates.Value

/-- The name under which a text has its encoding. -/
def encodingName : Text := "encode"

/-- What a thing of the host or of a template keeps under the name of the encoding. -/
def keptEncoding? (world : World) : Value → Option Value
  | .ref address =>
    match world.cell? address with
    | some (.object attributes) => attributes.lookup encodingName
    | some (.namespace entries) => lookup? world (.text encodingName) entries
    | some (.module _ _ exports) => exports.lookup encodingName
    | _ => Option.none
  | _ => Option.none

/-- The class that a value is, if it is one. -/
def classNamed? : Value → Option String
  | .builtin name =>
    if name == "lipsum" || name == "safe_range" then Option.none else some (builtinClass name)
  | .classOf name => some name
  | _ => Option.none

/-- The failure of calling what is kept under the name of the encoding. Code that is kept there is not
run. -/
def keptEncodingFailure (world : World) (kept : Value) : Failure :=
  let notRun : Failure := ⟨.unsupported, "calling " ++ encodingName ++ " is not supported"⟩
  match kept with
  | .undefined _ hint owner name cause => ⟨cause, undefinedMessage world hint owner name⟩
  | .function _ => notRun
  | .builtin _ => notRun
  | .classOf _ => notRun
  | .method _ _ => notRun
  | .blockOf .. => notRun
  | .ref address =>
    match world.cell? address with
    | some (.macroOf _) => notRun
    | some (.joiner _ _) => notRun
    | some (.loop _) => notRun
    | _ => .notCallable (className world kept)
  | _ => .notCallable (className world kept)

/-- The failure of a value that keeps nothing under the name of the encoding. -/
def noEncoding (world : World) (value : Value) : Failure :=
  match classNamed? value with
  | some name =>
    let parts := name.splitOn "."
    let shown := if ["types", "datetime"].contains (parts.headD "") then name
      else parts.getLast?.getD name
    ⟨.missingAttribute,
      "type object '" ++ Text.ofString shown ++ "' has no attribute '" ++ encodingName ++ "'"⟩
  | Option.none =>
    match value with
    | .ref address =>
      match world.cell? address with
      | some (.namespace _) => ⟨.missingAttribute, encodingName⟩
      | _ => .missingAttribute (className world value) encodingName
    | .builtin _ => .missingAttribute "function" encodingName
    | _ => .missingAttribute (className world value) encodingName

/-- The failure of asking a value that is no text for its encoding. -/
def encodingFailure (world : World) (value : Value) : Failure :=
  match undefinedFailure? world value with
  | some failure => failure
  | Option.none =>
    match keptEncoding? world value with
    | some kept => keptEncodingFailure world kept
    | Option.none => noEncoding world value

end PageTemplates.Value

/-!
Page renders: a page with the data it is rendered for. A render sets the content type first, on every
path; then comes the fault that is known already, or the fault of a page without a template, or what
the template writes, piece by piece. A failure leaves the pieces before it where they are.
-/

namespace PageTemplates

/-- A page that is to be rendered: its name, the data, the set with the number that tells it from
others, the fault that is known already, and whether the content type has been set. -/
structure PageRender where
  name : Text
  data : Payload
  found : Option (Nat × TemplateSet)
  fault : Option Fault
  announced : Bool

namespace PageRender

/-- A page that is to be rendered for data. -/
def make (name : Text) (data : Data) (found : Option (Nat × TemplateSet)) (fault : Option Fault) :
    PageRender :=
  ⟨name, .given data, found, fault, false⟩

/-- What data gives to a template, by name: the entries of a mapping, or all of it as `data`. -/
def contextOf : Data → Data
  | .none => .dict []
  | .dict entries => .dict entries
  | .mapping entries => .dict entries
  | other => .dict [(.text "data", other)]

/-- The quoted form of a page render. -/
def quoted (page : PageRender) : Text :=
  let state : Text :=
    if page.fault.isSome then "error" else if page.found.isSome then "resolved" else "unresolved"
  "RenderInstance(" ++ Text.quoted page.name ++ ", " ++ state ++ ")"

/-- The template of a page. -/
def template? (page : PageRender) : Option (Nat × TemplateSet × Entry) :=
  page.found.bind fun (number, set) => (set.get? page.name).map fun entry => (number, set, entry)

/-- How the writing of a trace ends: the response, the world at that moment, what went wrong, and
the lines for the log. -/
structure Ending where
  response : Response
  world : World
  problem : Option Problem
  lines : List LogLine

/-- The end with a fault of the render. -/
def failing (name reason : Text) (response : Response) (world : World) : Ending :=
  ⟨response, world, some (.fault (.execution (.text name) (.text reason))),
    [⟨.error, "Template '" ++ name ++ "' failed during render: " ++ reason⟩]⟩

/-- How a render ends when every piece has been written. -/
def ended (name : Text) (trace : Trace) (response : Response) : Ending :=
  match trace.failure with
  | none => ⟨response, trace.world, none, []⟩
  | some failure => failing name failure.message response trace.world

/-- Writes what a render wrote to a response, piece by piece, until one cannot be written. The end
is what follows the last piece. -/
def writeAll (name : Text) (ending : Response → Ending) : List Emission → Response → Ending
  | [], response => ending response
  | emission :: rest, response =>
    match emission.chunk.text? with
    | none =>
      let failure := emission.chunk.encodingFailure emission.world
      ⟨response, emission.world, some (.failure failure), []⟩
    | some chunk =>
      match Text.encode chunk with
      | .error fault => failing name fault.message response emission.world
      | .ok piece =>
        if response.isFull then
          ⟨response, emission.world, some response.capacity.refusal, []⟩
        else writeAll name ending rest (response.adding piece)

/-- What a render leaves: the response, the session, and what went wrong. -/
structure Outcome where
  response : Response
  session : Session
  problem : Option Problem

/-- Renders the template of a page into a response. -/
def writeTemplate (page : PageRender) (number : Nat) (set : TemplateSet) (entry : Entry)
    (session : Session) (response : Response) : PageRender × Outcome :=
  let (value, world) := page.data.placed (session.home number)
  let trace := set.trace world page.name entry value
  let ending := writeAll page.name (ended page.name trace) trace.emissions response
  ({ page with data := .held value ending.world },
    ⟨ending.response, (session.leaving number ending.world).logging ending.lines, ending.problem⟩)

/-- Writes the body of a page. -/
def writeBody (page : PageRender) (session : Session) (response : Response) :
    PageRender × Outcome :=
  match page.fault with
  | some fault => (page, ⟨response, session, some (.fault fault)⟩)
  | none =>
    match page.template? with
    | none => (page, ⟨response, session, some (.fault (.notFound (.text page.name)))⟩)
    | some (number, set, entry) => page.writeTemplate number set entry session response

/-- Sets the content type of a response. -/
def announce (page : PageRender) (response : Response) : Except Failure (PageRender × Response) := do
  return ({ page with announced := true }, ← response.writeContentType)

/-- Renders a page into a response. -/
def render (page : PageRender) (session : Session) (response : Response) : PageRender × Outcome :=
  match page.announce response with
  | .error failure => (page, ⟨response, session, some (.failure failure)⟩)
  | .ok (page, response) => page.writeBody session response

/-- Renders a page into a response a number of times, until a render fails. The content type may also be
set by itself before each render. -/
def renderTimes (announcing : Bool) :
    (times : Nat) → PageRender → Session → Response → PageRender × Outcome
  | 0, page, session, response => (page, ⟨response, session, none⟩)
  | times + 1, page, session, response =>
    let announced := if announcing then page.announce response else .ok (page, response)
    match announced with
    | .error failure => (page, ⟨response, session, some (.failure failure)⟩)
    | .ok (page, response) =>
      let (page, outcome) := page.render session response
      match outcome.problem with
      | some _ => (page, outcome)
      | none => renderTimes announcing times page outcome.session outcome.response

end PageRender

end PageTemplates
