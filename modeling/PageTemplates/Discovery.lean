import PageTemplates.Data.Equal
import PageTemplates.Source

/-!
Discovery: which templates a source has. Those below the templates root are named by the rest of
their path; the first part of the name tells layouts and partials from pages. Two paths must not
come to the same name.
-/

namespace PageTemplates

/-- What a template is for. -/
inductive Role where
  | layout
  | partialRole
  | page
  deriving DecidableEq

namespace Role

/-- The name of a role. -/
def name : Role → String
  | .layout => "layout"
  | .partialRole => "partial"
  | .page => "page"

/-- How the names of layouts start. -/
def layoutsOpening : Text := "layouts/"

/-- How the names of partials start. -/
def partialsOpening : Text := "partials/"

/-- The role that a name gives to a template. -/
def ofName (name : Text) : Role :=
  if Text.startsWith name layoutsOpening then .layout
  else if Text.startsWith name partialsOpening then .partialRole
  else .page

end Role

/-- The templates of a source by role, each list in order, with the path of each name. -/
structure Discovery where
  layouts : List Text
  partials : List Text
  pages : List Text
  paths : List (Text × Text)
  deriving Inhabited

namespace Discovery

/-- Layouts, then partials. -/
def base (discovery : Discovery) : List Text := discovery.layouts ++ discovery.partials

/-- The path of a name. -/
def path? (discovery : Discovery) (name : Text) : Option Text := discovery.paths.lookup name

/-- Whether a name is that of a template. -/
def contains (discovery : Discovery) (name : Text) : Bool := (discovery.path? name).isSome

/-- How the paths of templates start, given their root. -/
def opening (root : Text) : Text :=
  let name := Path.templateName root
  if name.isEmpty then [] else name ++ [Path.slash]

/-- The name that a path gives to a template, if it lies below the root and has one of the
extensions. -/
def nameOf? (root : Text) (extensions : List Text) (path : Text) : Option Text :=
  let normal := Path.templateName path
  if extensions.any fun extension => Text.endsWith normal extension then
    Text.dropOpening? (opening root) normal
  else none

/-- Adds a path to those that claim a name. -/
def claim (name path : Text) : List (Text × List Text) → List (Text × List Text)
  | [] => [(name, [path])]
  | (other, paths) :: rest =>
    if other = name then (other, paths ++ [path]) :: rest
    else (other, paths) :: claim name path rest

/-- The names that paths claim, in the order of the first path of each. -/
def claims (root : Text) (extensions paths : List Text) : List (Text × List Text) :=
  paths.foldl (fun so path =>
    match nameOf? root extensions path with
    | some name => claim name path so
    | none => so) []

/-- The templates of a listing, or the fault of the first name that several paths claim. -/
def ofPaths (root : Text) (extensions paths : List Text) : Except Fault Discovery :=
  let claimed := claims root extensions paths
  match claimed.find? fun (_, paths) => 1 < paths.length with
  | some (name, paths) => .error (.duplicate (.text name) (Text.sorted paths))
  | none =>
    let names := claimed.map Prod.fst
    let withRole (role : Role) : List Text :=
      Text.sorted (names.filter fun name => Role.ofName name = role)
    .ok { layouts := withRole .layout
          partials := withRole .partialRole
          pages := withRole .page
          paths := claimed.map fun (name, paths) => (name, paths.headD []) }

/-- The templates of a source. -/
def ofSource (disk : Node) (source : Source) (root : Text) (extensions : List Text) :
    Except Problem Discovery := do
  (ofPaths root extensions (← source.list disk)).mapError .fault

/-- A root as it is configured, which only a text can be. -/
def rootText (root : Data) : Except Failure Text :=
  match root with
  | .bytes _ => .error (.wrongType "a bytes-like object is required, not 'str'")
  | _ =>
    match root.text? with
    | some text => .ok text
    | none => .error (.missingAttribute (Text.ofString root.typeName) "replace")

end Discovery

end PageTemplates
