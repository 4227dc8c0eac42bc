import PageTemplates.Discovery
import PageTemplates.TemplateSet

/-!
Builds: template sets made of a source. All layouts and partials make up the base; each page is
compiled on top of a clone of it. What a build reads is recorded in order, and a build ends with the
first template that cannot be read or compiled.
-/

namespace PageTemplates

/-- A computation that reads paths of a source, latest first, and may end with a problem. -/
abbrev Build := ExceptT Problem (StateM (List Text))

namespace Build

/-- Settles a result. -/
def settled {Result : Type} (result : Except Problem Result) : Build Result :=
  ExceptT.mk (pure result)

/-- The result of a build that starts with nothing read. -/
def outcome {Result : Type} (build : Build Result) : Except Problem Result := (build.run []).1

/-- The paths that a build reads, in order. -/
def reads {Result : Type} (build : Build Result) : List Text := (build.run []).2.reverse

/-- Reads the text of a path. -/
def readText (disk : Node) (source : Source) (path : Text) : Build Text := do
  modify fun paths => path :: paths
  settled (source.readText disk path)

/-- The path of a template that was discovered. -/
def pathOf (discovery : Discovery) (name : Text) : Build Text :=
  match discovery.path? name with
  | some path => return path
  | none => throw (.failure (.missingKey (Text.quoted name)))

/-- Reads a template and adds it to a set. -/
def addFrom (disk : Node) (source : Source) (discovery : Discovery) (set : TemplateSet)
    (name : Text) : Build TemplateSet := do
  let path ← pathOf discovery name
  let text ← readText disk source path
  settled (set.add name text (some path))

/-- The set of all layouts and partials. -/
def base (recipe : Recipe) (disk : Node) (source : Source) (discovery : Discovery) :
    Build TemplateSet :=
  discovery.base.foldlM (addFrom disk source discovery) (.empty recipe)

/-- The set of a page: the base with the page on top. -/
def page (disk : Node) (source : Source) (discovery : Discovery) (base : TemplateSet)
    (name : Text) : Build TemplateSet :=
  addFrom disk source discovery base name

/-- The sets of all pages by name. -/
def all (recipe : Recipe) (disk : Node) (source : Source) (root : Text) (extensions : List Text) :
    Build (List (Text × TemplateSet)) := do
  let discovery ← settled (Discovery.ofSource disk source root extensions)
  let base ← base recipe disk source discovery
  discovery.pages.mapM fun name => do return (name, ← page disk source discovery base name)

/-- The set of one page, if there is such a page. -/
def one (recipe : Recipe) (disk : Node) (source : Source) (root : Text) (extensions : List Text)
    (name : Text) : Build (Option TemplateSet) := do
  let discovery ← settled (Discovery.ofSource disk source root extensions)
  let base ← base recipe disk source discovery
  if List.contains discovery.pages name then
    return some (← page disk source discovery base name)
  else return none

end Build

end PageTemplates
