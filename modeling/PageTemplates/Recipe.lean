import PageTemplates.FunctionTable
import PageTemplates.Policy
import PageTemplates.Render.Powers
import PageTemplates.Text.Case
import PageTemplates.Text.Search

/-!
Which templates are escaped: those whose names end in an extension of markup, in any case of letters.
The extensions under which templates are found count as extensions of markup too.
-/

namespace PageTemplates.Autoescape

/-- The extensions that always stand for markup. -/
def markupExtensions : List Text := ["html", "htm", "xml", "xhtml"]

/-- An extension without the dots it starts with. -/
def bare (extension : Text) : Text := extension.dropWhile (· = .scalar '.')

/-- The extensions of escaped templates, without dots and each once. -/
def suffixes (extensions : List Text) : List Text :=
  extensions.foldl (fun so extension =>
    let extension := bare extension
    if extension.isEmpty || List.contains so extension then so else so ++ [extension])
    markupExtensions

/-- How the name of a template ends that has an extension: a dot and the extension in small letters. -/
def ending (suffix : Text) : Text := "." ++ Text.lower (bare suffix)

/-- Whether a template is escaped. A template without a name is. -/
def selects (extensions : List Text) : Option Text → Bool
  | none => true
  | some name =>
    (suffixes extensions).any fun suffix => Text.endsWith (Text.lower name) (ending suffix)

/-- Which templates are escaped, or that none is. -/
def choose (enabled : Bool) (extensions : List Text) : Option (Option Text → Bool) :=
  if enabled then some (selects extensions) else none

end PageTemplates.Autoescape

/-!
Recipes: what all template sets of a compiler have in common, and the environment that follows from
it. Without a policy every filter, test and global name is there. Under a policy only the allowed ones
are; the functions of the table are always allowed, and win over other global names.
-/

namespace PageTemplates

/-- What template sets are made with. -/
structure Recipe where
  table : FunctionTable
  policy : Option Policy
  strict : Bool
  escapes : Option (Option Text → Bool)

namespace Recipe

/-- The recipe for a table, policy and settings; the extensions of templates stand for markup. -/
def make (table : FunctionTable) (policy : Option Policy) (autoescape strict : Bool)
    (extensions : List Text) : Recipe where
  table := table
  policy := policy
  strict := strict
  escapes := Autoescape.choose autoescape extensions

/-- The filters there are. -/
def allFilters : List String := Filter.rules.map Prod.fst

/-- The tests there are. -/
def allTests : List String := Test.rules.map Prod.fst

/-- The global names that are there besides functions. Under a guard ranges are bounded. -/
def commonGlobals (guard : Guard) : List (Text × Value) :=
  [ ("range", if guard = .open then .builtin "range" else .builtin "safe_range"),
    ("dict", .builtin "dict"),
    ("lipsum", .builtin "lipsum"),
    ("cycler", .builtin "cycler"),
    ("joiner", .builtin "joiner"),
    ("namespace", .builtin "namespace") ]

/-- Global names with those of a table put over them. -/
def withTable (table : FunctionTable) (globals : List (Text × Value)) : List (Text × Value) :=
  table.globals.foldl (fun so (name, value) => Run.putPair name value so) globals

/-- Which templates are escaped. -/
def escapesName (recipe : Recipe) (name : Text) : Bool :=
  match recipe.escapes with
  | some selects => selects (some name)
  | none => false

/-- The policy of a recipe, which allows the functions of the table. -/
def effectivePolicy? (recipe : Recipe) : Option Policy :=
  recipe.policy.map fun policy => policy.registering recipe.table.registered

/-- The environment of every set made with a recipe. -/
def environment (recipe : Recipe) : Environment :=
  match recipe.effectivePolicy? with
  | none =>
    { strict := recipe.strict
      guard := .open
      filters := allFilters
      tests := allTests
      globals := withTable recipe.table (commonGlobals .open)
      escapes := recipe.escapesName }
  | some policy =>
    { strict := recipe.strict
      guard := policy.guard
      filters := allFilters.filter fun name => policy.allowsFilter (Text.ofString name)
      tests := allTests.filter fun name => policy.allowsTest (Text.ofString name)
      globals := (withTable recipe.table (commonGlobals policy.guard)).filter fun (name, _) =>
        policy.allowsGlobal name
      escapes := recipe.escapesName }

end Recipe

end PageTemplates
